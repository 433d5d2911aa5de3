/-!
Guest text: a list of UTF-16 units, in which a surrogate may stand alone. `Units.decode` gives the text
that the units spell, and says where it is if a surrogate has no partner.
-/

namespace ScriptedScene.Guest

/-- A text as its UTF-16 units. -/
structure Units where
  list : List UInt16
  deriving DecidableEq, Repr

namespace Units

/-- The units of one character: one, or a pair of surrogates. -/
def ofChar (c : Char) : List UInt16 :=
  let n := c.toNat
  if n < 0x10000 then [n.toUInt16]
  else [(0xD800 + (n - 0x10000) / 0x400).toUInt16, (0xDC00 + (n - 0x10000) % 0x400).toUInt16]

def ofString (s : String) : Units := ⟨s.toList.flatMap ofChar⟩

instance : Coe String Units := ⟨ofString⟩

instance : Append Units := ⟨fun a b => ⟨a.list ++ b.list⟩⟩

instance : Inhabited Units := ⟨⟨[]⟩⟩

def empty : Units := ⟨[]⟩

def length (t : Units) : Nat := t.list.length

def isEmpty (t : Units) : Bool := t.list.isEmpty

def ofNat (n : Nat) : Units := ofString (toString n)

def isLeading (u : UInt16) : Bool := 0xD800 ≤ u && u < 0xDC00

def isTrailing (u : UInt16) : Bool := 0xDC00 ≤ u && u < 0xE000

/-- The character of a pair of surrogates. -/
def pairChar (high low : UInt16) : Char :=
  Char.ofNat (0x10000 + (high.toNat - 0xD800) * 0x400 + (low.toNat - 0xDC00))

/-- How many bytes a unit outside of a pair takes in UTF-8. -/
def unitBytes (u : UInt16) : Nat := if u < 0x80 then 1 else if u < 0x800 then 2 else 3

/-- Decodes units after `offset` bytes; fails with the offset of the first lone surrogate. -/
def decodeFrom (offset : Nat) : List UInt16 → Except Nat (List Char)
  | [] => .ok []
  | u :: rest =>
    if isLeading u then
      match rest with
      | v :: rest =>
        if isTrailing v then (decodeFrom (offset + 4) rest).map (pairChar u v :: ·) else .error offset
      | [] => .error offset
    else if isTrailing u then .error offset
    else (decodeFrom (offset + unitBytes u) rest).map (Char.ofNat u.toNat :: ·)

/-- The text that the units spell, or how many bytes of it come before the first lone surrogate. -/
def decode (t : Units) : Except Nat String := (decodeFrom 0 t.list).map String.ofList

/-- The decimal number that the units spell, if they are all digits. -/
def digits? (t : Units) : Option Nat :=
  if t.isEmpty then none
  else t.list.foldl (fun n u => n.bind fun n =>
    if 48 ≤ u && u < 58 then some (10 * n + (u.toNat - 48)) else none) (some 0)

/-- The array index that a key is, if it is one: a number below `2 ^ 32 - 1`, written as numbers are. -/
def index? (t : Units) : Option Nat :=
  t.digits?.filter fun n => n < 4294967295 && t = ofNat n

/-- The texts with a separator between them. -/
def join (separator : Units) : List Units → Units
  | [] => empty
  | [t] => t
  | t :: rest => t ++ separator ++ join separator rest

/-- The units before the first NUL. -/
def beforeNul (t : Units) : Units := ⟨t.list.takeWhile (· != 0)⟩

end Units

end ScriptedScene.Guest
