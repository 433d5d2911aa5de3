import ScriptedScene.Guest.Catalogue

/-!
Texts with escapes: what a way of escaping keeps stands for itself, all else is written in hexadecimal after a
percent sign, by its bytes or by its units.
-/

namespace ScriptedScene.Guest

namespace Escaping

/-- The unit of a character. -/
def unitOf (c : Char) : UInt16 := c.toNat.toUInt16

/-- Letters and digits. -/
def isPlain (u : UInt16) : Bool := u < 0x80 && (Char.ofNat u.toNat).isAlphanum

/-- The characters that separate the parts of an address. -/
def separators : List UInt16 := ";/?:@&=+$,#".toList.map unitOf

/-- Marks that may stand in any part of an address. -/
def marks : List UInt16 := "-_.!~*'()".toList.map unitOf

/-- Marks that are kept where units are escaped. -/
def unitMarks : List UInt16 := "@*_+-./".toList.map unitOf

/-- Whether a unit stands for itself. -/
def keeps (e : Escaping) (u : UInt16) : Bool :=
  match e with
  | component => isPlain u || marks.contains u
  | address => isPlain u || marks.contains u || separators.contains u
  | units => isPlain u || unitMarks.contains u

/-- A hexadecimal digit in capitals. -/
def hexDigit (d : Nat) : UInt16 := (if d < 10 then 48 + d else 55 + d).toUInt16

/-- A byte after a percent sign. -/
def percentByte (n : Nat) : List UInt16 := [unitOf '%', hexDigit (n / 16 % 16), hexDigit (n % 16)]

/-- A unit after a percent sign: two digits, or four if two are too few. -/
def percentUnit (u : UInt16) : List UInt16 :=
  let n := u.toNat
  if n < 256 then percentByte n
  else unitOf '%' :: unitOf 'u' :: [4096, 256, 16, 1].map fun place => hexDigit (n / place % 16)

/-- Writes a text with escapes. By bytes only whole characters can be written. -/
def encodeFrom (e : Escaping) : List UInt16 → Option (List UInt16)
  | [] => some []
  | u :: rest =>
    if e.keeps u then (encodeFrom e rest).map (u :: ·)
    else if e = units then (encodeFrom e rest).map (percentUnit u ++ ·)
    else if Units.isTrailing u then none
    else if Units.isLeading u then
      match rest with
      | v :: rest =>
        if Units.isTrailing v then
          (encodeFrom e rest).map
            ((String.singleton (Units.pairChar u v)).toUTF8.toList.flatMap (percentByte ·.toNat) ++ ·)
        else none
      | [] => none
    else
      (encodeFrom e rest).map
        ((String.singleton (Char.ofNat u.toNat)).toUTF8.toList.flatMap (percentByte ·.toNat) ++ ·)

def encode (e : Escaping) (t : Units) : Option Units := (encodeFrom e t.list).map Units.mk

/-- The number that hexadecimal digits spell. -/
def hexValue? (digits : List UInt16) : Option Nat :=
  Units.readBase? 16 (digits.map fun u => Char.ofNat u.toNat)

/-- The byte that the text starts with, if it starts with one after a percent sign, and the rest. -/
def byte? : List UInt16 → Option (Nat × List UInt16)
  | p :: a :: b :: rest => if p = unitOf '%' then (hexValue? [a, b]).map fun n => (n, rest) else none
  | _ => none

/-- So many bytes after percent signs, and the rest. -/
def bytes? : Nat → List UInt16 → Option (List Nat × List UInt16)
  | 0, t => some ([], t)
  | count + 1, t =>
    (byte? t).bind fun (n, t) => (bytes? count t).map fun (ns, t) => (n :: ns, t)

/-- How many bytes follow the first one of a character. -/
def following (n : Nat) : Nat :=
  if 0xC0 ≤ n && n < 0xE0 then 1
  else if 0xE0 ≤ n && n < 0xF0 then 2
  else if 0xF0 ≤ n && n < 0xF8 then 3
  else 0

/-- Reads a text that was escaped by bytes, in at most so many steps. An escaped separator of an address stays
as it is. -/
def decodeBytes (e : Escaping) : Nat → List UInt16 → Option (List UInt16)
  | 0, _ => some []
  | _, [] => some []
  | bound + 1, u :: rest =>
    if u != unitOf '%' then (decodeBytes e bound rest).map (u :: ·)
    else
      match byte? (u :: rest) with
      | none => none
      | some (n, after) =>
        if e = address && separators.contains n.toUInt16 && n < 128 then
          (decodeBytes e bound rest).map (u :: ·)
        else
          match bytes? (following n) after with
          | none => none
          | some (ns, after) =>
            match String.fromUTF8? (ByteArray.mk ((n :: ns).map Nat.toUInt8).toArray) with
            | none => none
            | some s => (decodeBytes e bound after).map ((Units.ofString s).list ++ ·)

/-- Reads a text that was escaped by units, in at most so many steps. What is no escape stands for itself. -/
def decodeUnits : Nat → List UInt16 → List UInt16
  | 0, _ => []
  | _, [] => []
  | bound + 1, u :: rest =>
    let wide :=
      match u :: rest with
      | p :: m :: a :: b :: c :: d :: after =>
        if p = unitOf '%' && m = unitOf 'u' then (hexValue? [a, b, c, d]).map fun n => (n, after) else none
      | _ => none
    match wide, byte? (u :: rest) with
    | some (n, after), _ => n.toUInt16 :: decodeUnits bound after
    | none, some (n, after) => n.toUInt16 :: decodeUnits bound after
    | none, none => u :: decodeUnits bound rest

/-- Reads a text with escapes. -/
def decode (e : Escaping) (t : Units) : Option Units :=
  match e with
  | units => some ⟨decodeUnits t.length t.list⟩
  | e => (decodeBytes e t.length t.list).map Units.mk

end Escaping

end ScriptedScene.Guest
