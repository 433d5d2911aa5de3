import ScriptedScene.Binary.Arithmetic
import ScriptedScene.Json.Reader

/-!
Numbers in JSON text. A whole number that fits 64 bits stays whole. Any other becomes a 64-bit binary
value in two roundings: as many digits as fit 64 bits are taken as a whole number, and that is
multiplied or divided by the power of ten that is left. The result can differ in its last bit from the
nearest value of the decimal.
-/

namespace ScriptedScene.Json

/-- A number as read: a whole number if it fits 64 bits, else a binary value. -/
inductive Number where
  | whole (i : Int)
  | binary (x : Binary64)
  deriving DecidableEq, Repr

namespace Number

/-- What is said to stand in the text when a number was not wanted. -/
def found : Number → Found
  | whole i => .integer i
  | binary x => .float x

/-- One above the largest whole number of 64 bits. -/
def wholeBound : Nat := twoTo 64

/-- The largest power of ten that a 64-bit binary value holds. -/
def greatestPower : Nat := 308

/-- The largest exponent that is read at all. -/
def exponentLimit : Nat := twoTo 31 - 1

/-- Takes digits into a significand while it stays below the bound, and gives the digits left over. -/
def absorb (significand : Nat) : List Char → Nat × List Char
  | [] => (significand, [])
  | d :: ds =>
    let next := significand * 10 + (d.toNat - '0'.toNat)
    if next < wholeBound then absorb next ds else (significand, d :: ds)

def tenTo (n : Nat) : Binary64 := Decimal.toBinary false ⟨1, n⟩

/-- Divides by the greatest power of ten until the exponent is within reach. Three divisions take any
significand to zero. -/
def scaleDown : Nat → Binary64 → Int → Binary64
  | 0, x, _ => x
  | fuel + 1, x, exponent =>
    if -(greatestPower : Int) ≤ exponent then x / tenTo exponent.natAbs
    else scaleDown fuel (x / tenTo greatestPower) (exponent + greatestPower)

/-- The binary value of `significand * 10 ^ exponent`, unless it is too large. -/
def ofParts? (negative : Bool) (significand : Nat) (exponent : Int) : Option Binary64 :=
  let x := Binary.ofNat significand
  let result? :=
    if exponent < 0 then some (scaleDown 3 x exponent)
    else if (greatestPower : Int) < exponent then
      if x.isZero then some x else none
    else
      let y := x * tenTo exponent.toNat
      if y.isFinite then some y else none
  result?.map fun y => if negative then -y else y

end Number

namespace Reader

/-- The value of the given parts, or the fault of one that is too large. -/
def ofParts (negative : Bool) (significand : Nat) (exponent : Int) : Reader Number :=
  match Number.ofParts? negative significand exponent with
  | some x => return .binary x
  | none => malformed .numberOutOfRange

/-- An exponent, its mark still to be taken, and with it the whole number. -/
def exponent (negative : Bool) (significand : Nat) (shift : Int) : Reader Number := do
  advance
  let negativeExponent ←
    match ← next? with
    | some '+' => do advance; pure false
    | some '-' => do advance; pure true
    | _ => pure false
  match ← next? with
  | none => unfinished .value
  | some c => if !c.isDigit then malformed .invalidNumber
  let size := Decimal.ofDigits (← digits)
  if Number.exponentLimit < size then
    if significand != 0 && !negativeExponent then malformed .numberOutOfRange
    else return .binary (.zero negative)
  else ofParts negative significand (if negativeExponent then shift - size else shift + size)

/-- What may follow the digits of a number that is no longer whole: an exponent or nothing. -/
def exponentPart (negative : Bool) (significand : Nat) (shift : Int) : Reader Number := do
  match ← next? with
  | some 'e' | some 'E' => exponent negative significand shift
  | _ => ofParts negative significand shift

/-- The digits after a point, the point still to be taken, and what follows them. Digits that no
longer fit the significand are dropped. -/
def fraction (negative : Bool) (significand : Nat) (shift : Int) : Reader Number := do
  advance
  let ds ← digits
  if ds.isEmpty then
    match ← next? with
    | none => unfinished .value
    | some _ => malformed .invalidNumber
  else
    let (significand, left) := Number.absorb significand ds
    exponentPart negative significand (shift - (ds.length - left.length : Nat))

/-- A number without its minus. A minus before a whole number gives a binary value if the number is
zero or does not fit. -/
def number (negative : Bool) : Reader Number := do
  if (← next?).isNone then unfinished .value
  let ds ← digits
  match ds with
  | [] => malformed .invalidNumber
  | '0' :: _ :: _ => malformed .invalidNumber
  | _ => pure ()
  let (significand, left) := Number.absorb 0 ds
  match ← next? with
  | some '.' => fraction negative significand left.length
  | some 'e' | some 'E' => exponent negative significand left.length
  | _ =>
    if !left.isEmpty then ofParts negative significand left.length
    else if !negative then return .whole significand
    else if significand = 0 || twoTo 63 < significand then return .binary (-(Binary.ofNat significand))
    else return .whole (-(significand : Int))

end Reader

end ScriptedScene.Json
