import ScriptedScene.Binary.Basic

/-!
Decimals, `digits * 10 ^ exponent`, and the binary value nearest to one.
-/

namespace ScriptedScene

/-- A nonnegative decimal, `digits * 10 ^ exponent`. -/
structure Decimal where
  digits : Nat
  exponent : Int
  deriving DecidableEq, Repr

namespace Decimal

/-- How many decimal digits a number has; zero has one. -/
def length (n : Nat) : Nat := (Nat.toDigits 10 n).length

/-- Past this power of ten, in either direction, every 64-bit value is infinite or zero. -/
def reach : Int := 400

/-- The value nearest to the decimal. A decimal far outside the format's range is settled by its size
alone, so that no huge power of ten is ever built. -/
def toBinary (negative : Bool) (d : Decimal) : Binary f :=
  if d.digits = 0 then .zero negative
  else if reach < d.exponent + length d.digits then .infinity negative
  else if d.exponent + length d.digits < -reach then .zero negative
  else .ofRatio negative (d.digits * tenTo d.exponent.toNat) (tenTo (-d.exponent).toNat)

/-- The number that a run of digits spells. -/
def ofDigits (digits : List Char) : Nat :=
  digits.foldl (fun n c => 10 * n + (c.toNat - '0'.toNat)) 0

/-- Splits a sign off a numeral: whether it is a minus, and the rest. -/
def splitSign : List Char → Bool × List Char
  | '-' :: rest => (true, rest)
  | '+' :: rest => (false, rest)
  | cs => (false, cs)

/-- The exponent part of a numeral: nothing, or a mark with a signed run of digits. -/
def readExponent? : List Char → Option Int
  | [] => some 0
  | c :: rest =>
    if c == 'e' || c == 'E' then
      let (negative, digits) := splitSign rest
      if digits.isEmpty || !digits.all Char.isDigit then none
      else if negative then some (-(ofDigits digits : Int)) else some (ofDigits digits)
    else none

/-- Reads an unsigned numeral: digits, perhaps a point with digits, perhaps an exponent. -/
def read? (cs : List Char) : Option Decimal :=
  let whole := cs.takeWhile Char.isDigit
  let (fraction, rest) :=
    match cs.dropWhile Char.isDigit with
    | '.' :: more => (more.takeWhile Char.isDigit, more.dropWhile Char.isDigit)
    | more => ([], more)
  if (whole ++ fraction).isEmpty then none
  else (readExponent? rest).map fun e => ⟨ofDigits (whole ++ fraction), e - fraction.length⟩

end Decimal

/-- Reads a signed numeral, or one of the names `NaN`, `Infinity` and `inf`, as the nearest value. -/
def Binary.read? (text : String) : Option (Binary f) :=
  let (negative, body) := Decimal.splitSign text.toList
  if body == "NaN".toList then some .nan
  else if body == "Infinity".toList || body == "inf".toList then some (.infinity negative)
  else (Decimal.read? body).map (·.toBinary negative)

end ScriptedScene
