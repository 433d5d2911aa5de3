import ScriptedScene.Guest.Units
import ScriptedScene.Decimal.Style

/-!
Numerals: the numbers that guest texts spell, and the texts of numbers, in ten and in other bases. The text of a
number reads back as the number, so the keys that are texts of numbers are known by writing what they read as.
-/

namespace ScriptedScene.Guest

namespace Units

/-- Blank units around a numeral. -/
def isBlank (u : UInt16) : Bool :=
  (9 ≤ u && u ≤ 13) || u = 0x20 || u = 0xA0 || u = 0x1680 || (0x2000 ≤ u && u ≤ 0x200A) ||
    u = 0x2028 || u = 0x2029 || u = 0x202F || u = 0x205F || u = 0x3000 || u = 0xFEFF

/-- The value of a digit in any base up to thirty-six. -/
def digitValue? (c : Char) : Option Nat :=
  if c.isDigit then some (c.toNat - 48)
  else if 'a' ≤ c && c ≤ 'z' then some (c.toNat - 87)
  else if 'A' ≤ c && c ≤ 'Z' then some (c.toNat - 55)
  else none

/-- The number that digits of a base spell. -/
def readBase? (base : Nat) (digits : List Char) : Option Nat :=
  if digits.isEmpty then none
  else digits.foldl (fun n c => n.bind fun n =>
    (digitValue? c).bind fun d => if d < base then some (n * base + d) else none) (some 0)

/-- The base that a mark at the start of a numeral names, with the digits after the mark. -/
def basePart? : List Char → Option (Nat × List Char)
  | '0' :: 'x' :: digits | '0' :: 'X' :: digits => some (16, digits)
  | '0' :: 'o' :: digits | '0' :: 'O' :: digits => some (8, digits)
  | '0' :: 'b' :: digits | '0' :: 'B' :: digits => some (2, digits)
  | _ => none

/-- The characters of a text without the blanks around them; none if a surrogate stands alone. -/
def trimmed? (t : Units) : Option (List Char) :=
  let inner := ((t.list.dropWhile isBlank).reverse.dropWhile isBlank).reverse
  match Units.decode ⟨inner⟩ with
  | .ok s => some s.toList
  | .error _ => none

/-- The number that characters without blanks around them spell; no characters at all spell zero. -/
def readNumeral (cs : List Char) : Binary64 :=
  match cs, basePart? cs with
  | [], _ => .zero false
  | _, some (base, digits) => ((readBase? base digits).map Binary.ofNat).getD .nan
  | cs, none =>
    let (negative, body) := Decimal.splitSign cs
    if body = "Infinity".toList then .infinity negative
    else ((Decimal.read? body).map fun d => d.toBinary negative).getD .nan

/-- The number that a text spells; blanks around it do not matter. -/
def toNumber (t : Units) : Binary64 := (t.trimmed?.map readNumeral).getD .nan

/-- The whole number that characters without blanks around them spell. -/
def readInteger? (cs : List Char) : Option Int :=
  match cs, basePart? cs with
  | [], _ => some 0
  | _, some (base, digits) => (readBase? base digits).map fun n => n
  | cs, none =>
    let (negative, digits) := Decimal.splitSign cs
    (readBase? 10 digits).map fun n => if negative then -n else n

/-- The whole number that a text spells, of any size; blanks around it do not matter. -/
def toInteger? (t : Units) : Option Int := t.trimmed?.bind readInteger?

/-- The text of a number. -/
def ofNumber (x : Binary64) : Units := NumberStyle.guest.write x

/-- Whether a key is the text of a number. Negative zero, whose text has no sign, is one with it. -/
def isNumeric (t : Units) : Bool := t = ofString "-0" || ofNumber t.toNumber = t

/-- A digit of any base up to thirty-six. -/
def digitChar (d : Nat) : Char := Char.ofNat (if d < 10 then 48 + d else 87 + d)

/-- The digits of a number in a base, before those that are there already, of at most so many. -/
def digitsFrom (base : Nat) : Nat → Nat → List Char → List Char
  | 0, _, digits => digits
  | bound + 1, n, digits =>
    let digits := digitChar (n % base) :: digits
    if n < base then digits else digitsFrom base bound (n / base) digits

/-- A whole number in a base. -/
def digitsIn (base n : Nat) : List Char := digitsFrom base (n.log2 + 1) n []

/-- The text of a whole number in a base. -/
def ofIntegerIn (base : Nat) (i : Int) : Units :=
  let digits := digitsIn base i.natAbs
  ofString (String.ofList (if i < 0 then '-' :: digits else digits))

/-- The first places of the fraction `num / den` in a base, as a whole number of units of the last of them,
and their count: as few as come closer to it than `slack / den`, which shrinks to nothing in at most `bound`
places. -/
def placesIn (base den : Nat) : Nat → (units places num slack : Nat) → Nat × Nat
  | 0, units, places, _, _ => (units, places)
  | bound + 1, units, places, num, slack =>
    let num := num * base
    let slack := slack * base
    let units := units * base + num / den
    let rest := num % den
    if rest < slack then (if 2 * rest < den then units else units + 1, places + 1)
    else if den < rest + slack then (units + 1, places + 1)
    else placesIn base den bound units (places + 1) rest slack

/-- The text of a number in a base: as many places as tell it from its neighbours. -/
def ofNumberIn (base : Nat) (x : Binary64) : Units :=
  match x.datum with
  | .finite negative significand exponent =>
    let num := significand * twoTo exponent.toNat
    let den := twoTo (-exponent).toNat
    if num % den = 0 then ofIntegerIn base (if negative then -(num / den : Nat) else (num / den : Nat))
    else
      let (units, places) := placesIn base (2 * den) 1100 0 0 (2 * (num % den)) 1
      let unit := Nat.pow base places
      let fraction := digitsIn base (units % unit)
      let fraction := List.replicate (places - fraction.length) '0' ++ fraction
      let whole := digitsIn base (num / den + units / unit)
      ofString (String.ofList ((if negative then ['-'] else []) ++ whole ++ '.' :: fraction))
  | _ => ofNumber x

end Units

end ScriptedScene.Guest
