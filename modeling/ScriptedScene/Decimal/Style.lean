import ScriptedScene.Decimal.Shortest

/-!
How a decimal is laid out. A `NumberStyle` is one output format's decisions: where positional writing
ends, whether a whole number keeps a point, how an exponent is marked, and what stands for the values
that are not decimals. Each output that holds numbers has its own record.
-/

namespace ScriptedScene

/-- The decisions of one format for numbers. The *scale* of a decimal is the power of ten just above
it: `1.5` has scale one, `0.015` has scale minus one. -/
structure NumberStyle where
  /-- Which of the shortest decimals is written. -/
  selection : Selection
  /-- The bounds of the scales that are written positionally, if there are any. -/
  positional : Option (Int × Int)
  /-- Whether a whole number is written with `.0`. -/
  keepsPoint : Bool
  /-- Whether a positive exponent has a plus sign. -/
  signsExponent : Bool
  /-- Whether negative zero shows its sign. -/
  signsZero : Bool
  nan : String
  infinity : String

namespace NumberStyle

/-- A text of `n` zeros. -/
def zeros (n : Nat) : String := String.ofList (List.replicate n '0')

/-- A decimal with its point in place. -/
def writePositional (style : NumberStyle) (d : Decimal) : String :=
  let digits := toString d.digits
  let point := if style.keepsPoint then ".0" else ""
  if 0 ≤ d.exponent then digits ++ zeros d.exponent.toNat ++ point
  else
    let places := d.exponent.natAbs
    if digits.length ≤ places then "0." ++ zeros (places - digits.length) ++ digits
    else
      let cs := digits.toList
      String.ofList (cs.take (cs.length - places)) ++ "." ++
        String.ofList (cs.drop (cs.length - places))

/-- A decimal with one digit before the point and an exponent. -/
def writeScientific (style : NumberStyle) (d : Decimal) : String :=
  let cs := (toString d.digits).toList
  let exponent := d.exponent + (cs.length - 1 : Nat)
  let mark := if style.signsExponent && 0 ≤ exponent then "e+" else "e"
  String.ofList (cs.take 1) ++ (if cs.length ≤ 1 then "" else "." ++ String.ofList (cs.drop 1)) ++
    mark ++ toString exponent

/-- A decimal in the style's choice of the two. -/
def writeDecimal (style : NumberStyle) (d : Decimal) : String :=
  let scale := d.exponent + Decimal.length d.digits
  match style.positional with
  | none => style.writePositional d
  | some (low, high) =>
    if d.digits = 0 || (low ≤ scale && scale ≤ high) then style.writePositional d
    else style.writeScientific d

/-- The text of a binary value: the shortest decimal that reads back, in the style's layout. -/
def write (style : NumberStyle) (x : Binary f) : String :=
  match x.datum with
  | .nan => style.nan
  | .infinite negative => if negative then "-" ++ style.infinity else style.infinity
  | .finite negative significand exponent =>
    let sign := if negative && (significand != 0 || style.signsZero) then "-" else ""
    let d := if significand = 0 then ⟨0, 0⟩ else Decimal.shortest style.selection f significand exponent
    sign ++ style.writeDecimal d

/-- Plain digits, however many they are. -/
def plain : NumberStyle where
  selection := .nearestUpper
  positional := none
  keepsPoint := false
  signsExponent := false
  signsZero := true
  nan := "NaN"
  infinity := "inf"

/-- The style of report fields: a point is kept, and positional writing ends at ten thousandths and
at ten to the sixteenth. -/
def report : NumberStyle where
  selection := .nearestUpper
  positional := some (-3, 16)
  keepsPoint := true
  signsExponent := false
  signsZero := true
  nan := "NaN"
  infinity := "inf"

/-- The style of numbers in guest text: no point on whole numbers, no sign on zero. -/
def guest : NumberStyle where
  selection := .rounded
  positional := some (-5, 21)
  keepsPoint := false
  signsExponent := true
  signsZero := false
  nan := "NaN"
  infinity := "Infinity"

end NumberStyle

end ScriptedScene
