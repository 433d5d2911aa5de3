import ScriptedScene.Binary.Basic

/-!
Sum, difference, product and quotient of binary values. Each is the exact result, rounded once; the
cases of zeros, infinities and what is not a number are spelled out.
-/

namespace ScriptedScene

namespace Binary

variable {f : Format}

/-- The value with the opposite sign. -/
def neg (x : Binary f) : Binary f := ofMagnitude (!x.negative) x.magnitude

/-- The value nearest to the whole number `i` times `2 ^ exponent`, with `negativeZero` as the sign of
a zero result. -/
def ofSignedScaled (i : Int) (exponent : Int) (negativeZero : Bool) : Binary f :=
  ofScaled (if i = 0 then negativeZero else i < 0) i.natAbs exponent

/-- A finite value as a whole number of units of `2 ^ unit`, where `unit ≤ exponent`. -/
private def alignedTo (unit : Int) (negative : Bool) (significand : Nat) (exponent : Int) : Int :=
  let size : Nat := significand * twoTo (exponent - unit).toNat
  if negative then -size else size

/-- The rounded sum. An exact zero is negative only if both terms are. -/
def add (x y : Binary f) : Binary f :=
  match x.datum, y.datum with
  | .nan, _ => nan
  | _, .nan => nan
  | .infinite s, .infinite t => if s = t then infinity s else nan
  | .infinite s, _ => infinity s
  | _, .infinite t => infinity t
  | .finite s m e, .finite t n g =>
    let unit := min e g
    ofSignedScaled (alignedTo unit s m e + alignedTo unit t n g) unit (s && t)

/-- The rounded difference. -/
def sub (x y : Binary f) : Binary f := add x (if y.isNaN then y else y.neg)

/-- The rounded product. -/
def mul (x y : Binary f) : Binary f :=
  match x.datum, y.datum with
  | .nan, _ => nan
  | _, .nan => nan
  | .infinite s, .infinite t => infinity (s != t)
  | .infinite s, .finite t n _ => if n = 0 then nan else infinity (s != t)
  | .finite s m _, .infinite t => if m = 0 then nan else infinity (s != t)
  | .finite s m e, .finite t n g => ofScaled (s != t) (m * n) (e + g)

/-- The rounded quotient. -/
def div (x y : Binary f) : Binary f :=
  match x.datum, y.datum with
  | .nan, _ => nan
  | _, .nan => nan
  | .infinite _, .infinite _ => nan
  | .infinite s, .finite t _ _ => infinity (s != t)
  | .finite s _ _, .infinite t => zero (s != t)
  | .finite s m e, .finite t n g =>
    if n = 0 then
      if m = 0 then nan else infinity (s != t)
    else ofRatio (s != t) (m * twoTo (e - g).toNat) (n * twoTo (g - e).toNat)

instance : Add (Binary f) := ⟨add⟩
instance : Sub (Binary f) := ⟨sub⟩
instance : Mul (Binary f) := ⟨mul⟩
instance : Div (Binary f) := ⟨div⟩
instance : Neg (Binary f) := ⟨neg⟩

end Binary

end ScriptedScene
