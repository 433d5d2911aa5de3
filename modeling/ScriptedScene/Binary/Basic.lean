import ScriptedScene.Powers

/-!
Binary interchange formats. A value of a format is its bit pattern; `Binary.datum` says which number
a pattern stands for, and `Binary.ofRatio` rounds any nonnegative ratio of naturals to the nearest
value of the format, a tie going to the even neighbour. Everything else (widening, narrowing,
arithmetic, reading decimals) goes through these two, so no result depends on the machine's floats.
-/

namespace ScriptedScene

/-- A binary interchange format: a sign bit, `exponentBits` bits of biased exponent, and
`fractionBits` bits of significand below the leading one. -/
structure Format where
  exponentBits : Nat
  fractionBits : Nat
  deriving DecidableEq, Repr

namespace Format

/-- The format of 32 bits. -/
def single : Format := ⟨8, 23⟩

/-- The format of 64 bits. -/
def double : Format := ⟨11, 52⟩

/-- How many bits a value has. -/
def width (f : Format) : Nat := 1 + f.exponentBits + f.fractionBits

/-- The weight of the lowest exponent bit in a code. -/
def exponentUnit (f : Format) : Nat := twoTo f.fractionBits

/-- The weight of the sign bit in a code. -/
def signUnit (f : Format) : Nat := twoTo (f.exponentBits + f.fractionBits)

/-- The code of positive infinity; the codes below it are the finite magnitudes in order. -/
def infinityCode (f : Format) : Nat := (twoTo f.exponentBits - 1) * f.exponentUnit

/-- The smallest positive value is two to this power. -/
def leastExponent (f : Format) : Int := 2 - (twoTo (f.exponentBits - 1) : Int) - f.fractionBits

end Format

/-- What a bit pattern stands for. A finite value is `significand * 2 ^ exponent`. -/
inductive Datum where
  | nan
  | infinite (negative : Bool)
  | finite (negative : Bool) (significand : Nat) (exponent : Int)
  deriving DecidableEq, Repr

/-- A value of a binary format, given by its bits. -/
structure Binary (f : Format) where
  bits : BitVec f.width
  deriving DecidableEq, Repr

/-- Values of 32 bits. -/
abbrev Binary32 := Binary Format.single

/-- Values of 64 bits. -/
abbrev Binary64 := Binary Format.double

namespace Binary

variable {f : Format}

/-- The value whose sign and magnitude code are given. -/
def ofMagnitude (negative : Bool) (code : Nat) : Binary f :=
  ⟨BitVec.ofNat _ (code + if negative then f.signUnit else 0)⟩

/-- The code of the value without its sign. -/
def magnitude (x : Binary f) : Nat := x.bits.toNat % f.signUnit

/-- Whether the sign bit is set. -/
def negative (x : Binary f) : Bool := f.signUnit ≤ x.bits.toNat

/-- The one value used for "not a number" where an operation makes it. -/
def nan : Binary f := ofMagnitude false (f.infinityCode + f.exponentUnit / 2)

def infinity (negative : Bool) : Binary f := ofMagnitude negative f.infinityCode

def zero (negative : Bool) : Binary f := ofMagnitude negative 0

instance : Inhabited (Binary f) := ⟨zero false⟩

def isNaN (x : Binary f) : Bool := f.infinityCode < x.magnitude

def isFinite (x : Binary f) : Bool := x.magnitude < f.infinityCode

def isZero (x : Binary f) : Bool := x.magnitude = 0

/-- What the bits stand for. -/
def datum (x : Binary f) : Datum :=
  let code := x.magnitude
  if f.infinityCode < code then .nan
  else if code = f.infinityCode then .infinite x.negative
  else if code < f.exponentUnit then .finite x.negative code f.leastExponent
  else
    .finite x.negative (code % f.exponentUnit + f.exponentUnit)
      (f.leastExponent + (code / f.exponentUnit - 1 : Nat))

end Binary

/-- The whole number nearest to `num / den`, a tie going to the even one. -/
def roundHalfEven (num den : Nat) : Nat :=
  let quotient := num / den
  let twice := 2 * (num % den)
  if twice < den then quotient
  else if den < twice then quotient + 1
  else quotient + quotient % 2

/-- The exponent of the largest power of two that is not above `num / den`, both positive. -/
def floorLog2 (num den : Nat) : Int :=
  let estimate : Int := num.log2 - den.log2
  if num * twoTo (-estimate).toNat < den * twoTo estimate.toNat then estimate - 1 else estimate

namespace Binary

variable {f : Format}

/-- The magnitude code of the value nearest to `num / den`. The codes of one exponent are as far apart
as the significand's last place, so the count of last places is added to the exponent's own code; a
count that rounds up past the last significand lands on the next exponent by itself. -/
def roundedCode (f : Format) (num den : Nat) : Nat :=
  if num = 0 then 0
  else
    let place := max (floorLog2 num den - f.fractionBits) f.leastExponent
    let count := roundHalfEven (num * twoTo (-place).toNat) (den * twoTo place.toNat)
    min f.infinityCode ((place - f.leastExponent).toNat * f.exponentUnit + count)

/-- The value nearest to `num / den`, with the given sign; a ratio that is too large gives infinity. -/
def ofRatio (negative : Bool) (num den : Nat) : Binary f :=
  ofMagnitude negative (roundedCode f num den)

/-- The value nearest to `significand * 2 ^ exponent`. -/
def ofScaled (negative : Bool) (significand : Nat) (exponent : Int) : Binary f :=
  ofRatio negative (significand * twoTo exponent.toNat) (twoTo (-exponent).toNat)

def ofDatum : Datum → Binary f
  | .nan => nan
  | .infinite negative => infinity negative
  | .finite negative significand exponent => ofScaled negative significand exponent

def ofNat (n : Nat) : Binary f := ofRatio false n 1

def ofInt (i : Int) : Binary f := ofRatio (i < 0) i.natAbs 1

/-- The nearest value of another format; a wider format takes every value exactly. -/
def convert (x : Binary f) (g : Format) : Binary g := ofDatum x.datum

/-- The exact 64-bit value of a 32-bit one. -/
def widen (x : Binary32) : Binary64 := x.convert .double

/-- The 32-bit value nearest to a 64-bit one. -/
def narrow (x : Binary64) : Binary32 := x.convert .single

/-- The value with its fraction dropped, if it is finite. -/
def truncate? (x : Binary f) : Option Int :=
  match x.datum with
  | .finite negative significand exponent =>
    let size : Nat := significand * twoTo exponent.toNat / twoTo (-exponent).toNat
    some (if negative then -size else size)
  | _ => none

/-- The value as a whole number, if it is one. Negative zero is not: a whole number has no sign to
spare for it. -/
def toInt? (x : Binary f) : Option Int :=
  match x.datum with
  | .finite negative significand exponent =>
    let scaled := significand * twoTo exponent.toNat
    let unit := twoTo (-exponent).toNat
    if scaled % unit = 0 && !(negative && scaled == 0) then
      let size : Nat := scaled / unit
      some (if negative then -size else size)
    else none
  | _ => none

/-- Order key of a value that is a number: magnitudes count from zero in both directions. -/
def orderKey (x : Binary f) : Int := if x.negative then -(x.magnitude : Int) else x.magnitude

/-- Numeric order; nothing is below or above what is not a number. -/
def lt (x y : Binary f) : Bool := !x.isNaN && !y.isNaN && x.orderKey < y.orderKey

/-- The smaller of two values; of a value and what is not a number, the value. -/
def lesser (x y : Binary f) : Binary f := if x.isNaN || y.lt x then y else x

/-- Numeric equality: the two zeros are equal, and what is not a number equals nothing. -/
def numEq (x y : Binary f) : Bool := !x.isNaN && !y.isNaN && x.orderKey == y.orderKey

end Binary

end ScriptedScene
