import ScriptedScene.Guest.Property
import ScriptedScene.Binary.Arithmetic

/-!
The guest's own conversions between values: to truth, to numbers and to texts, and the operators on them.
-/

namespace ScriptedScene.Guest

namespace Value

/-- Whether a value counts as true in a condition. -/
def isTrue : Value → Bool
  | undefined | null => false
  | boolean b => b
  | integer i => i != 0
  | number x => !(x.isZero || x.isNaN)
  | bigint i => i != 0
  | text t => !t.isEmpty
  | symbol _ _ | object _ => true

/-- Equality without conversion. The form in which a number is kept does not matter. -/
def same (v w : Value) : Bool :=
  match v.number?, w.number? with
  | some x, some y => x.numEq y
  | _, _ => v == w

/-- Whether nothing can tell two values apart: the two zeros differ, and what is not a number is like itself. -/
def alike (v w : Value) : Bool :=
  match v.number?, w.number? with
  | some x, some y => x.isNaN && y.isNaN || x == y
  | _, _ => v == w

/-- The name that a value's kind has for guests. -/
def kindName (v : Value) (callable : Bool) : String :=
  match v with
  | undefined => "undefined"
  | null => "object"
  | boolean _ => "boolean"
  | integer _ | number _ => "number"
  | bigint _ => "bigint"
  | text _ => "string"
  | symbol _ _ => "symbol"
  | object _ => if callable then "function" else "object"

end Value

/-- Which of a primitive's two forms is wanted of an object. -/
inductive Preference where
  | number
  | text
  deriving DecidableEq, Repr

namespace Preference

/-- The methods that are tried, in order. -/
def methods : Preference → List Units
  | number => ["valueOf", "toString"]
  | text => ["toString", "valueOf"]

end Preference

/-- What operators compute with. -/
inductive Numeric where
  | whole (i : Int32)
  | binary (x : Binary64)
  | big (i : Int)
  deriving DecidableEq, Repr

namespace Numeric

def value : Numeric → Value
  | whole i => .integer i
  | binary x => .number x
  | big i => .bigint i

/-- The number as a binary value, if it is not a big integer. -/
def toBinary? : Numeric → Option Binary64
  | whole i => some (.ofInt i.toInt)
  | binary x => some x
  | big _ => none

/-- The number with the opposite sign. Zero has one only as a binary value. -/
def negate : Numeric → Value
  | whole i => if i = 0 then .number (.zero true) else .ofInt (-i.toInt)
  | binary x => .number (if x.isNaN then x else x.neg)
  | big i => .bigint (-i)

/-- The number after this one. -/
def next : Numeric → Value
  | whole i => .ofInt (i.toInt + 1)
  | binary x => .number (x + .ofNat 1)
  | big i => .bigint (i + 1)

end Numeric

namespace Run

/-- Whether a value can be called. -/
def isCallable (v : Value) : Run Bool := ask fun m => (m.callable? v).isSome

/-- The first answer of the methods that is not an object. -/
def primitiveBy (call : Call) (v : Value) : List Units → Run Value
  | [] => throwFault .noPrimitive
  | method :: rest => do
    let f ← get call v method
    if ← isCallable f then
      match ← call f v [] with
      | .object _ => primitiveBy call v rest
      | p => return p
    else primitiveBy call v rest

/-- A value that is no object. The object for a symbol is asked for nothing. -/
def toPrimitive (call : Call) (preference : Preference) (v : Value) : Run Value :=
  match v with
  | .object r => do
    match (← object r).role with
    | .boxed (.symbol id description) => return .symbol id description
    | _ => primitiveBy call v preference.methods
  | _ => return v

/-- The text of a value that is no object. -/
def primitiveText : Value → Run Units
  | .undefined => return "undefined"
  | .null => return "null"
  | .boolean b => return Units.ofString (if b then "true" else "false")
  | .integer i => return Units.ofString (toString i.toInt)
  | .number x => return .ofNumber x
  | .bigint i => return Units.ofString (toString i)
  | .text t => return t
  | .symbol _ _ => throwFault .symbolAsText
  | .object _ => throwFault .noPrimitive

/-- The text of a value. -/
def toText (call : Call) (v : Value) : Run Units := do
  primitiveText (← toPrimitive call .text v)

/-- What operators compute with, of a number in either form. -/
def numericOf (v : Value) : Numeric :=
  match v with
  | .integer i => .whole i
  | .number x => .binary x
  | _ => .binary .nan

/-- What operators compute with, of a value that is no object. -/
def primitiveNumeric : Value → Run Numeric
  | .undefined => return .binary .nan
  | .null => return .whole 0
  | .boolean b => return .whole (if b then 1 else 0)
  | .integer i => return .whole i
  | .number x => return .binary x
  | .bigint i => return .big i
  | .text t => return numericOf (.ofBinary t.toNumber)
  | .symbol _ _ => throwFault .symbolAsNumber
  | .object _ => throwFault .noPrimitive

/-- What operators compute with, of any value. -/
def toNumeric (call : Call) (v : Value) : Run Numeric := do
  primitiveNumeric (← toPrimitive call .number v)

/-- The number of a value; a big integer has none. -/
def toNumber (call : Call) (v : Value) : Run Binary64 := do
  match (← toNumeric call v).toBinary? with
  | some x => return x
  | none => throwFault .bigintAsNumber

/-- The number of a value without its fraction; what is not a number is zero, and what is too large for
64 bits is cut off there. -/
def toWhole (call : Call) (v : Value) : Run Int := do
  let x ← toNumber call v
  match x.truncate? with
  | some i => return max (-(twoTo 63 : Int)) (min (twoTo 63 - 1) i)
  | none => return if x.isNaN then 0 else if x.negative then -(twoTo 63 : Int) else twoTo 63 - 1

/-- A value as a length: a whole number from zero up. -/
def toLength (call : Call) (v : Value) : Run Nat := do
  return min (twoTo 53 - 1) (← toWhole call v).toNat

/-- The big integer of a value. -/
def toBigint (call : Call) (v : Value) : Run Int := do
  match ← toPrimitive call .number v with
  | .boolean b => return if b then 1 else 0
  | .integer i => return i.toInt
  | .bigint i => return i
  | .text t =>
    match t.toInteger? with
    | some i => return i
    | none => throwFault (.bigint .text)
  | .number x =>
    match x.truncate? with
    | none => throwFault (.bigint .notFinite)
    | some i => if x.numEq (.ofInt i) then return i else throwFault (.bigint .fraction)
  | _ => throwFault (.bigint .other)

/-- The value of an operator on two whole numbers of 32 bits. A quotient is kept as a binary value, and so is
a zero with a sign. -/
def onWholes (op : Operator) (i j : Int) : Value :=
  match op with
  | .add => .ofInt (i + j)
  | .sub => .ofInt (i - j)
  | .mul => if i * j = 0 && (i < 0 || j < 0) then .number (.zero true) else .ofInt (i * j)
  | .div => .number (Binary.ofInt i / Binary.ofInt j)
  | .less => .boolean (i < j)
  | .same => .boolean (i = j)

/-- The value of an operator on two binary values. -/
def onNumbers (op : Operator) (x y : Binary64) : Value :=
  match op with
  | .add => .number (x + y)
  | .sub => .number (x - y)
  | .mul => .number (x * y)
  | .div => .number (x / y)
  | .less => .boolean (x.lt y)
  | .same => .boolean (x.numEq y)

/-- The value of an operator on two big integers. -/
def onBigints (op : Operator) (i j : Int) : Run Value :=
  match op with
  | .add => return .bigint (i + j)
  | .sub => return .bigint (i - j)
  | .mul => return .bigint (i * j)
  | .div => if j = 0 then throwFault .bigintDivisionByZero else return .bigint (i.tdiv j)
  | .less => return .boolean (i < j)
  | .same => return .boolean (i = j)

/-- Whether a big integer is below a number, or above it if `flipped`. -/
def compareMixed (i : Int) (x : Binary64) (flipped : Bool) : Bool :=
  if x.isNaN then false
  else
    match x.truncate? with
    | none => if flipped then x.negative else !x.negative
    | some t =>
      let whole : Binary64 := .ofInt t
      if flipped then t < i || (t = i && x.lt whole)
      else i < t || (i = t && whole.lt x)

/-- The value of an operator. A big integer can be compared with other numbers, and no more. -/
def onNumerics (op : Operator) (a b : Numeric) : Run Value :=
  match a, b with
  | .whole i, .whole j => return onWholes op i.toInt j.toInt
  | .big i, .big j => onBigints op i j
  | a, b =>
    match a.toBinary?, b.toBinary?, op with
    | some x, some y, op => return onNumbers op x y
    | some x, none, .less =>
      match b with
      | .big j => return .boolean (compareMixed j x true)
      | _ => throwFault .mixedOperands
    | none, some y, .less =>
      match a with
      | .big i => return .boolean (compareMixed i y false)
      | _ => throwFault .mixedOperands
    | _, _, _ => throwFault .mixedOperands

/-- The value of an operator on two primitives that become numbers, the left one first. -/
def onPrimitives (op : Operator) (p q : Value) : Run Value := do
  let a ← primitiveNumeric p
  let b ← primitiveNumeric q
  onNumerics op a b

/-- Whether one list of units comes before another. -/
def unitsBefore : List UInt16 → List UInt16 → Bool
  | _, [] => false
  | [], _ :: _ => true
  | u :: us, v :: vs => u < v || (u = v && unitsBefore us vs)

/-- Whether a primitive is below another: texts by their units, a text and a big integer as whole numbers if
the text spells one, all others as numbers. -/
def isBelow (p q : Value) : Run Value :=
  match p, q with
  | .text t, .text u => return .boolean (unitsBefore t.list u.list)
  | .bigint i, .text t => return .boolean (t.toInteger?.any (i < ·))
  | .text t, .bigint i => return .boolean (t.toInteger?.any (· < i))
  | p, q => onPrimitives .less p q

/-- The sum of two primitives, or the one text after the other if one of them is a text. -/
def sum (p q : Value) : Run Value :=
  match p, q with
  | .text t, q => return .text (t ++ (← primitiveText q))
  | p, .text u => return .text ((← primitiveText p) ++ u)
  | p, q => onPrimitives .add p q

/-- The value of an operator. The quotient of two numbers that are kept whole is kept whole if it is. -/
def operate (call : Call) (op : Operator) (v w : Value) : Run Value := do
  match op, v, w with
  | .same, _, _ => return .boolean (v.same w)
  | .div, .integer i, .integer j => return .ofBinary (Binary.ofInt i.toInt / Binary.ofInt j.toInt)
  | _, _, _ =>
    let p ← toPrimitive call .number v
    let q ← toPrimitive call .number w
    match op with
    | .add => sum p q
    | .less => isBelow p q
    | _ => onPrimitives op p q

end Run

end ScriptedScene.Guest
