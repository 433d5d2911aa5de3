import ScriptedScene.Guest.Assign

/-!
How guest values become the arguments of host functions. Nothing is coerced: a value of another type is a
fault, which names the types.
-/

namespace ScriptedScene.Guest

namespace Builtin

/-- The builtins that make objects when they are constructed. -/
def isConstructor : Builtin → Bool
  | object | function | error _ | array | typedArray _ | container _ | primitive _ | date | pattern
  | promise => true
  | _ => false

end Builtin

namespace Callable

/-- Whether a function counts as a constructor. -/
def isConstructor : Callable → Bool
  | closure c => c.kind = .function
  | classBody _ => true
  | builtin b => b.isConstructor
  | host _ => false

end Callable

namespace Value

/-- The name of a value's type in conversion faults. -/
def typeName (m : Memory) : Value → String
  | undefined => "undefined"
  | null => "null"
  | boolean _ => "bool"
  | integer _ => "int"
  | number _ => "float"
  | bigint _ => "big_int"
  | text _ => "string"
  | symbol _ _ => "symbol"
  | object r =>
    match (m.object r).role with
    | .array _ _ => "array"
    | .function f => if f.isConstructor then "constructor" else "function"
    | .promise => "promise"
    | .error => "exception"
    | _ => "object"

end Value

/-! A conversion gives the value converted, or why it cannot be; a getter that runs on the way may throw. -/

namespace Convert

def mismatch (v : Value) (wanted : String) : Run (Except ConversionFault α) := do
  return .error (.mismatch (← Run.ask v.typeName) wanted)

/-- A text, which has to be well-formed. -/
def text : Value → Run (Except ConversionFault String)
  | .text t =>
    match t.decode with
    | .ok s => return .ok s
    | .error offset => return .error (.notUnicode offset)
  | v => mismatch v "string"

def number64 (v : Value) : Run (Except ConversionFault Binary64) :=
  match v.number? with
  | some x => return .ok x
  | none => mismatch v "f64"

/-- A number, rounded to 32 bits. -/
def number32 (v : Value) : Run (Except ConversionFault Binary32) := do
  return (← number64 v).map (·.narrow)

/-- The largest number of 32 bits without a sign. -/
def largest : Nat := 4294967295

/-- The whole number of 32 bits that a number is without its fraction; what is not a number is zero. -/
def wholeOf (x : Binary64) : Except ConversionFault UInt32 :=
  if x.lt (.zero false) then .error .underflow
  else if Binary.lt (.ofNat largest) x then .error .overflow
  else .ok (UInt32.ofNat ((x.truncate?.getD 0).toNat))

/-- The number of a light's handle. -/
def handle (v : Value) : Run (Except ConversionFault UInt32) := do
  return (← number64 v).bind wholeOf

/-- The elements from a place on, each read and converted before the next. -/
def elements (call : Call) (array : Value) (length : Nat) : Nat → Run (Except ConversionFault (List Binary32))
  | 0 => return .ok []
  | left + 1 => do
    match ← number32 (← Run.get call array (.ofNat (length - (left + 1)))) with
    | .error fault => return .error fault
    | .ok x =>
      match ← elements call array length left with
      | .error fault => return .error fault
      | .ok xs => return .ok (x :: xs)

/-- A list of numbers. -/
def numbers (call : Call) (v : Value) : Run (Except ConversionFault (List Binary32)) := do
  match v with
  | .object r =>
    match (← Run.object r).role with
    | .array n _ => elements call v n n
    | _ => mismatch v "array"
  | _ => mismatch v "array"

/-- A colour: a list of exactly three numbers. -/
def color (call : Call) (v : Value) : Run (Except ConversionFault Color) := do
  match ← numbers call v with
  | .error fault => return .error fault
  | .ok [red, green, blue] => return .ok ⟨red, green, blue⟩
  | .ok xs => return .error (.components xs.length)

end Convert

namespace Run

/-- What a conversion gives, or its fault thrown. -/
def orThrow (x : Run (Except ConversionFault α)) : Run α := do
  match ← x with
  | .ok a => return a
  | .error fault => throwFault (.conversion fault)

/-- A list of numbers for guests. -/
def ofColor (c : Color) : Run Value := do
  return .object (← newArray (c.components.map fun x => some (.ofBinary x.widen)))

/-- A number of 32 bits for guests, who see it with a sign. -/
def ofWord (w : UInt32) : Value :=
  .ofInt (if w.toNat < 2147483648 then w.toNat else w.toNat - 4294967296)

end Run

end ScriptedScene.Guest
