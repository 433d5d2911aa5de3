import ScriptedScene.Guest.Heap

/-!
Reading the properties of values. A property may be computed by a function, so reading takes the way to call
one.
-/

namespace ScriptedScene.Guest

namespace Value

/-- How the two values without properties are called. -/
def nullishName : Value → String
  | null => "null"
  | _ => "undefined"

/-- The object on which the properties of a primitive are found. -/
def prototypeOf? (v : Value) : Option Intrinsic := v.primitive?.map .primitivePrototype

/-- The properties that texts have of their own. -/
def ofText? (t : Units) (key : Units) : Option Value :=
  if key = Object.lengthKey then some (.ofNat t.length) else Object.unitOf? t key

end Value

namespace Run

/-- The value of a property, read for a receiver. -/
def readProperty (call : Call) (receiver : Value) : Option Property → Run Value
  | none => return .undefined
  | some p =>
    match p.contents with
    | .data v _ => return v
    | .shared id => do return (← cell id).value.getD .undefined
    | .accessor none _ => return .undefined
    | .accessor (some getter) _ => call (.object getter) receiver []

/-- Reads a property of any value. -/
def get (call : Call) (base : Value) (key : Units) : Run Value :=
  match base with
  | .object r => do readProperty call base (← ask (·.find? r key))
  | .text t =>
    match Value.ofText? t key with
    | some v => return v
    | none => do readProperty call base (← ask (·.find? (Intrinsic.ref (.primitivePrototype .string)) key))
  | _ =>
    match base.prototypeOf? with
    | some i => do readProperty call base (← ask (·.find? i.ref key))
    | none => throwFault (.noPropertyToRead key base.nullishName)

end Run

end ScriptedScene.Guest
