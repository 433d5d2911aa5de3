import ScriptedScene.Guest.Assign

/-!
Looking names up: among the scopes from the innermost out, then among the global variables that are no
properties, then among the properties of the global object. A name that is assigned to is looked up before the
value is computed, and the value goes where the name led then.
-/

namespace ScriptedScene.Guest

/-- What surrounds a piece of guest code. -/
structure Context where
  /-- The scopes, innermost first. -/
  scopes : List Scope
  /-- Those of them that surround all blocks of the function or program. -/
  base : List Scope
  this : Value
  strict : Bool

/-- What a name stands for. -/
inductive Place where
  | cell (id : CellId)
  | property (r : Ref)
  deriving DecidableEq, Repr

namespace Memory

/-- The place of a name outside of all scopes. -/
def globalPlace? (m : Memory) (name : String) : Option Place :=
  match m.lexical? name with
  | some id => some (.cell id)
  | none =>
    if (m.find? (Intrinsic.ref .global) name).isSome then some (.property (Intrinsic.ref .global))
    else none

/-- The place of a name. -/
def place? (m : Memory) (name : String) : List Scope → Option Place
  | [] => m.globalPlace? name
  | .locals cells :: rest =>
    match cells.lookup name with
    | some id => some (.cell id)
    | none => m.place? name rest
  | .object r :: rest => if (m.find? r name).isSome then some (.property r) else m.place? name rest

end Memory

/-- Where the value goes that is assigned to a name. -/
inductive Target where
  /-- A variable. It may still be looked at whether it has its first value. -/
  | cell (id : CellId) (checked : Bool)
  | property (r : Ref)
  /-- Outside of all scopes, where the name was known or not. -/
  | global (known : Bool)
  deriving DecidableEq, Repr

namespace Run

/-- The value of a variable. -/
def readCell (name : String) (id : CellId) : Run Value := do
  match (← cell id).value with
  | some v => return v
  | none => throwFault (.notInitialized name)

/-- Assigns to a variable that has its first value. -/
def rewriteCell (name : String) (id : CellId) (v : Value) : Run Unit := do
  if (← cell id).value.isNone then throwFault (.notInitialized name) else fillCell id v

/-- Refuses a name that is never assigned to again. -/
def refuseConstant (name : String) (id : CellId) : Run Unit := do
  if (← cell id).constant then throwFault (.readOnly name)

/-- The value of what a name stands for. -/
def readPlace (call : Call) (name : String) : Place → Run Value
  | .cell id => readCell name id
  | .property r => get call (.object r) name

/-- The value of a name. -/
def readName (call : Call) (scopes : List Scope) (name : String) : Run Value := do
  match ← ask (·.place? name scopes) with
  | some place => readPlace call name place
  | none => throwFault (.notDefined name)

/-- The value of a name, and the object on which it was found if that is a scope of its own. -/
def readCallee (call : Call) (scopes : List Scope) (name : String) : Run (Value × Value) := do
  match ← ask (·.place? name scopes) with
  | some place =>
    let v ← readPlace call name place
    match place with
    | .property r => return (v, if r = Intrinsic.ref .global then .undefined else .object r)
    | .cell _ => return (v, .undefined)
  | none => throwFault (.notDefined name)

/-- Where a name outside of all scopes leads that was looked for in an object on the way. -/
def targetPast (name : String) : Run Target := do
  match ← ask (·.globalPlace? name) with
  | some (.cell id) =>
    let _ ← readCell name id
    refuseConstant name id
    return .cell id false
  | some (.property r) => return .property r
  | none => return .global false

/-- Where a name leads; `past` says whether it was looked for in an object on the way. -/
def targetFrom (name : String) : (past : Bool) → List Scope → Run Target
  | true, [] => targetPast name
  | false, [] => do return .global (← ask (·.globalPlace? name)).isSome
  | past, .locals cells :: rest =>
    match cells.lookup name with
    | some id => do
      refuseConstant name id
      return .cell id !past
    | none => targetFrom name past rest
  | _, .object r :: rest => do
    if (← ask (·.find? r name)).isSome then return .property r
    else targetFrom name true rest

/-- Where a name leads. -/
def targetOf (scopes : List Scope) (name : String) : Run Target := targetFrom name false scopes

/-- Writes a property of an object that had it when it was found. In strict code it is not made anew. -/
def setFound (call : Call) (strict : Bool) (r : Ref) (name : String) (v : Value) : Run Unit := do
  if strict && ((← object r).own? name).isNone then
    match ← ask (·.find? r name) with
    | none | some ⟨.data _ true, _, _⟩ => throwFault (.notDefined name)
    | _ => setOn call strict r name v
  else setOn call strict r name v

/-- Assigns to a name outside of all scopes. -/
def setGlobal (call : Call) (strict : Bool) (name : String) (v : Value) : Run Unit := do
  match ← ask (·.lexical? name) with
  | some id =>
    let _ ← readCell name id
    refuseConstant name id
    fillCell id v
  | none => setOn call strict (Intrinsic.ref .global) name v

/-- Assigns to a name that leads to a target. One that stood for nothing becomes a property of the global
object, in code that is not strict. -/
def assignTo (call : Call) (strict : Bool) (name : String) (v : Value) : Target → Run Unit
  | .cell id true => rewriteCell name id v
  | .cell id false => fillCell id v
  | .property r => setFound call strict r name v
  | .global known => if strict && !known then throwFault (.notDefined name) else setGlobal call strict name v

/-- Gives a declared variable its first value. -/
def initialise (scopes : List Scope) (name : String) (v : Value) : Run Unit := do
  match ← ask (·.place? name scopes) with
  | some (.cell id) => fillCell id v
  | _ => return ()

end Run

end ScriptedScene.Guest
