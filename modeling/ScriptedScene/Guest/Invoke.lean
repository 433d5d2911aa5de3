import ScriptedScene.Guest.Evaluate
import ScriptedScene.Guest.Console
import ScriptedScene.Guest.Lights

/-!
Calling and constructing. Calls nest as deep as the stack allows; one that goes deeper overflows it.
-/

namespace ScriptedScene.Guest

namespace HostFunction

/-- The name that the function says it has. -/
def name : HostFunction → Units
  | console m => m.name
  | light f => f.name
  | constant name _ | embedder name => name

/-- How many parameters the function says it has: as many as a call needs. -/
def arity : HostFunction → Nat
  | light f => f.required
  | console _ | constant _ _ | embedder _ => 0

/-- A call of a host function; its receiver does not matter. -/
def run (call : Call) : HostFunction → List Value → Run Value
  | console m, arguments => m.run call arguments
  | light f, arguments => f.run call arguments
  | constant _ value, _ => return .ofInt value
  | embedder name, arguments => Run.serve name arguments

end HostFunction

namespace Closure

open Run

/-- The receiver in the body: functions that are not strict see the global object where there is none, and an
object where it is a primitive. -/
def receiver (c : Closure) (this : Value) : Run Value :=
  if c.kind = .arrow then return c.this
  else if c.strict then return this
  else if this.isNullish then return intrinsic .global
  else do return .object (← toObject this)

/-- Whether a call has a list of arguments of its own. -/
def ownArguments (c : Closure) : Bool := c.kind != .arrow

/-- The variables of the parameters, in order. -/
def bindParameters : List String → List Value → Run (List (String × CellId))
  | [], _ => return []
  | name :: names, arguments => do
    let id ← newCell (some (arguments.headD .undefined)) false
    return (name, id) :: (← bindParameters names arguments.tail)

/-- The elements of the list of arguments: those that are given for parameters are the parameters' variables,
in functions that are not strict. -/
def argumentElements (c : Closure) (parameters : List (String × CellId)) (arguments : List Value) :
    List (Units × Property) :=
  arguments.zipIdx.map fun (v, i) =>
    (Units.ofNat i,
      match c.strict, parameters[i]? with
      | false, some (_, id) => ⟨.shared id, true, true⟩
      | _, _ => .plain v)

/-- The key under which a list of arguments has the function that was called. -/
def calleeKey : Units := "callee"

/-- What a list of arguments says of the function that was called; strict functions do not tell. -/
def calleeProperty (c : Closure) (self : Value) : Property :=
  if c.strict then
    let forbidden := some (Intrinsic.ref .forbidden)
    ⟨.accessor forbidden forbidden, false, false⟩
  else .hidden self

/-- The name of the list of arguments in a body. -/
def argumentsName : String := "arguments"

/-- The variable of the whole list of arguments, in functions that have it. -/
def bindArguments (c : Closure) (self : Value) (parameters : List (String × CellId))
    (arguments : List Value) : Run (List (String × CellId)) := do
  if c.ownArguments then
    let r ← alloc
      ⟨some (Intrinsic.ref .objectPrototype),
        (Object.lengthKey, .hidden (.ofNat arguments.length)) ::
          c.argumentElements parameters arguments ++ [(calleeKey, c.calleeProperty self)],
        .arguments, none⟩
    return [(argumentsName, ← newCell (some (.object r)) false)]
  else return []

/-- The variables that the body declares besides the parameters and the list of arguments. -/
def bodyNames (c : Closure) (declarations : List Declaration) : List Declaration :=
  declarations.filter fun d =>
    !d.as.isLexical && !c.parameters.contains d.name && !(c.ownArguments && d.name = argumentsName)

/-- The surroundings of the body in a call. -/
def enter (c : Closure) (self this : Value) (arguments : List Value) : Run Context := do
  let parameters ← bindParameters c.parameters arguments
  let list ← c.bindArguments self parameters arguments
  let declarations := c.body.flatMap Stmt.declarations
  let own ← declare (c.bodyNames declarations)
  let base := .locals (own ++ parameters.reverse ++ list) :: c.scopes
  let lexicals ← declare (declarations.filter (·.as.isLexical))
  let ctx : Context :=
    ⟨if lexicals.isEmpty then base else .locals lexicals :: base, base, ← c.receiver this, c.strict⟩
  defineFunctions ctx c.body
  return ctx

/-- Runs the body; what it does not return is undefined. -/
def runBody (calls : Calls) (c : Closure) (self this : Value) (arguments : List Value) : Run Value :=
  traced do
    let ctx ← c.enter self this arguments
    return (← Evaluate.statements calls ctx c.body).getD .undefined

/-- What the objects inherit from that a function makes: what it says itself, or else one of the realm's. -/
def madePrototype (calls : Calls) (f : Value) (otherwise : Intrinsic) : Run Ref := do
  match ← get calls.call f prototypeKey with
  | .object r => return r
  | _ => return otherwise.ref

/-- A call of the function. What an asynchronous one throws goes into its promise, and a generator does not
run yet. -/
def call (calls : Calls) (c : Closure) (self this : Value) (arguments : List Value) : Run Value := do
  match c.kind with
  | .async =>
    let _ ← outcome (c.runBody calls self this arguments)
    return .object (← alloc (.fresh (some (Intrinsic.ref .promisePrototype)) .promise))
  | .generator =>
    let prototype ← madePrototype calls self .generatorPrototype
    return .object (← alloc (.fresh (some prototype) .generator))
  | _ => c.runBody calls self this arguments

end Closure

namespace Calls

open Run

/-- A new object that inherits from what a constructor says. -/
def newInstance (calls : Calls) (f : Value) : Run Ref := do
  let prototype ← Closure.madePrototype calls f .objectPrototype
  alloc (.fresh (some prototype) .plain)

/-- Calls a value. -/
def callValue (calls : Calls) (f this : Value) (arguments : List Value) : Run Value := do
  match ← ask (·.callable? f) with
  | none => throwFault .notFunction
  | some (.closure c) => c.call calls f this arguments
  | some (.classBody _) => traced (throwFault .classWithoutNew)
  | some (.builtin b) => traced (b.run calls.call this arguments)
  | some (.host h) => h.run calls.call arguments

/-- Constructs with a value. -/
def constructWith (calls : Calls) (f : Value) (arguments : List Value) : Run Value := do
  match ← ask (·.callable? f) with
  | none =>
    match f with
    | .object _ => throwFault .notConstructor
    | _ => throwFault .notFunction
  | some (.closure c) =>
    if c.kind = .function then
      let r ← newInstance calls f
      match ← c.runBody calls f (.object r) arguments with
      | .object other => return .object other
      | _ => return .object r
    else throwFault .notConstructor
  | some (.classBody _) => return .object (← newInstance calls f)
  | some (.builtin b) => traced (b.construct calls.call arguments)
  | some (.host _) => throwFault .notConstructor

/-- Calls that may nest so many deep. -/
def ofDepth : Nat → Calls
  | 0 =>
    ⟨fun f this arguments => called f this arguments (throwFault .stackOverflow),
      fun _ _ => throwFault .stackOverflow⟩
  | depth + 1 =>
    ⟨fun f this arguments => called f this arguments (callValue (ofDepth depth) f this arguments),
      fun f arguments => constructWith (ofDepth depth) f arguments⟩

end Calls

end ScriptedScene.Guest
