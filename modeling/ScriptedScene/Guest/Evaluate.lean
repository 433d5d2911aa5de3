import ScriptedScene.Guest.Names
import ScriptedScene.Guest.Declare
import ScriptedScene.Guest.Realm

/-!
Evaluation of guest code. It follows the code's own shape; whatever leaves that shape, the calling of a
function, goes through `Calls`, which is given from outside and says what a call does.
-/

namespace ScriptedScene.Guest

/-- The ways to run a function: to call it, and to construct with it. -/
structure Calls where
  call : Call
  construct : Value → List Value → Run Value

namespace Run

/-- What a function object inherits from. -/
def functionParent : FunctionKind → Intrinsic
  | .async => .asyncPrototype
  | .generator => .generatorFunctionPrototype
  | _ => .functionPrototype

/-- Makes the object of a function of the guest's own. -/
def newClosure (ctx : Context) (kind : FunctionKind) (name : Units) (parameters : List String)
    (body : List Stmt) : Run Value := do
  let closure : Closure :=
    ⟨kind, parameters, body, ctx.scopes, ctx.strict || Stmt.startsStrict body, ctx.this⟩
  let r ← newFunctionOf (functionParent kind) (.closure closure) name parameters.length
  match kind with
  | .function =>
    let prototype ← newObject []
    putOwn prototype constructorKey (.hidden (.object r))
    putOwn r prototypeKey ⟨.data (.object prototype) true, false, false⟩
  | .generator =>
    let prototype ← alloc (.fresh (some (Intrinsic.ref .generatorPrototype)) .plain)
    putOwn r prototypeKey ⟨.data (.object prototype) true, false, false⟩
  | _ => pure ()
  return .object r

/-- Makes the object of a class. -/
def newClass (name : String) : Run Value := do
  let r ← newFunction (.classBody name) name 0
  let prototype ← newObject []
  putOwn prototype constructorKey (.hidden (.object r))
  putOwn r prototypeKey (.fixed (.object prototype))
  return .object r

/-- Makes the variables of some declarations: functions and variables of a body are undefined at first, the
others have no value yet. -/
def declare : List Declaration → Run (List (String × CellId))
  | [] => return []
  | d :: rest => do
    let id ←
      match d.as with
      | .lexical constant => newCell none constant
      | _ => newCell (some .undefined) false
    return (d.name, id) :: (← declare rest)

/-- Gives the functions that a body declares to their names. -/
def defineFunctions (ctx : Context) : List Stmt → Run Unit
  | [] => return ()
  | .function kind name parameters body _ :: rest => do
    initialise ctx.scopes name (← newClosure ctx kind name parameters body)
    defineFunctions ctx rest
  | _ :: rest => defineFunctions ctx rest

/-- A body in a scope of the names that it declares as a block. Of two functions of one name the last is
found. -/
def enterBlock (ctx : Context) (body : List Stmt) : Run Context := do
  let declarations := body.flatMap Stmt.blockDeclarations
  if declarations.isEmpty then return ctx
  else
    let ctx := { ctx with scopes := .locals (← declare declarations).reverse :: ctx.scopes }
    defineFunctions ctx body
    return ctx

/-- Gives a value to the variable of a name outside of all blocks. -/
def setAround (call : Call) (ctx : Context) (name : String) (v : Value) : Run Unit :=
  match ctx.base with
  | .locals cells :: _ =>
    match cells.lookup name with
    | some id => fillCell id v
    | none => return ()
  | _ => setGlobal call false name v

/-- Names a function by what it is first given to. -/
def nameBy (name : Units) (e : Expr) (v : Value) : Run Unit :=
  match e, v with
  | .function _ _ _, .object r => putOwn r nameKey (.described (.text name))
  | _, _ => return ()

/-- The turns after which a loop is given up. One that ends does so long before. One that does not is outside of what is
told here: the interpreter is in it forever, while a run here comes out of it. -/
def turns : Nat := twoTo 62

end Run

namespace Evaluate

open Run

mutual

/-- The value of an expression. -/
def expression (calls : Calls) (ctx : Context) : Expr → Run Value
  | .number x => return .ofBinary x
  | .bigint i => return .bigint i
  | .text t => return .text t
  | .null => return .null
  | .boolean b => return .boolean b
  | .name n => readName calls.call ctx.scopes n
  | .this => return ctx.this
  | .array es => do return .object (← newArray (← elements calls ctx es))
  | .object ms => do
    let r ← newObject []
    members calls ctx r ms
    return .object r
  | .function kind parameters body => newClosure ctx kind Units.empty parameters body
  | .member o key => do get calls.call (← expression calls ctx o) key
  | .call (.member o key) es => do
    let base ← expression calls ctx o
    let f ← get calls.call base key
    calls.call f base (← arguments calls ctx es)
  | .call (.name n) es => do
    let (f, this) ← readCallee calls.call ctx.scopes n
    calls.call f this (← arguments calls ctx es)
  | .call f es => do
    let f ← expression calls ctx f
    calls.call f .undefined (← arguments calls ctx es)
  | .construct f es => do
    let f ← expression calls ctx f
    calls.construct f (← arguments calls ctx es)
  | .assign (.member o key) e => do
    let base ← expression calls ctx o
    let v ← expression calls ctx e
    set calls.call ctx.strict base key v
    return v
  | .assign (.name n) e => do
    let target ← targetOf ctx.scopes n
    let v ← expression calls ctx e
    nameBy n e v
    assignTo calls.call ctx.strict n v target
    return v
  | .assign _ e => expression calls ctx e
  | .delete o key => do
    let r ← toObject (← expression calls ctx o)
    return .boolean (← deleteOn ctx.strict r key)
  | .typeOf (.name n) => do
    match ← ask (·.place? n ctx.scopes) with
    | none => return .ofString "undefined"
    | some place =>
      let v ← readPlace calls.call n place
      return .ofString (v.kindName (← isCallable v))
  | .typeOf e => do
    let v ← expression calls ctx e
    return .ofString (v.kindName (← isCallable v))
  | .not e => do return .boolean !(← expression calls ctx e).isTrue
  | .negate e => do return (← toNumeric calls.call (← expression calls ctx e)).negate
  | .operation op a b => do
    let v ← expression calls ctx a
    let w ← expression calls ctx b
    operate calls.call op v w
  | .either a b => do
    let v ← expression calls ctx a
    if v.isTrue then return v else expression calls ctx b
  | .both a b => do
    let v ← expression calls ctx a
    if v.isTrue then expression calls ctx b else return v

/-- The values of arguments, from left to right. -/
def arguments (calls : Calls) (ctx : Context) : List Expr → Run (List Value)
  | [] => return []
  | e :: rest => do
    let v ← expression calls ctx e
    return v :: (← arguments calls ctx rest)

/-- The values of a list's elements, from left to right. -/
def elements (calls : Calls) (ctx : Context) : List (Option Expr) → Run (List (Option Value))
  | [] => return []
  | none :: rest => do return none :: (← elements calls ctx rest)
  | some e :: rest => do
    let v ← expression calls ctx e
    return some v :: (← elements calls ctx rest)

/-- Puts the members of an object literal onto the object. -/
def members (calls : Calls) (ctx : Context) (r : Ref) : List (Units × Expr) → Run Unit
  | [] => return ()
  | (key, e) :: rest => do
    let v ← expression calls ctx e
    if key = Units.ofString "__proto__" then
      match v with
      | .object p => updateObject r fun o => { o with prototype := some p }
      | .null => updateObject r fun o => { o with prototype := none }
      | _ => pure ()
    else
      nameBy key e v
      putOwn r key (.plain v)
    members calls ctx r rest

end

mutual

/-- Runs a statement; the answer is the value that it returns from the function around it, if it does. -/
def statement (calls : Calls) (ctx : Context) : Stmt → Run (Option Value)
  | .strict => return none
  | .expression e => do
    let _ ← expression calls ctx e
    return none
  | .declaration .hoisted name e => do
    let target ← targetOf ctx.scopes name
    let v ← expression calls ctx e
    nameBy name e v
    assignTo calls.call ctx.strict name v target
    return none
  | .declaration _ name e => do
    let v ← expression calls ctx e
    nameBy name e v
    initialise ctx.scopes name v
    return none
  | .function kind name parameters body exported => do
    if exported then setAround calls.call ctx name (← newClosure ctx kind name parameters body)
    return none
  | .classDeclaration name => do
    initialise ctx.scopes name (← newClass name)
    return none
  | .throwing e => do fail (← expression calls ctx e)
  | .returning e => do return some (← expression calls ctx e)
  | .guarded body name handler => do
    match ← outcome (traced (do statements calls (← enterBlock ctx body) body)) with
    | .ok r => return r
    | .error thrown =>
      let id ← newCell (some thrown) false
      let inner := { ctx with scopes := .locals [(name, id)] :: ctx.scopes }
      statements calls (← enterBlock inner handler) handler
  | .conditional e yes no => do
    if (← expression calls ctx e).isTrue then statements calls (← enterBlock ctx yes) yes
    else statements calls (← enterBlock ctx no) no
  | .counted name limit body => do
    let first ← newCell (some (.integer 0)) false
    let answer ← iterate
      (fun id => do
        let inner := { ctx with scopes := .locals [(name, id)] :: ctx.scopes }
        let i ← readCell name id
        let below ← operate calls.call .less i (← expression calls inner limit)
        if below.isTrue then
          match ← statements calls (← enterBlock inner body) body with
          | some v => return .inr (some v)
          | none =>
            let n ← toNumeric calls.call (← readCell name id)
            return .inl (← newCell (some n.next) false)
        else return .inr none)
      turns first
    return answer.join
  | .scopedBy e body => do
    let r ← toObject (← expression calls ctx e)
    let inner := { ctx with scopes := .object r :: ctx.scopes }
    statements calls (← enterBlock inner body) body

/-- Runs statements in order up to the first that returns. -/
def statements (calls : Calls) (ctx : Context) : List Stmt → Run (Option Value)
  | [] => return none
  | s :: rest => do
    match ← statement calls ctx s with
    | some v => return some v
    | none => statements calls ctx rest

end

end Evaluate

end ScriptedScene.Guest
