import ScriptedScene.Guest.Declare
import ScriptedScene.Guest.Fault

/-!
What is looked at before a program runs: whether every name may be declared where it is, whether strict code
keeps to its forms, and which functions in blocks are known outside of their block. One pass goes through the
program in the order of its text, so the first fault in that order is the one that is told.

A name of a block may not be declared twice in it, nor where a variable of that name was declared for the
function around while the block was open, nor by a body that has a parameter of that name. A variable may not be
declared where a block around it has the name.
-/

namespace ScriptedScene.Guest

namespace Check

/-- What is declared in a block that is still open. -/
structure Block where
  /-- The names of the block, the latest first, and whether each is a plain function. -/
  names : List (String × Bool)
  /-- The name under which the block handles what was thrown. -/
  handled : Option String
  /-- The variables of the function around that were first declared while the block was open. -/
  crossing : List String
  deriving Inhabited

namespace Block

def empty : Block := ⟨[], none, []⟩

def has (b : Block) (name : String) : Bool := (b.names.lookup name).isSome

end Block

/-- What is known at a point of a body. -/
structure Scan where
  /-- The open blocks, innermost first; the last is the body. -/
  blocks : List Block
  /-- The names that the function or program has for itself so far. -/
  known : List String

/-- What is known at the start of a body. -/
def Scan.start : Scan := ⟨[.empty], []⟩

/-- The body that is looked at. -/
structure Setting where
  /-- Whether it is a whole program. -/
  program : Bool
  strict : Bool
  parameters : List String
  /-- Whether a call has a list of arguments of its own. -/
  ownArguments : Bool

/-- A step of the pass. -/
abbrev Step (α : Type) := Scan → Except FormFault (α × Scan)

namespace Step

protected def pure (a : α) : Step α := fun s => .ok (a, s)

protected def bind (x : Step α) (f : α → Step β) : Step β := fun s =>
  match x s with
  | .ok (a, s) => f a s
  | .error fault => .error fault

instance : Monad Step where
  pure := Step.pure
  bind := Step.bind

def refuse (fault : FormFault) : Step α := fun _ => .error fault

def require (condition : Bool) (fault : FormFault) : Step Unit :=
  if condition then pure () else refuse fault

/-- A step in a block of its own. -/
def inBlock (b : Block) (x : Step α) : Step α := fun s =>
  match x { s with blocks := b :: s.blocks } with
  | .ok (a, s) => .ok (a, { s with blocks := s.blocks.tail })
  | .error fault => .error fault

/-- A step in a body of its own, which knows nothing of the blocks around it. -/
def inBody (x : Step α) : Step α := fun s =>
  match x .start with
  | .ok (a, _) => .ok (a, s)
  | .error fault => .error fault

end Step

open Step

/-- The two names that strict code cannot give away. -/
def isGuarded (name : String) : Bool := name = "arguments" || name = "eval"

/-- Whether an open block has a name. -/
def Scan.sees (s : Scan) (name : String) : Bool := s.blocks.any (·.has name)

/-- The name among those of the innermost block. -/
def Scan.withName (s : Scan) (name : String) (plain : Bool) : Scan :=
  match s.blocks with
  | [] => s
  | b :: outer => { s with blocks := { b with names := (name, plain) :: b.names } :: outer }

/-- The name among those of the function or program; whether it stands in the open blocks as well. -/
def Scan.withVariable (s : Scan) (setting : Setting) (name : String) (inBlocks : Bool) : Scan :=
  if s.known.contains name || setting.parameters.contains name then s
  else
    { known := name :: s.known
      blocks :=
        if inBlocks then s.blocks.map fun b => { b with crossing := name :: b.crossing } else s.blocks }

/-- Why a name cannot be declared in the innermost block, which is the body if `atBody`. -/
def Scan.clash? (s : Scan) (setting : Setting) (name : String) (atBody function plain : Bool) :
    Option FormFault :=
  let b := s.blocks.headD .empty
  let repeated :=
    match b.names.lookup name with
    | some earlier => setting.strict || !plain || !earlier
    | none => b.handled = some name
  if repeated then some .lexicalRedefinition
  else if atBody && !function && setting.parameters.contains name then some .parameterRedefinition
  else if b.crossing.contains name then
    some (if setting.program then .globalRedefinition else .variableRedefinition)
  else none

/-- Declares a name in the innermost block. -/
def declareName (setting : Setting) (atBody : Bool) (name : String) (function plain : Bool) : Step Unit :=
  fun s =>
    match s.clash? setting name atBody function plain with
    | some fault => .error fault
    | none =>
      let s := s.withName name plain
      .ok ((), if setting.program && atBody then s.withVariable setting name false else s)

/-- Declares a variable of the function or program. -/
def declareVariable (setting : Setting) (name : String) : Step Unit := fun s =>
  if s.sees name then .error .lexicalRedefinition else .ok ((), s.withVariable setting name true)

/-- Declares a function outside of all blocks. In a program it may share its name with another declaration;
what comes of that is settled when the program starts. -/
def declareFunction (setting : Setting) (name : String) : Step Unit :=
  if setting.program then fun s => .ok ((), s.withVariable setting name true)
  else declareVariable setting name

/-- Whether a function in a block gets a variable of its name outside: plain functions do, in code that is not
strict, if no block around has the name already and it is not the name of a parameter. -/
def exports (setting : Setting) (kind : FunctionKind) (name : String) : Step Bool := fun s =>
  .ok (!setting.strict && kind = .function && !s.sees name && !setting.parameters.contains name &&
    !(setting.ownArguments && name = "arguments"), s)

/-- Declares the variable of a function that is known outside of its block. -/
def exportName (setting : Setting) (name : String) : Step Unit := fun s =>
  .ok ((), s.withVariable setting name false)

/-- A name that is declared with a value. -/
def checkName (setting : Setting) (kind : DeclarationKind) (name : String) : Step Unit := do
  require (!(setting.strict && isGuarded name)) .strictVariableName
  require (kind = .hoisted || !(name = "let" || name = "undefined")) .lexicalName

/-- The name and the parameters of a function. -/
def checkParameters (isStrict : Bool) (kind : FunctionKind) (name : String) (parameters : List String) :
    Step Unit := do
  require (!(isStrict && isGuarded name)) .strictFunctionName
  require (!(isStrict && parameters.any isGuarded)) .strictParameterName
  require (!(isStrict || kind = .arrow || kind = .method) || parameters.eraseDups.length = parameters.length)
    .repeatedParameter

mutual

def expression (setting : Setting) : Expr → Step Expr
  | .array es => return .array (← elements setting es)
  | .object ms => return .object (← members setting false ms)
  | .function kind parameters body => do
    let isStrict := setting.strict || Stmt.startsStrict body
    checkParameters isStrict kind "" parameters
    return .function kind parameters
      (← inBody (statements ⟨false, isStrict, parameters, kind != .arrow⟩ true body))
  | .member o key => return .member (← expression setting o) key
  | .call f es => do
    let f ← expression setting f
    return .call f (← arguments setting es)
  | .construct f es => do
    let f ← expression setting f
    return .construct f (← arguments setting es)
  | .assign (.name n) e => do
    require (!(setting.strict && isGuarded n)) .strictTarget
    return .assign (.name n) (← expression setting e)
  | .assign (.member o key) e => do
    let o ← expression setting o
    return .assign (.member o key) (← expression setting e)
  | .assign _ _ => refuse .notTarget
  | .delete o key => return .delete (← expression setting o) key
  | .typeOf e => return .typeOf (← expression setting e)
  | .not e => return .not (← expression setting e)
  | .negate e => return .negate (← expression setting e)
  | .operation op a b => do
    let a ← expression setting a
    return .operation op a (← expression setting b)
  | .either a b => do
    let a ← expression setting a
    return .either a (← expression setting b)
  | .both a b => do
    let a ← expression setting a
    return .both a (← expression setting b)
  | e => return e

def arguments (setting : Setting) : List Expr → Step (List Expr)
  | [] => return []
  | e :: rest => do
    let e ← expression setting e
    return e :: (← arguments setting rest)

def elements (setting : Setting) : List (Option Expr) → Step (List (Option Expr))
  | [] => return []
  | none :: rest => return none :: (← elements setting rest)
  | some e :: rest => do
    let e ← expression setting e
    return some e :: (← elements setting rest)

/-- The members of an object; `hasPrototype` says whether one of them gave it a prototype already. -/
def members (setting : Setting) (hasPrototype : Bool) : List (Units × Expr) → Step (List (Units × Expr))
  | [] => return []
  | (key, e) :: rest => do
    let e ← expression setting e
    let isPrototype := key = Units.ofString "__proto__"
    require (!(hasPrototype && isPrototype)) .repeatedPrototype
    return (key, e) :: (← members setting (hasPrototype || isPrototype) rest)

def statement (setting : Setting) (atBody : Bool) : Stmt → Step Stmt
  | .strict => return .strict
  | .expression e => return .expression (← expression setting e)
  | .declaration kind name e => do
    checkName setting kind name
    match kind with
    | .hoisted => declareVariable setting name
    | _ => declareName setting atBody name false false
    return .declaration kind name (← expression setting e)
  | .function kind name parameters body _ => do
    let isStrict := setting.strict || Stmt.startsStrict body
    let inner : Setting := ⟨false, isStrict, parameters, true⟩
    if atBody then
      checkParameters isStrict kind name parameters
      let body ← inBody (statements inner true body)
      declareFunction setting name
      return .function kind name parameters body false
    else
      let exported ← exports setting kind name
      declareName setting false name true (kind = .function)
      checkParameters isStrict kind name parameters
      let body ← inBody (statements inner true body)
      if exported then exportName setting name
      return .function kind name parameters body exported
  | .classDeclaration name => do
    declareName setting atBody name false false
    return .classDeclaration name
  | .throwing e => return .throwing (← expression setting e)
  | .returning e => do
    require (!setting.program) .returnOutside
    return .returning (← expression setting e)
  | .guarded body name handler => do
    let body ← inBlock .empty (statements setting false body)
    require (!(setting.strict && isGuarded name)) .strictVariableName
    let handler ← inBlock { Block.empty with handled := some name } (statements setting false handler)
    return .guarded body name handler
  | .conditional e yes no => do
    let e ← expression setting e
    let yes ← inBlock .empty (statements setting false yes)
    let no ← inBlock .empty (statements setting false no)
    return .conditional e yes no
  | .counted name limit body => do
    checkName setting .scoped name
    inBlock { Block.empty with names := [(name, false)] } do
      let limit ← expression setting limit
      let body ← inBlock .empty (statements setting false body)
      return .counted name limit body
  | .scopedBy e body => do
    require (!setting.strict) .withInStrict
    let e ← expression setting e
    let body ← inBlock .empty (statements setting false body)
    return .scopedBy e body

def statements (setting : Setting) (atBody : Bool) : List Stmt → Step (List Stmt)
  | [] => return []
  | s :: rest => do
    let s ← statement setting atBody s
    return s :: (← statements setting atBody rest)

end

end Check

namespace Program

/-- The program with its functions in blocks settled, or why it cannot be run at all. -/
def checked (p : Program) : Except FormFault Program :=
  match Check.statements ⟨true, Stmt.startsStrict p, [], false⟩ true p Check.Scan.start with
  | .ok (p, _) => .ok p
  | .error fault => .error fault

end Program

end ScriptedScene.Guest
