import ScriptedScene.Guest.Syntax

/-!
Which names a body declares, and what they are: variables of the function or program around all blocks,
functions there, or names of one block.
-/

namespace ScriptedScene.Guest

/-- What a declaration makes of a name. -/
inductive DeclaredAs where
  | variable
  | function
  | lexical (constant : Bool)
  deriving DecidableEq, Repr

namespace DeclaredAs

def isLexical : DeclaredAs → Bool
  | lexical _ => true
  | _ => false

end DeclaredAs

/-- A name that a body declares. -/
structure Declaration where
  name : String
  as : DeclaredAs
  deriving DecidableEq, Repr

namespace Stmt

/-- Whether a body starts by making itself strict. -/
def startsStrict : List Stmt → Bool
  | strict :: _ => true
  | _ => false

mutual

/-- The variables that a statement inside of a block declares around all blocks. -/
def hoisted : Stmt → List String
  | declaration .hoisted name _ => [name]
  | function _ name _ _ exported => if exported then [name] else []
  | guarded body _ handler => hoistedAll body ++ hoistedAll handler
  | conditional _ yes no => hoistedAll yes ++ hoistedAll no
  | counted _ _ body => hoistedAll body
  | scopedBy _ body => hoistedAll body
  | _ => []

def hoistedAll : List Stmt → List String
  | [] => []
  | s :: rest => hoisted s ++ hoistedAll rest

end

/-- The names that a statement of a block declares for the block, in order. -/
def blockDeclarations : Stmt → List Declaration
  | declaration .scoped name _ => [⟨name, .lexical false⟩]
  | declaration .constant name _ => [⟨name, .lexical true⟩]
  | classDeclaration name => [⟨name, .lexical false⟩]
  | function _ name _ _ _ => [⟨name, .function⟩]
  | _ => []

/-- The names that a statement outside of all blocks declares there, in order. -/
def declarations (s : Stmt) : List Declaration :=
  blockDeclarations s ++
    match s with
    | function _ _ _ _ _ => []
    | s => (hoisted s).map fun name => ⟨name, .variable⟩

end Stmt

namespace Program

/-- The names that a program declares, in order. -/
def declarations (p : Program) : List Declaration := p.flatMap Stmt.declarations

end Program

end ScriptedScene.Guest
