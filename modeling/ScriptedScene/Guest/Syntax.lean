import ScriptedScene.Guest.Numeral
import ScriptedScene.Binary.Arithmetic

/-!
Guest programs. A handful of forms is enough: what a program can say besides these is written by the
derived forms at the end, which are calls of the functions that every realm has.
-/

namespace ScriptedScene.Guest

/-- How a function is run when it is called. -/
inductive FunctionKind where
  | function
  | arrow
  | async
  | generator
  /-- A member of an object literal that is given by its body. -/
  | method
  deriving DecidableEq, Repr

/-- How a name is declared. -/
inductive DeclarationKind where
  /-- Everywhere in the function or program around it. -/
  | hoisted
  /-- In the block around it, from where it stands. -/
  | scoped
  /-- As `scoped`, and never assigned to again. -/
  | constant
  deriving DecidableEq, Repr

/-- Operators whose two sides are both evaluated first. -/
inductive Operator where
  | add
  | sub
  | mul
  | div
  | less
  | same
  deriving DecidableEq, Repr

mutual

inductive Expr where
  /-- A numeral, which has no sign. -/
  | number (x : Binary64)
  | bigint (i : Int)
  | text (t : Units)
  | null
  | boolean (b : Bool)
  | name (n : String)
  | this
  /-- A list; an element may be a hole. -/
  | array (elements : List (Option Expr))
  | object (members : List (Units × Expr))
  | function (kind : FunctionKind) (parameters : List String) (body : List Stmt)
  | member (object : Expr) (key : Units)
  | call (callee : Expr) (arguments : List Expr)
  | construct (callee : Expr) (arguments : List Expr)
  | assign (target value : Expr)
  | delete (object : Expr) (key : Units)
  | typeOf (e : Expr)
  | not (e : Expr)
  /-- The number with the opposite sign. -/
  | negate (e : Expr)
  | operation (op : Operator) (left right : Expr)
  /-- The left side if it is true, else the right side. -/
  | either (left right : Expr)
  /-- The left side if it is false, else the right side. -/
  | both (left right : Expr)

inductive Stmt where
  /-- Makes the body that it starts strict. -/
  | strict
  | expression (e : Expr)
  | declaration (kind : DeclarationKind) (name : String) (value : Expr)
  /-- A named function. One in a block belongs to the block; if it is `exported`, the function or program
  around the block has a variable of the same name, which is given the function where its declaration is
  reached. `Program.checked` says which functions are. -/
  | function (kind : FunctionKind) (name : String) (parameters : List String) (body : List Stmt)
      (exported : Bool)
  | classDeclaration (name : String)
  | throwing (e : Expr)
  | returning (e : Expr)
  /-- A body, and the handler that is given what it throws under a name. -/
  | guarded (body : List Stmt) (name : String) (handler : List Stmt)
  | conditional (condition : Expr) (yes no : List Stmt)
  /-- A body that is run with the name counting up from zero as long as it is below the limit. -/
  | counted (name : String) (limit : Expr) (body : List Stmt)
  /-- A body in which the properties of an object are names. -/
  | scopedBy (object : Expr) (body : List Stmt)

end

instance : Inhabited Expr := ⟨.null⟩
instance : Inhabited Stmt := ⟨.strict⟩

/-- A program is a list of statements. -/
abbrev Program := List Stmt

/-- A program as text or as syntax. -/
inductive Source where
  | text (s : String)
  | program (p : Program)

namespace Expr

def undefined : Expr := .name "undefined"

/-- A chain of names, of which the first may be `this`. -/
def path (s : String) : Expr :=
  match s.splitOn "." with
  | [] => .name s
  | root :: keys =>
    keys.foldl (fun e key => .member e (.ofString key)) (if root = "this" then .this else .name root)

/-- A new object of a named class. -/
def instanceOf (className : String) (arguments : List Expr) : Expr :=
  .construct (.name className) arguments

/-- A new symbol. -/
def symbol (description : String) : Expr := .call (.name "Symbol") [.text description]

/-- An object without a prototype. -/
def bareObject : Expr := .call (.member (.name "Object") "create") [.null]

/-- Gives an object a property with the given attributes. -/
def defineProperty (object : Expr) (key : Units) (attributes : List (Units × Expr)) : Expr :=
  .call (.member (.name "Object") "defineProperty") [object, .text key, .object attributes]

/-- Gives an object a property that is computed by a body each time it is read. -/
def defineGetter (object : Expr) (key : Units) (body : List Stmt) : Expr :=
  defineProperty object key
    [("get", .function .method [] body), ("configurable", .boolean true)]

/-- Gives an object a property that stays as it is. -/
def defineFrozen (object : Expr) (key : Units) (value : Expr) : Expr :=
  defineProperty object key
    [("value", value), ("writable", .boolean false), ("configurable", .boolean false)]

end Expr

end ScriptedScene.Guest
