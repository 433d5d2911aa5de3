import ScriptedScene.Guest.Check
import ScriptedScene.Guest.Invoke
import ScriptedScene.Guest.Text

/-!
Running programs. Before the first statement of a program, every name that it declares is checked against what
the global scope already has, and then all of them are declared.
-/

namespace ScriptedScene.Guest

namespace Source

/-- The place of the first NUL of a text in bytes; the machine takes no text that has one. -/
def nulOffset? : Source → Option Nat
  | text s =>
    if s.toList.contains '\x00' then
      some ((s.toList.takeWhile (· != '\x00')).foldl (fun n c => n + c.utf8Size) 0)
    else none
  | program _ => none

/-- The program of a source, or why it is none. -/
def program? : Source → Except Fault Program
  | text s =>
    match Text.program s with
    | .ok p => .ok p
    | .error f => .error (.text f)
  | program p => .ok p

end Source

namespace Program

open Run

/-- Whether a property can take a function in place of its value: it can be redefined, or it is as declarations
make it. -/
def takesFunction (p : Property) : Bool :=
  p.configurable ||
    match p.contents with
    | .data _ writable => writable && p.enumerable
    | .shared _ | .accessor _ _ => false

/-- Why a name cannot be declared in the global scope, if it cannot. -/
def obstacle? (m : Memory) (d : Declaration) : Option Fault :=
  let held := (m.object (Intrinsic.ref .global)).own? d.name
  let redeclared := if (m.lexical? d.name).isSome then some (Fault.redeclaration d.name) else none
  match d.as, held with
  | .lexical _, some p => if p.configurable then redeclared else some (.redeclaration d.name)
  | .function, some p => if takesFunction p then redeclared else some (.cannotDefine d.name)
  | _, _ => redeclared

/-- Checks all declarations before any is made. -/
def checkAll : List Declaration → Run Unit
  | [] => return ()
  | d :: rest => do
    match ← ask fun m => obstacle? m d with
    | some f => throwFault f
    | none => checkAll rest

/-- Declares a name in the global scope. -/
def declareGlobal (d : Declaration) : Run Unit := do
  let global := Intrinsic.ref .global
  match d.as with
  | .lexical constant => declareLexical d.name (← newCell none constant)
  | .variable =>
    if ((← object global).own? d.name).isNone then putOwn global d.name (.declared .undefined)
  | .function => return ()

/-- Gives a function to a name of the global scope. -/
def defineGlobal (name : String) (f : Value) : Run Unit := do
  let global := Intrinsic.ref .global
  match (← object global).own? name with
  | some p => putOwn global name (if p.configurable then .declared f else { p with contents := .data f true })
  | none => putOwn global name (.declared f)

/-- Declares what a statement outside of all blocks declares; a function is given to its name. -/
def declareAll (ctx : Context) : Stmt → Run Unit
  | .function kind name parameters body _ => do
    defineGlobal name (← newClosure ctx kind name parameters body)
  | s => do
    let _ ← each declareGlobal s.declarations

/-- What surrounds the code of a program. -/
def context (p : Program) : Context := ⟨[], [], intrinsic .global, Stmt.startsStrict p⟩

/-- Runs a program. -/
def run (calls : Calls) (p : Program) : Run Unit := do
  match p.checked with
  | .error f => throwFault (.form f)
  | .ok p =>
    checkAll (declarations p)
    let _ ← each (declareAll (context p)) p
    let _ ← Evaluate.statements calls (context p) p

/-- The value of an expression that is a whole program. -/
def evaluate (calls : Calls) (e : Expr) : Run Value := do
  match checked [.expression e] with
  | .ok [.expression e] => Evaluate.expression calls (context []) e
  | .ok _ => return .undefined
  | .error f => throwFault (.form f)

end Program

namespace Source

open Run

/-- Runs the program of a source. -/
def run (calls : Calls) (s : Source) : Run Unit :=
  traced do
    match s.program? with
    | .ok p => Program.run calls p
    | .error f => throwFault f

end Source

end ScriptedScene.Guest
