import ScriptedScene.Text.Blank

/-!
What is told of a guest's failure: a message and, for error objects, a stack.
-/

namespace ScriptedScene

/-- The message of a failure and its stack, if there is one worth showing. -/
structure Diagnostic where
  message : String
  stack : Option String
  deriving DecidableEq, Repr

namespace Diagnostic

/-- A diagnostic whose stack is dropped if it is blank. -/
def new (message : String) (stack : Option String) : Diagnostic :=
  ⟨message, stack.filter fun stack => !Text.isAllBlank stack⟩

/-- The label and the message, and under them the stack without the blanks at its end. -/
def render (d : Diagnostic) (label : String) : String :=
  label ++ ": " ++ d.message ++
    match d.stack with
    | some stack => "\n  " ++ Text.trimEnd stack
    | none => ""

end Diagnostic

end ScriptedScene
