import ScriptedScene.Guest.Invoke
import ScriptedScene.Config.Basic

/-!
The interpreter under a host, as far as it is not told in full. What it needs of memory and of the stack is its own
affair: which limits leave it enough to be created, and how deep calls nest under them, are parameters here.
-/

namespace ScriptedScene

open Guest

/-- What is left open of an interpreter. One that is created has memory for all that is asked of it. -/
structure Engine where
  /-- Whether the interpreter can be created under some limits. -/
  creates : Limits → Bool
  /-- How many calls may be open at a time under some limits. -/
  depth : Limits → Nat

namespace Engine

/-- The calls of a run that a host of the given configuration starts. -/
def calls (engine : Engine) (c : Config) : Calls := .ofDepth (engine.depth c.limits)

/-- An interpreter that is always created, where a thousand calls may be open. -/
def ample : Engine := ⟨fun _ => true, fun _ => 1000⟩

end Engine

end ScriptedScene
