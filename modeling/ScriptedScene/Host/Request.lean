import ScriptedScene.Guest.Syntax
import ScriptedScene.Host.Fault
import ScriptedScene.Log

/-!
The calls that can be made to a host, and what a host keeps of them. A host runs one call at a time; what is
asked of it while a call runs is refused.
-/

namespace ScriptedScene

open Guest

/-- A call that can be made to a host. -/
inductive Request where
  | evaluate (source : Source)
  /-- Evaluates a file, given what reading it as text came to. -/
  | evaluateFile (path : String) (content : Except FileFault Source)
  | tick (delta : Binary32)

/-- What a call comes to. -/
abbrev Reply := Except HostFault Unit

/-- What a call comes to that ran guest code, given what a failure of that code is to the call. -/
def Reply.ofResult (fault : Diagnostic → HostFault) : Except Diagnostic α → Reply
  | .ok _ => .ok ()
  | .error d => .error (fault d)

namespace Request

/-- What a call comes to that is made while another runs. A file is read before that is noticed. -/
def refusal : Request → Reply
  | evaluateFile path (.error cause) => .error (.unreadable path cause)
  | evaluate _ | evaluateFile _ (.ok _) | tick _ => .error .busy

end Request

/-- What became of the ticks so far. A counter that is full starts over, as words do where overflow is not looked for. -/
structure Counters where
  ticks : UInt64
  /-- Ticks whose hook was found and came to its end. -/
  hookCalls : UInt64
  /-- Ticks whose hook, or the search for it, threw. -/
  failures : UInt64
  deriving DecidableEq, Repr

namespace Counters

def zero : Counters := ⟨0, 0, 0⟩

/-- The counters with one tick more, which called its hook or found none, or failed. -/
def afterTick (before : Counters) : Except Diagnostic Bool → Counters
  | .ok called => ⟨before.ticks + 1, before.hookCalls + called.toUInt64, before.failures⟩
  | .error _ => ⟨before.ticks + 1, before.hookCalls, before.failures + 1⟩

end Counters

/-- What a host keeps of its calls. -/
structure Ledger where
  log : Log
  counters : Counters
  /-- Whether a call runs. -/
  running : Bool
  deriving DecidableEq, Repr

def Ledger.new : Ledger := ⟨.empty, .zero, false⟩

end ScriptedScene
