import ScriptedScene.Diagnostic
import ScriptedScene.Files

/-!
Why a call to a host fails, and the status numbers that stand for it at the boundary.
-/

namespace ScriptedScene

/-- What an interpreter can fail with besides a thrown value. -/
inductive EngineFault where
  | allocation
  | unknown
  | exception
  deriving DecidableEq, Repr

def EngineFault.message : EngineFault → String
  | allocation => "Allocation failed while creating object"
  | unknown => "QuickJS library created a unknown error"
  | exception => "Exception generated by QuickJS"

/-- Why a call to a host fails. -/
inductive HostFault where
  | allocation (cause : EngineFault)
  | registration (cause : EngineFault)
  | evaluation (diagnostic : Diagnostic)
  | invocation (diagnostic : Diagnostic)
  | unreadable (path : String) (cause : FileFault)
  | notInitialized
  | alreadyInitialized
  | busy
  | invalidSource
  deriving DecidableEq, Repr

namespace HostFault

def message : HostFault → String
  | allocation cause => "failed to create interpreter: " ++ cause.message
  | registration cause => "failed to register host API: " ++ cause.message
  | evaluation diagnostic => "script evaluation failed: " ++ diagnostic.message
  | invocation diagnostic => "update hook failed: " ++ diagnostic.message
  | unreadable path cause => "failed to read script '" ++ path ++ "': " ++ cause.message
  | notInitialized => "script host is not initialized"
  | alreadyInitialized => "script host is already initialized"
  | busy => "script host is busy"
  | invalidSource => "script source is null or not valid UTF-8"

/-- The number that stands for a fault; it is always negative. -/
def status : HostFault → Int
  | allocation _ | registration _ | evaluation _ | invocation _ | unreadable _ _ => -1
  | alreadyInitialized => -2
  | notInitialized => -3
  | invalidSource => -4
  | busy => -5

/-- What is told of the guest's failure, if it was the guest that failed. -/
def diagnostic? : HostFault → Option Diagnostic
  | evaluation diagnostic | invocation diagnostic => some diagnostic
  | _ => none

end HostFault

end ScriptedScene
