import ScriptedScene.Guest.Convert

/-!
The console module: each method makes one record of its arguments' texts, once all of them have one.
-/

namespace ScriptedScene.Guest

namespace ConsoleMethod

def all : List ConsoleMethod := [log, info, debug, warn, error]

def name : ConsoleMethod → String
  | log => "log"
  | info => "info"
  | debug => "debug"
  | warn => "warn"
  | error => "error"

/-- The text of an argument, which has to be well-formed. -/
def argumentText (call : Call) (v : Value) : Run String := do
  Run.orThrow (Convert.text (.text (← Run.toText call v)))

/-- A call of a method. -/
def run (call : Call) (method : ConsoleMethod) (arguments : List Value) : Run Value := do
  let texts ← Run.each (argumentText call) arguments
  Run.say method texts
  return .undefined

end ConsoleMethod

end ScriptedScene.Guest
