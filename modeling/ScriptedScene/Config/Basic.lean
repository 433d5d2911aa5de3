import ScriptedScene.Json.Message
import ScriptedScene.Files

/-!
The configuration of a host: the names under which guests find it, and the limits of its interpreter.
-/

namespace ScriptedScene

/-- Bounds on the interpreter; one that is not given leaves the interpreter's own. -/
structure Limits where
  memory : Option Nat
  stack : Option Nat
  collection : Option Nat
  deriving DecidableEq, Repr

def Limits.unset : Limits := ⟨none, none, none⟩

structure Config where
  /-- The global name of the object that holds the host's modules. -/
  scope : String
  /-- The global name of the function that is called once a tick. -/
  hook : String
  /-- Whether the console module has a global name of its own. -/
  globalConsole : Bool
  limits : Limits
  deriving DecidableEq, Repr

namespace Config

def default : Config := ⟨"WebSG", "onupdate", true, .unset⟩

instance : Inhabited Config := ⟨default⟩

/-- Why a configuration cannot be had. -/
inductive Fault where
  | unreadable (path : String) (cause : FileFault)
  | unparsable (cause : Json.Fault)
  | invalid (field : String) (reason : String)
  deriving DecidableEq, Repr

def Fault.message : Fault → String
  | unreadable path cause => "failed to read config '" ++ path ++ "': " ++ cause.message
  | unparsable cause => "malformed config: " ++ cause.message
  | invalid field reason => "invalid " ++ Json.ticked field ++ ": " ++ reason

/-- Whether an identifier may start with the character. -/
def startsIdentifier (c : Char) : Bool := c.isAlpha || c == '_' || c == '$'

/-- Whether an identifier may go on with the character. -/
def continuesIdentifier (c : Char) : Bool := c.isAlphanum || c == '_' || c == '$'

/-- Whether a name is made of letters, digits, `_` and `$`, without a digit at its start. -/
def isIdentifier (name : String) : Bool :=
  match name.toList with
  | [] => false
  | c :: cs => startsIdentifier c && cs.all continuesIdentifier

def checkIdentifier (field name : String) : Except Fault Unit :=
  if isIdentifier name then .ok ()
  else .error (.invalid field ("'" ++ name ++ "' is not an identifier"))

/-- Whether a configuration may be used: both names are identifiers, and the memory limit leaves some
memory. -/
def validate (c : Config) : Except Fault Unit := do
  checkIdentifier "namespace" c.scope
  checkIdentifier "update_hook" c.hook
  if c.limits.memory = some 0 then
    .error (.invalid "limits.memory_limit" "must be greater than zero")

end Config

end ScriptedScene
