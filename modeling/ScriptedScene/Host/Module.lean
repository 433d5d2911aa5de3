import ScriptedScene.Guest.Program
import ScriptedScene.Host.Engine
import ScriptedScene.Host.Fault

/-!
The modules of a host and the object that holds them. Every module fills an object of its own; the object with
all of them becomes a global name only when the last of them is filled.
-/

namespace ScriptedScene

open Guest Run

/-- Sets a property as the host does, which may not be refused. -/
def Guest.Run.assign (call : Call) (holder : Ref) (key : Units) (v : Value) : Run Unit := setOn call true holder key v

/-- Who fills an object for guests, which they find under a name. What the filling does is not told here; it may fail. -/
structure Registrant where
  name : String
  populate : Ref → Run (Option EngineFault)

namespace Registrant

/-- Has an object filled by one after the other, each a new one, and puts them under their names, up to the first
fault. -/
def fillAll (call : Call) (holder : Ref) : List Registrant → Run (Option EngineFault)
  | [] => return none
  | r :: rest => do
    let target ← newObject []
    match ← r.populate target with
    | some fault => return some fault
    | none =>
      assign call holder (.ofString r.name) (.object target)
      fillAll call holder rest

/-- Makes the object that holds all that is filled, and puts it under a name when the last is done. -/
def register (call : Call) (globals : Ref) (name : Units) (all : List Registrant) : Run (Except EngineFault Ref) := do
  let holder ← newObject []
  match ← fillAll call holder all with
  | some fault => return .error fault
  | none =>
    assign call globals name (.object holder)
    return .ok holder

end Registrant

/-- A module: its name, the functions in it, and what its filling fails with after them, if it does. -/
structure Module where
  name : String
  members : List (Units × HostFunction)
  fault : Option EngineFault

namespace Module

/-- The name of the console module, which may be global too. -/
def consoleName : String := "console"

/-- What guests write to the log with. -/
def console : Module where
  name := consoleName
  members := ConsoleMethod.all.map fun m => (.ofString m.name, .console m)
  fault := none

/-- What guests reach the scene with. -/
def light : Module where
  name := "light"
  members := LightFunction.all.map fun f => (.ofString f.name, .light f)
  fault := none

/-- A module of functions that each answer with a number. -/
def constants (name : String) (values : List (String × Int)) (fault : Option EngineFault) : Module where
  name := name
  members := values.map fun (key, value) => (.ofString key, .constant key value)
  fault := fault

/-- The modules of a host for which none are chosen. -/
def standard : List Module := [console, light]

/-- Puts functions onto an object. -/
def addMembers (call : Call) (target : Ref) : List (Units × HostFunction) → Run Unit
  | [] => return ()
  | (key, f) :: rest => do
    assign call target key (.object (← newFunction (.host f) f.name f.arity))
    addMembers call target rest

/-- A module as one that fills an object of its own. -/
def registrant (call : Call) (m : Module) : Registrant where
  name := m.name
  populate target := do
    addMembers call target m.members
    return m.fault

/-- Makes the console module known by a name of its own. -/
def exposeConsole (call : Call) (holder : Ref) : Run Unit := do
  match ← get call (.object holder) (.ofString consoleName) with
  | .object console => assign call (Intrinsic.ref .global) (.ofString consoleName) (.object console)
  | _ => return ()

/-- Gives the modules to guests under the name in the configuration. -/
def install (engine : Engine) (c : Config) (modules : List Module) : Run (Option EngineFault) := do
  let call := (engine.calls c).call
  match ← Registrant.register call (Intrinsic.ref .global) (.ofString c.scope) (modules.map (·.registrant call)) with
  | .error fault => return some fault
  | .ok holder =>
    if c.globalConsole then exposeConsole call holder
    return none

end Module

end ScriptedScene
