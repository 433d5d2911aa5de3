import ScriptedScene.Host.Module
import ScriptedScene.Host.Calls
import ScriptedScene.Host.Describe

/-!
The host: an interpreter, a configuration, the embedder, and one machine with the modules on it and the ledger of the
host's calls.
-/

namespace ScriptedScene

open Guest

structure Host where
  engine : Engine
  config : Config
  embedder : Embedder
  machine : Machine

namespace Host

/-- A host with the given embedder and modules, of which the console should be the first. Its counters start when the
modules are in place. -/
def build (engine : Engine) (e : Embedder) (c : Config) (modules : List Module) (scene : Store) :
    Except HostFault Host :=
  if !engine.creates c.limits then .error (.allocation .allocation)
  else
    match (Module.install engine c modules).run (.silent .free) (Machine.new scene) with
    | (.ok none, machine) => .ok ⟨engine, c, e, (machine.count .zero).leave⟩
    | (.ok (some fault), _) => .error (.registration fault)
    | (.error _, _) => .error (.registration .exception)

/-- A host with the given modules whose embedder makes no calls. -/
def withModules (engine : Engine) (c : Config) (modules : List Module) (scene : Store) : Except HostFault Host :=
  build engine .silent c modules scene

/-- A host with the standard modules. -/
def create (engine : Engine) (c : Config) (scene : Store) : Except HostFault Host :=
  withModules engine c Module.standard scene

/-- The scene of the host's machine. -/
def scene (h : Host) : Store := h.machine.scene

def log (h : Host) : Log := h.machine.ledger.log

def counters (h : Host) : Counters := h.machine.ledger.counters

/-- Whether a call runs. -/
def running (h : Host) : Bool := h.machine.ledger.running

/-- The calls of a run that the host starts. -/
def calls (h : Host) : Calls := h.engine.calls h.config

/-- What lies outside of the host's guests while the scene is held. -/
def outside (h : Host) (hold : Hold) : Outside := h.embedder.outside h.engine h.config hold h.embedder.depth

/-- The host with another scene, as the owner of the scene may change it between calls. -/
def withScene (h : Host) (scene : Store) : Host := { h with machine := { h.machine with scene } }

/-- The host with another log, as the owner of the log may empty it between calls. -/
def withLog (h : Host) (log : Log) : Host :=
  { h with machine := { h.machine with ledger := { h.machine.ledger with log } } }

/-- Makes a call. -/
def perform (h : Host) (hold : Hold) (request : Request) : Reply × Host :=
  match h.machine.perform h.engine h.config (h.outside hold) request with
  | (reply, machine) => (reply, { h with machine })

/-- Runs a program in the host's realm. -/
def evaluate (h : Host) (hold : Hold) (source : Source) : Reply × Host := h.perform hold (.evaluate source)

/-- Runs the program in a file, given what reading the file as text came to. -/
def evaluateFile (h : Host) (hold : Hold) (path : String) (content : Except FileFault Source) : Reply × Host :=
  h.perform hold (.evaluateFile path content)

/-- Calls the hook for one tick. -/
def tick (h : Host) (hold : Hold) (delta : Binary32) : Reply × Host := h.perform hold (.tick delta)

@[simp] theorem perform_evaluate (h : Host) (hold : Hold) (source : Source) :
    h.perform hold (.evaluate source) = h.evaluate hold source := rfl

@[simp] theorem perform_tick (h : Host) (hold : Hold) (delta : Binary32) :
    h.perform hold (.tick delta) = h.tick hold delta := rfl

/-- A file that can be read is evaluated as any other source. -/
@[simp] theorem perform_file (h : Host) (hold : Hold) (path : String) (source : Source) :
    h.perform hold (.evaluateFile path (.ok source)) = h.evaluate hold source := rfl

@[simp] theorem perform_unreadable (h : Host) (hold : Hold) (path : String) (cause : FileFault) :
    h.perform hold (.evaluateFile path (.error cause)) = (.error (.unreadable path cause), h) := rfl

/-- Describes properties of the global object. Getters among them run and may write to the log; an embedder does not
make calls then. -/
def read (h : Host) (hold : Hold) (names : List String) : List Description × Host :=
  match (Run.each (Description.ofGlobal h.calls.call) names).run (.silent hold) h.machine with
  | (.ok ds, machine) => (ds, { h with machine })
  | (.error _, machine) => ([], { h with machine })

/-- What the embedder's calls came to, from a place in the trace on. -/
def repliesFrom (h : Host) (place : Nat) : List Reply :=
  (h.machine.trace.toList.drop place).filterMap fun
    | .replied _ reply => some reply
    | _ => none

/-- The number that stands for the outcome of a call. -/
def statusOf : Reply → Int
  | .ok () => 0
  | .error fault => fault.status

end Host

end ScriptedScene
