import ScriptedScene.Guest.Program
import ScriptedScene.Host.Embedder
import ScriptedScene.Host.Engine
import ScriptedScene.Host.Report

/-!
What a call to a host does to its machine. A call that is made while another runs is refused. Any other marks that it
runs, runs guest code, reports what that fails with, and takes the mark away. The counters are read when a tick begins
and are written when it ends.
-/

namespace ScriptedScene

open Guest

/-- The label of reports on programs that fail. -/
def evaluationLabel : String := "Error evaluating script"

/-- The label of reports on hooks that fail. -/
def tickLabel : String := "Error calling update()"

/-- Runs the program of a source. A text that has a NUL is not taken. -/
def Guest.Source.caught (calls : Calls) (s : Source) (outside : Outside) (m : Machine) :
    Except Caught Unit × Machine :=
  match s.nulOffset? with
  | some offset => (.error (.engine (nulMessage offset)), m)
  | none => (s.run calls).caught outside m

theorem Guest.Source.caught_follows (calls : Calls) (s : Source) (outside : Outside) (m : Machine) :
    Follows outside.hold m (s.caught calls outside m).2 := by
  unfold caught
  split
  · exact .refl outside.hold m
  · exact (s.run calls).caught_follows outside m

/-- The hook, if the global object has one that can be called. -/
def findHook (call : Call) (hook : String) : Run (Option Value) := do
  let f ← Run.get call (Run.intrinsic .global) (.ofString hook)
  if ← Run.isCallable f then return some f else return none

/-- Looks the hook up and calls it with the delta, if it can be called; the answer is whether it was. -/
def callHook (calls : Calls) (hook : String) (delta : Binary32) : Run Bool := do
  match ← findHook calls.call hook with
  | some f =>
    let _ ← calls.call f .undefined [.ofBinary delta.widen]
    return true
  | none => return false

namespace Guest.Machine

/-- Marks that a call runs. -/
def enter (m : Machine) : Machine := { m with ledger := { m.ledger with running := true } }

/-- Takes away the mark that a call runs. -/
def leave (m : Machine) : Machine := { m with ledger := { m.ledger with running := false } }

/-- Writes the counters. -/
def count (m : Machine) (counters : Counters) : Machine := { m with ledger := { m.ledger with counters } }

@[simp] theorem leave_trace (m : Machine) : m.leave.trace = m.trace := rfl

@[simp] theorem leave_log (m : Machine) : m.leave.ledger.log = m.ledger.log := rfl

@[simp] theorem leave_counters (m : Machine) : m.leave.ledger.counters = m.ledger.counters := rfl

@[simp] theorem count_trace (m : Machine) (counters : Counters) : (m.count counters).trace = m.trace := rfl

@[simp] theorem count_log (m : Machine) (counters : Counters) : (m.count counters).ledger.log = m.ledger.log := rfl

@[simp] theorem count_counters (m : Machine) (counters : Counters) :
    (m.count counters).ledger.counters = counters := rfl

section
variable (engine : Engine) (c : Config) (outside : Outside)

/-- Runs a program. -/
def evaluate (source : Source) (m : Machine) : Reply × Machine :=
  if m.ledger.running then (.error .busy, m)
  else
    match reported (engine.calls c).call outside evaluationLabel (source.caught (engine.calls c) outside m.enter) with
    | (result, m) => (.ofResult .evaluation result, m.leave)

/-- Runs the program in a file, given what reading the file as text came to. -/
def evaluateFile (path : String) (content : Except FileFault Source) (m : Machine) : Reply × Machine :=
  match content with
  | .error cause => (.error (.unreadable path cause), m)
  | .ok source => m.evaluate engine c outside source

/-- Calls the hook for one tick. -/
def tick (delta : Binary32) (m : Machine) : Reply × Machine :=
  if m.ledger.running then (.error .busy, m)
  else
    let before := m.ledger.counters
    match reported (engine.calls c).call outside tickLabel
        ((callHook (engine.calls c) c.hook delta).caught outside m.enter) with
    | (result, m) => (.ofResult .invocation result, (m.count (before.afterTick result)).leave)

/-- Makes a call. -/
def perform (request : Request) (m : Machine) : Reply × Machine :=
  match request with
  | .evaluate source => m.evaluate engine c outside source
  | .evaluateFile path content => m.evaluateFile engine c outside path content
  | .tick delta => m.tick engine c outside delta

end

/-- A call ends as it began: nothing runs. -/
theorem leave_leads {hold : Hold} {m after : Machine} {events : List Event} {written : List LogRecord}
    (idle : ¬ m.ledger.running) (h : Leads hold m.enter events written after) (counters : Counters) :
    Leads hold m events written (after.count counters).leave where
  trace := h.trace
  scene := h.scene
  held := h.held
  running := by simp [leave, idle]
  log running := absurd running idle
  counters running := absurd running idle
  within running := absurd running idle

section
variable (engine : Engine) (c : Config) (outside : Outside)

theorem evaluate_leads (source : Source) {m : Machine} (idle : ¬ m.ledger.running) :
    ∃ events written, Leads outside.hold m events written (m.evaluate engine c outside source).2 := by
  obtain ⟨events, written, h⟩ :=
    reported_leads (engine.calls c).call outside evaluationLabel (source.caught_follows (engine.calls c) outside m.enter)
  refine ⟨events, written, ?_⟩
  unfold evaluate
  rw [if_neg idle]
  exact leave_leads idle h _

theorem tick_leads (delta : Binary32) {m : Machine} (idle : ¬ m.ledger.running) :
    ∃ events written, Leads outside.hold m events written (m.tick engine c outside delta).2 := by
  obtain ⟨events, written, h⟩ := reported_leads (engine.calls c).call outside tickLabel
    ((callHook (engine.calls c) c.hook delta).caught_follows outside m.enter)
  refine ⟨events, written, ?_⟩
  unfold tick
  rw [if_neg idle]
  exact leave_leads idle h _

/-- A call that is made while another runs is refused, and nothing comes of it. -/
theorem perform_running (request : Request) {m : Machine} (running : m.ledger.running) :
    m.perform engine c outside request = (request.refusal, m) := by
  cases request with
  | evaluate source => simp only [perform, evaluate, running, if_true, Request.refusal]
  | evaluateFile path content =>
    cases content with
    | error cause => rfl
    | ok source => simp only [perform, evaluateFile, evaluate, running, if_true, Request.refusal]
  | tick delta => simp only [perform, tick, running, if_true, Request.refusal]

theorem perform_guarded : Visit.Guarded outside.hold fun request m => m.perform engine c outside request := by
  intro request m
  refine ⟨perform_running engine c outside request, fun idle => ?_⟩
  cases request with
  | evaluate source => exact evaluate_leads engine c outside source idle
  | evaluateFile path content =>
    cases content with
    | error cause => exact ⟨[], [], .refl outside.hold m⟩
    | ok source => exact evaluate_leads engine c outside source idle
  | tick delta => exact tick_leads engine c outside delta idle

end

end Guest.Machine

namespace Embedder

/-- What lies outside of a guest whose embedder makes the calls of its visits, given what lies outside of the guests
that those run. -/
def around (e : Embedder) (engine : Engine) (c : Config) (inner : Outside) : Outside :=
  e.answering inner.hold (fun request m => m.perform engine c inner request) (Machine.perform_guarded engine c inner)

/-- What lies outside of a guest, where the embedder's calls nest so many deep; below that it makes none. -/
def outside (e : Embedder) (engine : Engine) (c : Config) (hold : Hold) : Nat → Outside
  | 0 => .silent hold
  | depth + 1 => e.around engine c (e.outside engine c hold depth)

end Embedder

end ScriptedScene
