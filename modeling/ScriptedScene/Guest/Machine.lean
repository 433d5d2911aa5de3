import ScriptedScene.Guest.Access
import ScriptedScene.Guest.Object
import ScriptedScene.Host.Request

/-!
The machine that guests run on: it holds the guest's memory, the scene, a trace of what the guest and the embedder do
to each other, and the host's ledger. Not just anything becomes of a machine in a run. By the law `Follows` the scene
moves only by calls of the light functions, all of which are in the trace, and not at all while the host holds it; while
a call of the host runs, the log moves only by the guest's completed console calls, and the counters do not move at all.
-/

namespace ScriptedScene

namespace Guest

namespace ConsoleMethod

/-- The level of the records that a method makes. -/
def level : ConsoleMethod → LogLevel
  | log | info => .info
  | debug => .debug
  | warn => .warn
  | error => .error

/-- The record of a completed call. -/
def record (method : ConsoleMethod) (texts : List String) : LogRecord :=
  ⟨method.level, scriptTarget, " ".intercalate texts⟩

end ConsoleMethod

/-- What happens while a guest runs. -/
inductive Event where
  /-- A console call came to its end, with the texts of its arguments. -/
  | console (method : ConsoleMethod) (texts : List String)
  | light (c : LightCall)
  /-- A value is called, while so many calls of the same run are open. -/
  | called (depth : Nat) (f receiver : Value) (arguments : List Value)
  /-- The embedder made a call to the host. -/
  | replied (request : Request) (reply : Reply)
  /-- The embedder was told the counters. -/
  | counted (counters : Counters)

namespace Event

def record? : Event → Option LogRecord
  | console method texts => some (method.record texts)
  | light _ | called _ _ _ _ | replied _ _ | counted _ => none

def light? : Event → Option LightCall
  | light c => some c
  | console _ _ | called _ _ _ _ | replied _ _ | counted _ => none

/-- The change of the scene that comes with an event. -/
def change? (e : Event) : Option Store.Change := e.light?.bind LightCall.change?

/-- Whether an event can be seen while a call runs that found the counters as they are given: what is asked of the
host is refused, and the counters do not move. -/
def Within (counters : Counters) : Event → Prop
  | replied request reply => reply = request.refusal
  | counted told => told = counters
  | console _ _ | light _ | called _ _ _ _ => True

/-- As `Within`, of the events that come of an embedder's visit. -/
def Told (counters : Counters) : Event → Prop
  | replied request reply => reply = request.refusal
  | counted told => told = counters
  | console _ _ | light _ | called _ _ _ _ => False

theorem Told.silent {counters : Counters} {e : Event} (told : e.Told counters) :
    e.record? = none ∧ e.light? = none ∧ e.Within counters := by
  cases e with
  | replied request reply => exact ⟨rfl, rfl, told⟩
  | counted seen => exact ⟨rfl, rfl, told⟩
  | console _ _ => exact told.elim
  | light _ => exact told.elim
  | called _ _ _ _ => exact told.elim

end Event

/-- All that a guest can reach besides the scene. -/
structure Memory where
  heap : Array Object
  cells : Array Cell
  /-- The variables of the global scope that are not properties of the global object. -/
  lexicals : List (String × CellId)
  /-- How many symbols were made. -/
  symbols : Nat

structure Machine where
  memory : Memory
  scene : Store
  trace : Array Event
  ledger : Ledger

namespace Machine

/-- Adds an event to the trace. -/
def mark (m : Machine) (e : Event) : Machine := { m with trace := m.trace.push e }

/-- Writes a record to the log. -/
def write (m : Machine) (r : LogRecord) : Machine :=
  match m with
  | ⟨memory, scene, trace, ⟨log, counters, running⟩⟩ => ⟨memory, scene, trace, ⟨log.emit r, counters, running⟩⟩

/-- Asks the scene, with which a call of a light function is over. -/
def consult (m : Machine) (hold : Hold) (f : LightFunction) (arguments : List Value) (q : Inquiry) :
    Except Fault Reading × Machine :=
  match m.scene.consult hold q with
  | .ok (reading, scene) => (.ok reading, mark { m with scene } (.light ⟨f, arguments, .asked q (.ok reading)⟩))
  | .error fault => (.error fault, m.mark (.light ⟨f, arguments, .asked q (.error fault)⟩))

end Machine

/-- What becomes of a machine while some events are seen and some records are written: the events are added to its
trace, the scene is the old one with the changes among them made, and there are none if the host holds the scene.
While no call runs, nothing is said of the log and the counters. -/
structure Leads (hold : Hold) (before : Machine) (events : List Event) (written : List LogRecord)
    (after : Machine) : Prop where
  trace : after.trace.toList = before.trace.toList ++ events
  scene : before.scene.replay (events.filterMap Event.change?) = .ok after.scene
  held : hold ≠ .free → events.filterMap Event.change? = []
  running : after.ledger.running = before.ledger.running
  log : before.ledger.running →
    after.ledger.log.records.toList = before.ledger.log.records.toList ++ written
  counters : before.ledger.running → after.ledger.counters = before.ledger.counters
  within : before.ledger.running → ∀ e ∈ events, e.Within before.ledger.counters

namespace Leads

theorem append {hold : Hold} {a b c : Machine} {es fs : List Event} {rs ss : List LogRecord}
    (h : Leads hold a es rs b) (k : Leads hold b fs ss c) : Leads hold a (es ++ fs) (rs ++ ss) c where
  trace := by rw [k.trace, h.trace, List.append_assoc]
  scene := by
    have first := h.scene
    have second := k.scene
    simp only [Store.replay, List.filterMap_append, List.foldlM_append] at *
    rw [first]
    exact second
  held held := by rw [List.filterMap_append, h.held held, k.held held, List.append_nil]
  running := k.running.trans h.running
  log running := by rw [k.log (h.running.trans running), h.log running, List.append_assoc]
  counters running := (k.counters (h.running.trans running)).trans (h.counters running)
  within running e member := by
    rcases List.mem_append.mp member with first | second
    · exact h.within running e first
    · exact h.counters running ▸ k.within (h.running.trans running) e second

theorem refl (hold : Hold) (m : Machine) : Leads hold m [] [] m :=
  ⟨by simp, rfl, fun _ => rfl, rfl, by simp, fun _ => rfl, by simp⟩

theorem write (hold : Hold) (m : Machine) (r : LogRecord) : Leads hold m [] [r] (m.write r) :=
  ⟨by simp [Machine.write], rfl, fun _ => rfl, rfl, by simp [Machine.write, Log.emit], fun _ => rfl, by simp⟩

/-- An event that is no change, and that can be seen while a call runs. -/
theorem mark (hold : Hold) (m : Machine) (e : Event) (change : e.change? = none)
    (within : m.ledger.running → e.Within m.ledger.counters) : Leads hold m [e] [] (m.mark e) :=
  ⟨by simp [Machine.mark], by simp [change]; rfl, fun _ => by simp [change], rfl, by simp [Machine.mark],
    fun _ => rfl, fun running => by simpa using within running⟩

/-- While no call runs, it does not matter what is written. -/
theorem idle {hold : Hold} {before after : Machine} {events : List Event} {written : List LogRecord}
    (idle : ¬ before.ledger.running) (h : Leads hold before events written after) (others : List LogRecord) :
    Leads hold before events others after :=
  ⟨h.trace, h.scene, h.held, h.running, fun running => absurd running idle, h.counters, h.within⟩

end Leads

/-- What becomes of a machine in a run: of records, only those of completed console calls are written. -/
def Follows (hold : Hold) (before after : Machine) : Prop :=
  ∃ events, Leads hold before events (events.filterMap Event.record?) after

namespace Follows

theorem refl (hold : Hold) (m : Machine) : Follows hold m m := ⟨[], .refl hold m⟩

theorem trans {hold : Hold} {a b c : Machine} (h : Follows hold a b) (k : Follows hold b c) :
    Follows hold a c := by
  obtain ⟨es, h⟩ := h
  obtain ⟨fs, k⟩ := k
  exact ⟨es ++ fs, by simpa only [List.filterMap_append] using h.append k⟩

theorem memory (hold : Hold) (m : Machine) (memory : Memory) : Follows hold m { m with memory } :=
  ⟨[], by simp, rfl, fun _ => rfl, rfl, by simp, fun _ => rfl, by simp⟩

theorem console (hold : Hold) (m : Machine) (method : ConsoleMethod) (texts : List String) :
    Follows hold m ((m.mark (.console method texts)).write (method.record texts)) :=
  ⟨[.console method texts],
    (Leads.mark hold m (.console method texts) rfl fun _ => trivial).append (.write hold _ (method.record texts))⟩

/-- An event that is no change and makes no record, and that can be seen while a call runs. -/
theorem mark (hold : Hold) (m : Machine) (e : Event) (record : e.record? = none) (change : e.change? = none)
    (within : m.ledger.running → e.Within m.ledger.counters) : Follows hold m (m.mark e) :=
  ⟨[e], by simpa [record] using Leads.mark hold m e change within⟩

theorem consult (hold : Hold) (m : Machine) (f : LightFunction) (arguments : List Value) (q : Inquiry) :
    Follows hold m (m.consult hold f arguments q).2 := by
  unfold Machine.consult
  cases answered : m.scene.consult hold q with
  | error fault => exact mark hold m _ rfl (by cases q <;> rfl) fun _ => trivial
  | ok a =>
    obtain ⟨reading, scene⟩ := a
    let e : Event := .light ⟨f, arguments, .asked q (.ok reading)⟩
    have changes : [e].filterMap Event.change? = (LightCall.change? ⟨f, arguments, .asked q (.ok reading)⟩).toList := by
      rw [List.filterMap_cons]
      cases change : e.change? <;> exact congrArg Option.toList change.symm
    refine ⟨[e], by simp [Machine.mark, e], ?_, fun held => ?_, rfl, by simp [Machine.mark, Event.record?, e], fun _ => rfl,
      by simp [Event.Within, e]⟩
    · rw [changes]
      exact LightCall.replay_change answered f arguments
    · rw [changes, LightCall.change?_held answered held]
      rfl

end Follows

/-- What is left of an embedder's visit while a call runs: nothing but what it was told. -/
def Quiet (before after : Machine) : Prop :=
  ∃ told : List Event,
    (∀ e ∈ told, e.Told before.ledger.counters) ∧
    after = { before with trace := before.trace ++ told.toArray }

namespace Quiet

theorem refl (m : Machine) : Quiet m m := ⟨[], by simp, by simp⟩

theorem trans {a b c : Machine} (h : Quiet a b) (k : Quiet b c) : Quiet a c := by
  obtain ⟨es, first, rfl⟩ := h
  obtain ⟨fs, second, rfl⟩ := k
  refine ⟨es ++ fs, ?_, by simp⟩
  intro e member
  rcases List.mem_append.mp member with before | after
  · exact first e before
  · exact second e after

theorem mark (m : Machine) (e : Event) (told : e.Told m.ledger.counters) : Quiet m (m.mark e) :=
  ⟨[e], by simpa using told, by simp [Machine.mark]⟩

theorem leads {before after : Machine} (h : Quiet before after) (hold : Hold) :
    ∃ told, told.filterMap Event.record? = [] ∧ Leads hold before told [] after := by
  obtain ⟨told, silent, rfl⟩ := h
  have records : told.filterMap Event.record? = [] := List.filterMap_eq_nil_iff.mpr fun e h => (silent e h).silent.1
  have changes : told.filterMap Event.change? = [] := List.filterMap_eq_nil_iff.mpr fun e h => by
    simp [Event.change?, (silent e h).silent.2.1]
  exact ⟨told, records, by simp, by rw [changes]; rfl, fun _ => changes, rfl, by simp, fun _ => rfl,
    fun _ e h => (silent e h).silent.2.2⟩

end Quiet

/-- What becomes of a machine in an embedder's visit. While no call runs, the embedder's calls run guests. -/
def Visited (hold : Hold) (before after : Machine) : Prop :=
  if before.ledger.running then Quiet before after else Follows hold before after

namespace Visited

theorem refl (hold : Hold) (m : Machine) : Visited hold m m := by
  unfold Visited
  split
  · exact .refl m
  · exact .refl hold m

theorem quiet {hold : Hold} {before after : Machine} (h : Visited hold before after)
    (running : before.ledger.running) : Quiet before after := by
  simpa only [Visited, running, if_true] using h

theorem follows {hold : Hold} {before after : Machine} (h : Visited hold before after) :
    Follows hold before after := by
  unfold Visited at h
  split at h
  · obtain ⟨told, records, leads⟩ := h.leads hold
    exact ⟨told, by simpa only [records] using leads⟩
  · exact h

end Visited

/-- What lies outside of a guest while it runs: how the host holds the scene, how many calls are open around the guest's
code, what whoever receives the log does at a record, and what the embedder's functions do, which answer with a
number. -/
structure Outside where
  hold : Hold
  depth : Nat
  receive : LogRecord → Machine → Machine
  serve : Units → List Value → Machine → Int × Machine
  receive_visited : ∀ r m, Visited hold m (receive r m)
  serve_visited : ∀ name arguments m, Visited hold m (serve name arguments m).2

namespace Outside

/-- An outside that does nothing. -/
def silent (hold : Hold) : Outside where
  hold := hold
  depth := 0
  receive _ m := m
  serve _ _ m := (0, m)
  receive_visited _ m := .refl hold m
  serve_visited _ _ m := .refl hold m

/-- The same around code in one call more. -/
def deeper (outside : Outside) : Outside := { outside with depth := outside.depth + 1 }

/-- Writes a record to the log and hands it to whoever receives the log. -/
def deliver (outside : Outside) (r : LogRecord) (m : Machine) : Machine := outside.receive r (m.write r)

theorem deliver_leads (outside : Outside) (r : LogRecord) (m : Machine) :
    ∃ events written, Leads outside.hold m events written (outside.deliver r m) := by
  obtain ⟨events, received⟩ := (outside.receive_visited r (m.write r)).follows
  exact ⟨_, _, (Leads.write outside.hold m r).append received⟩

/-- While a call runs, a record that is delivered is the only one that is written. -/
theorem deliver_running (outside : Outside) (r : LogRecord) {m : Machine} (running : m.ledger.running) :
    ∃ told, told.filterMap Event.record? = [] ∧ Leads outside.hold m told [r] (outside.deliver r m) := by
  obtain ⟨told, silent, received⟩ := ((outside.receive_visited r (m.write r)).quiet running).leads outside.hold
  exact ⟨told, silent, (Leads.write outside.hold m r).append received⟩

end Outside

end Guest

end ScriptedScene
