import ScriptedScene.Guest.Machine

/-!
The embedder's side of a host. While a guest runs, control comes to the embedder where a record is received and where a
function of its modules is called. There it may make further calls to the same host, before the guest goes on.
-/

namespace ScriptedScene

open Guest

/-- What an embedder does when control comes to it: it makes calls to the host and asks for the counters, one after
the other. What it does next may depend on what it was told. -/
inductive Visit (α : Type) where
  | done (a : α)
  | call (request : Request) (next : Reply → Visit α)
  | count (next : Counters → Visit α)

namespace Visit

/-- Carries a visit out, given what a call does. All that the embedder is told is in the trace. -/
def run (perform : Request → Machine → Reply × Machine) : Visit α → Machine → α × Machine
  | done a, m => (a, m)
  | call request next, m =>
    match perform request m with
    | (reply, m) => (next reply).run perform (m.mark (.replied request reply))
  | count next, m => (next m.ledger.counters).run perform (m.mark (.counted m.ledger.counters))

/-- What calls do that are made while a guest runs: they are refused while a call runs, and else follow the guests that
they run. -/
def Guarded (hold : Hold) (perform : Request → Machine → Reply × Machine) : Prop :=
  ∀ request m,
    (m.ledger.running → perform request m = (request.refusal, m)) ∧
    (¬ m.ledger.running → ∃ events written, Leads hold m events written (perform request m).2)

section
variable {hold : Hold} {perform : Request → Machine → Reply × Machine}

/-- Nothing of a visit gets past the mark that a call runs, however many calls it makes. -/
theorem run_quiet (guarded : Guarded hold perform) (v : Visit α) {m : Machine} (running : m.ledger.running) :
    Quiet m (v.run perform m).2 := by
  induction v generalizing m with
  | done a => exact .refl m
  | call request next ih =>
    have told := Quiet.mark m (.replied request request.refusal) rfl
    have refused := (guarded request m).1 running
    simp only [run, refused]
    exact told.trans (ih _ running)
  | count next ih =>
    have told := Quiet.mark m (.counted m.ledger.counters) rfl
    simp only [run]
    exact told.trans (ih _ running)

theorem run_follows (guarded : Guarded hold perform) (v : Visit α) {m : Machine} (idle : ¬ m.ledger.running) :
    Follows hold m (v.run perform m).2 := by
  induction v generalizing m with
  | done a => exact .refl hold m
  | call request next ih =>
    obtain ⟨events, written, performed⟩ := (guarded request m).2 idle
    have after : ¬ (perform request m).2.ledger.running := performed.running ▸ idle
    have told := Leads.mark hold (perform request m).2 (.replied request (perform request m).1) rfl
      fun running => absurd running after
    exact Follows.trans ⟨_, (performed.append told).idle idle _⟩ (ih _ after)
  | count next ih =>
    have told := Leads.mark hold m (.counted m.ledger.counters) rfl fun running => absurd running idle
    exact Follows.trans ⟨_, told⟩ (ih _ idle)

theorem run_visited (guarded : Guarded hold perform) (v : Visit α) (m : Machine) :
    Visited hold m (v.run perform m).2 := by
  unfold Visited
  split
  · exact run_quiet guarded v ‹_›
  · exact run_follows guarded v ‹_›

end

/-- Answers calls as those are that are made while another runs, whatever runs. -/
def refuse (request : Request) (m : Machine) : Reply × Machine := (request.refusal, m)

theorem refuse_guarded (hold : Hold) : Guarded hold refuse :=
  fun _ m => ⟨fun _ => rfl, fun _ => ⟨[], [], .refl hold m⟩⟩

/-- Makes calls in turn, whatever they come to. -/
def calls : List Request → Visit Unit
  | [] => done ()
  | request :: rest => call request fun _ => calls rest

end Visit

/-- The embedder of a host. What it does may depend on all that was seen from outside so far. -/
structure Embedder where
  /-- How deep the calls nest that it makes. -/
  depth : Nat
  /-- What whoever receives the log does at a record. -/
  receive : Array Event → LogRecord → Visit Unit
  /-- What the functions of its modules do with their arguments. -/
  serve : Array Event → Units → List Value → Visit Int

namespace Embedder

/-- An embedder that makes no calls. -/
def silent : Embedder := ⟨0, fun _ _ => .done (), fun _ _ _ => .done 0⟩

/-- An embedder that makes the same calls at every record. -/
def asking (requests : List Request) : Embedder := ⟨1, fun _ _ => .calls requests, fun _ _ _ => .done 0⟩

/-- What lies outside of a guest whose embedder makes the calls of its visits, given what a call does. -/
def answering (e : Embedder) (hold : Hold) (perform : Request → Machine → Reply × Machine)
    (guarded : Visit.Guarded hold perform) : Outside where
  hold := hold
  depth := 0
  receive r m := ((e.receive m.trace r).run perform m).2
  serve name arguments m := (e.serve m.trace name arguments).run perform m
  receive_visited _ m := Visit.run_visited guarded _ m
  serve_visited _ _ m := Visit.run_visited guarded _ m

end Embedder

end ScriptedScene
