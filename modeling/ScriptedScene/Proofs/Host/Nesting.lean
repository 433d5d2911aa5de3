import ScriptedScene.Proofs.Host.Counting
import ScriptedScene.Proofs.Host.Lockstep

/-! Calls that are made while another call of the same host runs. An embedder gets to make them wherever a record is
received, that of a report among them, and wherever a function of its modules is called. They are refused, all of them
and nothing else, and a call in which they are made comes to what it comes to if they reach no host at all. -/
namespace ScriptedScene
open Guest

namespace Guest
variable {left right outside : Outside} {m : Machine}

theorem Machine.consult_ledger (m : Machine) (hold : Hold) (f : LightFunction) (arguments : List Value) (q : Inquiry) :
    (m.consult hold f arguments q).2.ledger = m.ledger := by
  unfold consult
  cases m.scene.consult hold q <;> rfl

/-- Control comes back from the embedder with the mark that a call runs. -/
theorem Visited.running {hold : Hold} {after : Machine} (visited : Visited hold m after) (running : m.ledger.running) :
    after.ledger.running := by
  obtain ⟨told, -, rfl⟩ := visited.quiet running
  exact running

/-- Two outsides that cannot be told apart while a call runs. -/
structure Outside.Alike (left right : Outside) : Prop where
  hold : left.hold = right.hold
  depth : left.depth = right.depth
  receive : ∀ r {m : Machine}, m.ledger.running → left.receive r m = right.receive r m
  serve : ∀ name arguments {m : Machine}, m.ledger.running → left.serve name arguments m = right.serve name arguments m

theorem Outside.Alike.deliver (alike : left.Alike right) (r : LogRecord) (running : m.ledger.running) :
    left.deliver r m = right.deliver r m :=
  alike.receive r running

theorem Outside.deliver_running_mark (outside : Outside) (r : LogRecord) (running : m.ledger.running) :
    (outside.deliver r m).ledger.running :=
  (outside.receive_visited r (m.write r)).running running

/-- A machine whose call runs, under two outsides that are alike then. -/
def Outside.Alike.lockstep (alike : left.Alike right) : Lockstep left right where
  Paired m n := m = n ∧ m.ledger.running
  hold := alike.hold
  depth := alike.depth
  sameMemory paired := congrArg Machine.memory paired.1
  sameScene paired := congrArg Machine.scene paired.1
  revise := by
    rintro m _ ⟨rfl, running⟩ memory
    exact ⟨rfl, running⟩
  say := by
    rintro m _ ⟨rfl, running⟩ method texts
    exact ⟨alike.deliver _ running, left.deliver_running_mark _ running⟩
  serve := by
    rintro m _ ⟨rfl, running⟩ name arguments
    have same := alike.serve name arguments running
    exact ⟨congrArg Prod.fst same, congrArg Prod.snd same, (left.serve_visited name arguments m).running running⟩
  consult := by
    rintro m _ ⟨rfl, running⟩ f arguments q
    rw [alike.hold]
    exact ⟨rfl, by rw [Machine.consult_ledger]; exact running⟩
  unasked := by
    rintro m _ ⟨rfl, running⟩ f arguments
    exact ⟨rfl, running⟩
  called := by
    rintro m _ ⟨rfl, running⟩ depth _ f receiver arguments
    exact ⟨rfl, running⟩

section
variable {α : Type} (alike : left.Alike right) (call : Call) (label : String)

/-- What a run comes to whose failure is reported, from a machine whose call runs. -/
theorem Outside.Alike.reported {x y : Except Caught α × Machine} (agree : alike.lockstep.Agree x y) :
    ScriptedScene.reported call left label x = ScriptedScene.reported call right label y := by
  have deliver : ∀ {m n}, alike.lockstep.Paired m n → ∀ r, alike.lockstep.Paired (left.deliver r m) (right.deliver r n) := by
    rintro m _ ⟨rfl, running⟩ r
    exact ⟨alike.deliver r running, left.deliver_running_mark r running⟩
  have told := reported_lockstep call alike.lockstep label deliver agree
  exact Prod.ext told.1 told.2.1

end

/-- Calls cannot tell either: each of them runs its guest with the mark set. -/
theorem Outside.Alike.perform (alike : left.Alike right) (engine : Engine) (c : Config) (request : Request) (m : Machine) :
    m.perform engine c left request = m.perform engine c right request := by
  have start : alike.lockstep.Paired m.enter m.enter := ⟨rfl, rfl⟩
  have evaluate (source : Source) : m.evaluate engine c left source = m.evaluate engine c right source := by
    unfold Machine.evaluate
    rw [alike.reported (engine.calls c).call evaluationLabel (source.caught_lockstep (engine.calls c) alike.lockstep start)]
  cases request with
  | evaluate source => exact evaluate source
  | evaluateFile path content =>
    cases content with
    | error cause => rfl
    | ok source => exact evaluate source
  | tick delta =>
    change m.tick engine c left delta = m.tick engine c right delta
    unfold Machine.tick
    rw [alike.reported (engine.calls c).call tickLabel
      ((callHook (engine.calls c) c.hook delta).caught_lockstep alike.lockstep start)]

end Guest

namespace Visit
variable {α : Type} {hold : Hold} {perform : Request → Machine → Reply × Machine}

/-- While a call runs, nothing in a visit tells calls that reach the host from calls that do not. -/
theorem run_refused (guarded : Guarded hold perform) (v : Visit α) {m : Machine} (running : m.ledger.running) :
    v.run perform m = v.run refuse m := by
  induction v generalizing m with
  | done a => rfl
  | call request next ih =>
    simp only [run, (guarded request m).1 running, refuse]
    exact ih _ running
  | count next ih => exact ih _ running

end Visit

namespace Embedder

/-- What lies outside of a guest whose embedder's calls reach no host: each is answered by its refusal. -/
def refused (e : Embedder) (hold : Hold) : Nat → Outside
  | 0 => .silent hold
  | _ + 1 => e.answering hold Visit.refuse (Visit.refuse_guarded hold)

theorem outside_alike (e : Embedder) (engine : Engine) (c : Config) (hold : Hold) (depth : Nat) :
    (e.outside engine c hold depth).Alike (e.refused hold depth) := by
  cases depth with
  | zero => exact ⟨rfl, rfl, fun _ _ _ => rfl, fun _ _ _ _ => rfl⟩
  | succ depth =>
    have guarded := Machine.perform_guarded engine c (e.outside engine c hold depth)
    -- Calls one level further in may be anything that is guarded; all that is needed of them is the hold.
    have inner : (e.outside engine c hold depth).hold = hold := by
      induction depth with
      | zero => rfl
      | succ depth ih => exact ih (Machine.perform_guarded engine c (e.outside engine c hold depth))
    exact ⟨inner, rfl, fun r m running => congrArg Prod.snd (Visit.run_refused guarded _ running),
      fun name arguments m running => Visit.run_refused guarded _ running⟩

end Embedder

/-- A call to a host as it was answered, with the calls of the same host that were open when it was made. -/
structure Answered where
  standing : List Request
  request : Request
  reply : Reply

namespace Made

/-- The host's call whose embedder reaches no host while it runs. -/
def alone (call : Made) : Reply × Host :=
  match call.host.machine.perform call.host.engine call.host.config
    (call.host.embedder.refused call.hold call.host.embedder.depth) call.request with
  | (reply, machine) => (reply, { call.host with machine })

/-- What the embedder asked of the host while the call ran. -/
def nested (call : Made) : List Answered :=
  call.events.filterMap fun
    | .replied request reply => some ⟨[call.request], request, reply⟩
    | _ => none

/-- The call, after all that were made while it ran. -/
def answered (call : Made) : List Answered := call.nested ++ [⟨[], call.request, call.reply⟩]

theorem eq_alone (call : Made) : call.host.perform call.hold call.request = call.alone := by
  unfold alone Host.perform Host.outside
  rw [(call.host.embedder.outside_alike call.host.engine call.host.config call.hold call.host.embedder.depth).perform]

theorem mem_nested {call : Made} (idle : call.host.running = false) {a : Answered} (member : a ∈ call.nested) :
    a.standing = [call.request] ∧ a.reply = a.request.refusal := by
  obtain ⟨events, trace, within⟩ := call.after_within idle
  rw [nested, events_eq trace, List.mem_filterMap] at member
  obtain ⟨event, present, asked⟩ := member
  have refused := within event present
  cases event with
  | replied request reply =>
    cases asked
    exact ⟨rfl, refused⟩
  | console _ _ => cases asked
  | light _ => cases asked
  | called _ _ _ _ => cases asked
  | counted _ => cases asked

/-- A call with no other open is not refused. -/
theorem reply_ne_busy (call : Made) (idle : call.host.running = false) : call.reply ≠ .error .busy := by
  obtain ⟨h, hold, request⟩ := call
  have evaluated (source : Source) : (h.evaluate hold source).1 ≠ .error .busy := by
    rcases h.evaluate_reply idle hold source with answer | ⟨d, answer⟩ <;> simp [answer]
  cases request with
  | evaluate source => exact evaluated source
  | evaluateFile path content =>
    cases content with
    | error cause => simp [reply]
    | ok source => exact evaluated source
  | tick delta =>
    obtain ⟨threw, other⟩ := h.tick_reply idle hold delta
    by_cases hook : h.hookEnd hold delta = .threw
    · obtain ⟨d, answer⟩ := threw hook
      simp [reply, answer]
    · simp [reply, other hook]

end Made

/-- Which calls are refused as busy, and what is said of a file that cannot be read. -/
def Answered.Right (a : Answered) : Prop :=
  match a.request with
  | .evaluateFile path (.error cause) => a.reply = .error (.unreadable path cause)
  | .evaluate _ | .evaluateFile _ (.ok _) | .tick _ => a.reply = .error .busy ↔ a.standing ≠ []

theorem Answered.right_of_refusal {a : Answered} (standing : a.standing ≠ []) (refused : a.reply = a.request.refusal) :
    a.Right := by
  obtain ⟨calls, request, reply⟩ := a
  cases request with
  | evaluate source => simpa [Right, Request.refusal] using ⟨fun _ => standing, fun _ => refused⟩
  | evaluateFile path content =>
    cases content with
    | error cause => exact refused
    | ok source => simpa [Right, Request.refusal] using ⟨fun _ => standing, fun _ => refused⟩
  | tick delta => simpa [Right, Request.refusal] using ⟨fun _ => standing, fun _ => refused⟩

namespace Made

theorem outermost_right (call : Made) (idle : call.host.running = false) :
    Answered.Right ⟨[], call.request, call.reply⟩ := by
  have served := call.reply_ne_busy idle
  obtain ⟨h, hold, request⟩ := call
  cases request with
  | evaluate source => simpa [Answered.Right] using served
  | evaluateFile path content =>
    cases content with
    | error cause => rfl
    | ok source => simpa [Answered.Right] using served
  | tick delta => simpa [Answered.Right] using served

theorem answered_right (call : Made) (idle : call.host.running = false) {a : Answered} (member : a ∈ call.answered) :
    a.Right := by
  rcases List.mem_append.mp member with nested | outermost
  · obtain ⟨standing, refused⟩ := mem_nested idle nested
    exact Answered.right_of_refusal (by simp [standing]) refused
  · rw [List.mem_singleton.mp outermost]
    exact call.outermost_right idle

end Made

namespace Host
variable {h : Host}

/-- Whatever a host is asked for in turn, and whatever its embedder asks for in between: a call is refused as busy if
another call of the host is open, and only then. A call that is made while another runs leaves the machine as it is, and
the whole comes to the same as if it had reached no host. When a call of the embedder's own is over, none is open. -/
theorem calls_answered (reachable : h.Reachable) (requests : List (Hold × Request)) :
    (∀ call ∈ h.course requests,
      (∀ a ∈ call.answered, a.Right) ∧
      call.host.perform call.hold call.request = call.alone ∧
      call.host.running = false ∧ call.after.running = false) ∧
    ∀ (engine : Engine) (c : Config) (outside : Outside) (request : Request) (m : Machine),
      m.ledger.running → m.perform engine c outside request = (request.refusal, m) := by
  refine ⟨fun call member => ?_, fun engine c outside request m running =>
    Machine.perform_running engine c outside request running⟩
  have idle := course_idle reachable.idle requests call member
  exact ⟨fun a made => call.answered_right idle made, call.eq_alone, idle,
    perform_running call.host call.hold call.request idle⟩

/-- An embedder that asks for a tick at every record asks for one while a guest's failure is reported, and is refused. -/
theorem calls_answered_asking : ∃ h : Host, h.Reachable ∧ ∃ call ∈ h.course [(.free, .evaluate hostile)],
    ∃ a ∈ call.answered, a.standing ≠ [] ∧ a.Right := by
  have asked : (build .ample (.asking [.tick .one]) .default Module.standard .empty).toOption.any (fun h =>
      (h.course [(.free, .evaluate hostile)]).any fun call => !call.nested.isEmpty) = true := by decide +kernel
  obtain ⟨h, built, asked⟩ := exists_built asked
  have reachable := Reachable.built built
  obtain ⟨call, member, nested⟩ := List.any_eq_true.mp asked
  obtain ⟨a, present⟩ := List.exists_mem_of_ne_nil call.nested (by simpa using nested)
  have answered : a ∈ call.answered := List.mem_append_left _ present
  have standing := (Made.mem_nested (course_idle reachable.idle _ call member) present).1
  exact ⟨h, reachable, call, member, a, answered, by simp [standing],
    ((calls_answered reachable _).1 call member).1 a answered⟩

end Host
end ScriptedScene
