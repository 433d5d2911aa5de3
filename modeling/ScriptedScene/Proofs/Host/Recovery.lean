import ScriptedScene.Proofs.Host.Diagnostics
import ScriptedScene.Proofs.Host.Hook
import ScriptedScene.Proofs.Host.Nesting

/-! Hosts after failures. A call that fails leaves the memory and the scene as they were when the exception left the guest,
but for what became of them while the thrown value was read. What else a host keeps of its past, guests cannot find out:
hosts that differ in nothing else answer alike from then on. For that, the embedder's functions have to answer alike too;
they may depend on what guests did since, but not on what the embedder was told of its calls and of the counters. -/
namespace ScriptedScene
open Guest

namespace Guest
variable {outside : Outside} {a b m n : Machine} {call : Call} {v : Value}

/-- Whether an event is something that a guest does. -/
def Event.isGuests : Event → Bool
  | console _ _ | light _ | called _ _ _ _ => true
  | replied _ _ | counted _ => false

theorem Event.Told.isGuests {counters : Counters} {e : Event} (told : e.Told counters) : e.isGuests = false := by
  cases e with
  | replied request reply => rfl
  | counted counters => rfl
  | console _ _ => exact told.elim
  | light _ => exact told.elim
  | called _ _ _ _ => exact told.elim

theorem Event.filter_told {counters : Counters} {told : List Event} (all : ∀ e ∈ told, e.Told counters) :
    told.filter isGuests = [] :=
  List.filter_eq_nil_iff.mpr fun e member => by simp [(all e member).isGuests]

/-- Two machines whose calls run, from where the calls began: neither guest has done what the other has not. -/
structure Machine.Abreast (a b m n : Machine) : Prop where
  memory : m.memory = n.memory
  scene : m.scene = n.scene
  left : m.ledger.running ∧ m.ledger.counters = a.ledger.counters
  right : n.ledger.running ∧ n.ledger.counters = b.ledger.counters
  written : ∃ written, m.ledger.log.records.toList = a.ledger.log.records.toList ++ written ∧
    n.ledger.log.records.toList = b.ledger.log.records.toList ++ written
  seen : ∃ es fs : List Event, m.trace = a.trace ++ es.toArray ∧ n.trace = b.trace ++ fs.toArray ∧
    es.filter Event.isGuests = fs.filter Event.isGuests

namespace Machine.Abreast

theorem mark (abreast : Abreast a b m n) (e : Event) : Abreast a b (m.mark e) (n.mark e) where
  memory := abreast.memory
  scene := abreast.scene
  left := abreast.left
  right := abreast.right
  written := abreast.written
  seen := by
    obtain ⟨es, fs, left, right, same⟩ := abreast.seen
    refine ⟨es ++ [e], fs ++ [e], by simp [Machine.mark, left], by simp [Machine.mark, right], ?_⟩
    rw [List.filter_append, List.filter_append, same]

theorem write (abreast : Abreast a b m n) (r : LogRecord) : Abreast a b (m.write r) (n.write r) where
  memory := abreast.memory
  scene := abreast.scene
  left := abreast.left
  right := abreast.right
  written := by
    obtain ⟨written, left, right⟩ := abreast.written
    exact ⟨written ++ [r], by simp [Machine.write, Log.emit, left], by simp [Machine.write, Log.emit, right]⟩
  seen := abreast.seen

/-- Visits of embedders go unnoticed. -/
theorem quiet (abreast : Abreast a b m n) {m' n' : Machine} (left : Quiet m m') (right : Quiet n n') :
    Abreast a b m' n' := by
  obtain ⟨heard, all, rfl⟩ := left
  obtain ⟨others, every, rfl⟩ := right
  obtain ⟨es, fs, left, right, same⟩ := abreast.seen
  refine ⟨abreast.memory, abreast.scene, abreast.left, abreast.right, abreast.written, es ++ heard, fs ++ others, ?_, ?_, ?_⟩
  · simp [left]
  · simp [right]
  · rw [List.filter_append, List.filter_append, Event.filter_told all, Event.filter_told every, same]

theorem deliver (abreast : Abreast a b m n) (left right : Outside) (r : LogRecord) :
    Abreast a b (left.deliver r m) (right.deliver r n) :=
  (abreast.write r).quiet ((left.receive_visited r _).quiet abreast.left.1) ((right.receive_visited r _).quiet abreast.right.1)

theorem consult (abreast : Abreast a b m n) (hold : Hold) (f : LightFunction) (arguments : List Value) (q : Inquiry) :
    Abreast a b (m.consult hold f arguments q).2 (n.consult hold f arguments q).2 := by
  unfold Machine.consult
  rw [abreast.scene]
  cases n.scene.consult hold q with
  | error fault => exact abreast.mark _
  | ok answer =>
    obtain ⟨reading, scene⟩ := answer
    have changed : Abreast a b { m with scene } { n with scene } :=
      ⟨abreast.memory, rfl, abreast.left, abreast.right, abreast.written, abreast.seen⟩
    exact changed.mark _

end Machine.Abreast

theorem throwFault_eq (f : Fault) (outside : Outside) (m : Machine) : ∃ e o,
    (Run.throwFault f : Run Units).run outside m =
      (.error e, { m with memory := { m.memory with heap := m.memory.heap ++ [o].toArray } }) :=
  ⟨_, _, rfl⟩

/-- A primitive is written without asking the guest. -/
theorem stringOf_primitive (call : Call) (outside : Outside) (m : Machine) (primitive : ∀ r, v ≠ .object r) :
    ∃ t, (Builtin.stringOf call v).run outside m = (.ok t, m) := by
  cases v with
  | object r => exact absurd rfl (primitive r)
  | _ => exact ⟨_, rfl⟩

/-- Reading what is no object leaves no more behind than the error object for a symbol's refusal. -/
theorem Value.Answers.primitive {text : Option String} (answers : v.Answers call outside m text n)
    (primitive : ∀ r, v ≠ .object r) :
    n = m ∨ v.IsSymbol ∧ ∃ o, n = { m with memory := { m.memory with heap := m.memory.heap ++ [o].toArray } } := by
  obtain ⟨t, written⟩ := stringOf_primitive call outside m primitive
  cases answers with
  | printed other prints =>
    obtain ⟨t, ran, -⟩ := prints
    cases written.symm.trans ran
    exact .inl rfl
  | lone other ran lone =>
    cases written.symm.trans ran
    exact .inl rfl
  | thrown other ran => cases written.symm.trans ran
  | symbol symbol refused =>
    obtain ⟨e, o, made⟩ := throwFault_eq .symbolAsText outside m
    cases made.symm.trans refused
    exact .inr ⟨symbol, o, rfl⟩

end Guest

namespace Diagnostic
variable {call : Call} {outside : Outside} {m n : Machine} {d : Diagnostic}

theorem Told.follows {caught : Caught} (told : Told call outside caught m d n) : Follows outside.hold m n := by
  have asked := ofCaught_follows call outside caught m
  rw [ofCaught_eq_of_told told] at asked
  exact asked

theorem Told.engine_eq {message : String} (told : Told call outside (.engine message) m d n) : n = m := by
  cases told
  rfl

theorem Told.primitive {v : Value} (told : Told call outside (.thrown v) m d n) (primitive : ∀ r, v ≠ .object r) :
    n = m ∨ v.IsSymbol ∧ ∃ o, n = { m with memory := { m.memory with heap := m.memory.heap ++ [o].toArray } } := by
  have none : m.memory.isError v = false := by
    cases v with
    | object r => exact absurd rfl (primitive r)
    | _ => rfl
  cases told with
  | printed other answers => exact answers.primitive primitive
  | described other answers => exact answers.primitive primitive
  | error error answers traces => exact absurd error (by simp [none])
  | message error answers shows traces => exact absurd error (by simp [none])
  | unprintable error answers shows traces => exact absurd error (by simp [none])

end Diagnostic

namespace Visit
variable {α : Type} {hold : Hold} {perform : Request → Machine → Reply × Machine}

/-- What a visit comes to that is made while a call runs, given the counters. -/
def told : Visit α → Counters → α
  | done a, _ => a
  | call request next, counters => (next request.refusal).told counters
  | count next, counters => (next counters).told counters

theorem run_told (guarded : Guarded hold perform) (v : Visit α) {m : Machine} (running : m.ledger.running) :
    (v.run perform m).1 = v.told m.ledger.counters := by
  induction v generalizing m with
  | done a => rfl
  | call request next ih =>
    simp only [run, (guarded request m).1 running]
    exact ih request.refusal running
  | count next ih => exact ih m.ledger.counters running

end Visit

namespace Host
variable {g h : Host} {m n : Machine}

/-- What the embedder's functions answer while a call of the host runs, given what was seen and the counters. -/
def answer (h : Host) (trace : Array Event) (counters : Counters) (name : Units) (arguments : List Value) : Int :=
  match h.embedder.depth with
  | 0 => 0
  | _ + 1 => (h.embedder.serve trace name arguments).told counters

theorem serve_answer (h : Host) (hold : Hold) (name : Units) (arguments : List Value) (running : m.ledger.running) :
    ((h.outside hold).serve name arguments m).1 = h.answer m.trace m.ledger.counters name arguments := by
  unfold outside answer
  cases h.embedder.depth with
  | zero => rfl
  | succ depth => exact Visit.run_told (Machine.perform_guarded _ _ _) _ running

/-- Two hosts of one interpreter and one configuration that guests find in the same state. Their embedders may differ, and
so may all that was seen, written and counted, as long as the embedders' functions answer alike when guests do the same. -/
structure Alike (g h : Host) : Prop where
  engine : g.engine = h.engine
  config : g.config = h.config
  memory : g.machine.memory = h.machine.memory
  scene : g.scene = h.scene
  answers : ∀ es fs : List Event, es.filter Event.isGuests = fs.filter Event.isGuests → ∀ cs ds name arguments,
    g.answer (g.machine.trace ++ es.toArray) cs name arguments = h.answer (h.machine.trace ++ fs.toArray) ds name arguments

namespace Alike

/-- Guests of two hosts that are alike do the same. -/
def lockstep (alike : g.Alike h) (hold : Hold) : Lockstep (g.outside hold) (h.outside hold) where
  Paired := Machine.Abreast g.machine.enter h.machine.enter
  hold := by rw [outside_hold, outside_hold]
  depth := by rw [outside_depth, outside_depth]
  sameMemory abreast := abreast.memory
  sameScene abreast := abreast.scene
  revise abreast memory := ⟨rfl, abreast.scene, abreast.left, abreast.right, abreast.written, abreast.seen⟩
  say abreast method texts := (abreast.mark _).deliver _ _ _
  serve := by
    intro m n abreast name arguments
    obtain ⟨es, fs, left, right, same⟩ := abreast.seen
    constructor
    -- Only here does the embedder's past matter to a guest.
    · rw [serve_answer g hold name arguments abreast.left.1, serve_answer h hold name arguments abreast.right.1, left, right]
      exact alike.answers es fs same _ _ name arguments
    · exact abreast.quiet (((g.outside hold).serve_visited name arguments m).quiet abreast.left.1)
        (((h.outside hold).serve_visited name arguments n).quiet abreast.right.1)
  consult := by
    intro m n abreast f arguments q
    rw [outside_hold, outside_hold]
    exact abreast.consult hold f arguments q
  unasked abreast f arguments := abreast.mark _
  called abreast depth _ f receiver arguments := abreast.mark _

theorem enter (alike : g.Alike h) : Machine.Abreast g.machine.enter h.machine.enter g.machine.enter h.machine.enter where
  memory := alike.memory
  scene := alike.scene
  left := ⟨rfl, rfl⟩
  right := ⟨rfl, rfl⟩
  written := ⟨[], by simp, by simp⟩
  seen := ⟨[], [], by simp, by simp, rfl⟩

/-- Hosts stay alike if neither guest does what the other does not. -/
theorem of_abreast (alike : g.Alike h) (abreast : Machine.Abreast g.machine.enter h.machine.enter m n)
    (counters others : Counters) :
    Alike { g with machine := (m.count counters).leave } { h with machine := (n.count others).leave } where
  engine := alike.engine
  config := alike.config
  memory := abreast.memory
  scene := abreast.scene
  answers := by
    obtain ⟨es, fs, left, right, same⟩ := abreast.seen
    intro later further alike' cs ds name arguments
    have answers := alike.answers (es ++ later) (fs ++ further)
      (by rw [List.filter_append, List.filter_append, same, alike']) cs ds name arguments
    have before : (m.count counters).leave.trace ++ later.toArray = g.machine.trace ++ (es ++ later).toArray := by
      rw [Machine.leave_trace, Machine.count_trace, left]
      simp [Machine.enter]
    have after : (n.count others).leave.trace ++ further.toArray = h.machine.trace ++ (fs ++ further).toArray := by
      rw [Machine.leave_trace, Machine.count_trace, right]
      simp [Machine.enter]
    rw [before, after]
    exact answers

end Alike
end Host

def Counters.since (after before : Counters) : Counters :=
  ⟨after.ticks - before.ticks, after.hookCalls - before.hookCalls, after.failures - before.failures⟩

theorem Counters.since_self (counters : Counters) : counters.since counters = .zero := by
  simp [since, zero]

theorem Counters.since_afterTick (before : Counters) (result : Except Diagnostic Bool) :
    (before.afterTick result).since before = zero.afterTick result := by
  have added (a b : UInt64) : a + b - a = b := by rw [UInt64.add_comm, UInt64.add_sub_cancel]
  cases result <;> simp [since, afterTick, zero, added]

/-- What can be seen of a call from outside. -/
structure Outcome where
  reply : Reply
  written : List LogRecord
  counted : Counters
  scene : Store

def Made.outcome (call : Made) : Outcome :=
  ⟨call.reply, call.after.log.records.toList.drop call.host.log.records.size,
    call.after.counters.since call.host.counters, call.after.scene⟩

theorem Made.outcome_eq (call : Made) {reply : Reply} {after : Host} {written : List LogRecord}
    (made : call.host.perform call.hold call.request = (reply, after))
    (log : after.log.records.toList = call.host.log.records.toList ++ written) :
    call.outcome = ⟨reply, written, after.counters.since call.host.counters, after.scene⟩ := by
  unfold outcome Made.reply Made.after
  rw [made]
  dsimp only
  rw [log, ← Array.length_toList, List.drop_left]

namespace Host
variable {g h : Host} {m n : Machine} {α : Type}

namespace Alike

/-- Two calls whose guests do the same come to the same. -/
theorem outcome_eq (alike : g.Alike h) {hold : Hold} {request : Request} {reply : Reply} {counters others : Counters}
    (abreast : Machine.Abreast g.machine.enter h.machine.enter m n)
    (left : g.perform hold request = (reply, { g with machine := (m.count counters).leave }))
    (right : h.perform hold request = (reply, { h with machine := (n.count others).leave }))
    (counted : counters.since g.counters = others.since h.counters) :
    Made.outcome ⟨g, hold, request⟩ = Made.outcome ⟨h, hold, request⟩ ∧
      (g.perform hold request).2.Alike (h.perform hold request).2 := by
  obtain ⟨written, more, same⟩ := abreast.written
  constructor
  · rw [Made.outcome_eq ⟨g, hold, request⟩ left more, Made.outcome_eq ⟨h, hold, request⟩ right same, Outcome.mk.injEq]
    exact ⟨rfl, rfl, counted, abreast.scene⟩
  · rw [left, right]
    exact alike.of_abreast abreast counters others

theorem calls (alike : g.Alike h) : g.calls = h.calls :=
  congrArg₂ Engine.calls alike.engine alike.config

theorem reported (alike : g.Alike h) (hold : Hold) (label : String) {x y : Except Caught α × Machine}
    (agree : (alike.lockstep hold).Agree x y) :
    (alike.lockstep hold).Agree (ScriptedScene.reported g.calls.call (g.outside hold) label x)
      (ScriptedScene.reported h.calls.call (h.outside hold) label y) := by
  rw [alike.calls]
  exact reported_lockstep h.calls.call (alike.lockstep hold) label (fun abreast r => abreast.deliver _ _ r) agree

theorem evaluate (alike : g.Alike h) (left : g.running = false) (right : h.running = false) (hold : Hold)
    (source : Source) :
    Made.outcome ⟨g, hold, .evaluate source⟩ = Made.outcome ⟨h, hold, .evaluate source⟩ ∧
      (g.evaluate hold source).2.Alike (h.evaluate hold source).2 := by
  have ran : (alike.lockstep hold).Agree (source.caught g.calls (g.outside hold) g.machine.enter)
      (source.caught h.calls (h.outside hold) h.machine.enter) := by
    rw [alike.calls]
    exact source.caught_lockstep h.calls (alike.lockstep hold) alike.enter
  have first := evaluate_eq left hold source
  have second := evaluate_eq right hold source
  have told := alike.reported hold evaluationLabel ran
  revert first second told
  rcases ScriptedScene.reported g.calls.call (g.outside hold) evaluationLabel
    (source.caught g.calls (g.outside hold) g.machine.enter) with ⟨result, m⟩
  rcases ScriptedScene.reported h.calls.call (h.outside hold) evaluationLabel
    (source.caught h.calls (h.outside hold) h.machine.enter) with ⟨_, n⟩
  rintro first second ⟨⟨⟩, abreast⟩
  exact alike.outcome_eq abreast first second
    (by rw [abreast.left.2, abreast.right.2]; exact (Counters.since_self _).trans (Counters.since_self _).symm)

theorem tick (alike : g.Alike h) (left : g.running = false) (right : h.running = false) (hold : Hold)
    (delta : Binary32) :
    Made.outcome ⟨g, hold, .tick delta⟩ = Made.outcome ⟨h, hold, .tick delta⟩ ∧
      (g.tick hold delta).2.Alike (h.tick hold delta).2 := by
  have ran : (alike.lockstep hold).Agree
      ((callHook g.calls g.config.hook delta).caught (g.outside hold) g.machine.enter)
      ((callHook h.calls h.config.hook delta).caught (h.outside hold) h.machine.enter) := by
    rw [alike.calls, alike.config]
    exact (callHook h.calls h.config.hook delta).caught_lockstep (alike.lockstep hold) alike.enter
  have first := tick_eq left hold delta
  have second := tick_eq right hold delta
  have told := alike.reported hold tickLabel ran
  revert first second told
  rcases ScriptedScene.reported g.calls.call (g.outside hold) tickLabel
    ((callHook g.calls g.config.hook delta).caught (g.outside hold) g.machine.enter) with ⟨result, m⟩
  rcases ScriptedScene.reported h.calls.call (h.outside hold) tickLabel
    ((callHook h.calls h.config.hook delta).caught (h.outside hold) h.machine.enter) with ⟨_, n⟩
  rintro first second ⟨⟨⟩, abreast⟩
  exact alike.outcome_eq abreast first second ((Counters.since_afterTick _ _).trans (Counters.since_afterTick _ _).symm)

theorem perform (alike : g.Alike h) (left : g.running = false) (right : h.running = false) (hold : Hold)
    (request : Request) :
    Made.outcome ⟨g, hold, request⟩ = Made.outcome ⟨h, hold, request⟩ ∧
      (g.perform hold request).2.Alike (h.perform hold request).2 := by
  cases request with
  | evaluate source => exact alike.evaluate left right hold source
  | evaluateFile path content =>
    cases content with
    | ok source => exact alike.evaluate left right hold source
    | error cause =>
      constructor
      · rw [Made.outcome_eq ⟨g, hold, .evaluateFile path (.error cause)⟩ rfl (List.append_nil _).symm,
          Made.outcome_eq ⟨h, hold, .evaluateFile path (.error cause)⟩ rfl (List.append_nil _).symm, Outcome.mk.injEq]
        exact ⟨rfl, rfl, (Counters.since_self _).trans (Counters.since_self _).symm, alike.scene⟩
      · exact alike
  | tick delta => exact alike.tick left right hold delta

/-- Hosts that are alike cannot be told apart by any calls. -/
theorem course (alike : g.Alike h) (left : g.running = false) (right : h.running = false)
    (requests : List (Hold × Request)) :
    (g.course requests).map Made.outcome = (h.course requests).map Made.outcome ∧
      (g.after requests).Alike (h.after requests) := by
  induction requests generalizing g h with
  | nil => exact ⟨rfl, alike⟩
  | cons first rest ih =>
    obtain ⟨hold, request⟩ := first
    obtain ⟨same, next⟩ := alike.perform left right hold request
    obtain ⟨others, last⟩ := ih next (perform_running g hold request left) (perform_running h hold request right)
    exact ⟨congrArg₂ List.cons same others, last⟩

end Alike
/-- What a call of a host leaves that failed with what was caught: the exception left the guest in the first machine, and
in the second one all is told of it. Nothing is taken back, and nothing else is done than to report. -/
structure Left (h : Host) (hold : Hold) (label : String) (caught : Caught) (m n : Machine) (d : Diagnostic)
    (after : Host) : Prop where
  told : Diagnostic.Told h.calls.call (h.outside hold) caught m d n
  asked : Follows hold m n
  memory : after.machine.memory = n.memory
  scene : after.scene = n.scene
  log : after.log.records.toList = n.ledger.log.records.toList ++ [d.report label]
  trace : ∃ heard : List Event, (∀ e ∈ heard, e.Told h.counters) ∧ after.machine.trace = n.trace ++ heard.toArray
  engine : after.engine = h.engine
  config : after.config = h.config
  embedder : after.embedder = h.embedder
  idle : after.running = false

variable {hold : Hold} {label : String}

/-- A failure that is caught while the call runs is told, and its report is delivered. -/
theorem reported_caught {caught : Caught} (follows : Follows hold h.machine.enter m) :
    ∃ n d, ∃ heard : List Event,
    Diagnostic.Told h.calls.call (h.outside hold) caught m d n ∧ Follows hold m n ∧
    (∀ e ∈ heard, e.Told h.counters) ∧
    ScriptedScene.reported h.calls.call (h.outside hold) label (.error caught, m) =
      ((.error d : Except Diagnostic α),
        { n.write (d.report label) with trace := n.trace ++ heard.toArray }) := by
  obtain ⟨d, n, told⟩ := Diagnostic.exists_told h.calls.call (h.outside hold) caught m
  have asked := told.follows
  rw [outside_hold] at asked
  obtain ⟨events, before⟩ := follows.trans asked
  have running : n.ledger.running := before.running
  have counters : n.ledger.counters = h.counters := before.counters rfl
  -- The report is received while the call runs, so that the embedder's calls are refused.
  obtain ⟨heard, all, received⟩ :=
    ((h.outside hold).receive_visited (d.report label) (n.write (d.report label))).quiet running
  refine ⟨n, d, heard, told, asked, counters ▸ all, ?_⟩
  simp only [ScriptedScene.reported, Diagnostic.ofCaught_eq_of_told told, Outside.deliver, received]
  rfl

theorem left_of_failed {ran : Except Caught α × Machine} (follows : Follows hold h.machine.enter ran.2)
    {fault : Diagnostic → HostFault} {counters : Counters} {made : Reply × Host}
    (answered : made = (.ofResult fault (ScriptedScene.reported h.calls.call (h.outside hold) label ran).1,
      { h with machine := ((ScriptedScene.reported h.calls.call (h.outside hold) label ran).2.count counters).leave }))
    {f : HostFault} (failed : made.1 = .error f) : ∃ caught m n d,
      ran = (.error caught, m) ∧ f = fault d ∧ h.Left hold label caught m n d made.2 := by
  obtain ⟨_ | a, m⟩ := ran
  · obtain ⟨n, d, heard, told, asked, all, reported⟩ := reported_caught follows
    rw [reported] at answered
    subst answered
    cases failed
    exact ⟨_, m, n, d, rfl, rfl, told, asked, rfl, rfl, Array.toList_push, ⟨heard, all, rfl⟩, rfl, rfl, rfl, rfl⟩
  · subst answered
    cases failed

theorem evaluate_left (idle : h.running = false) {source : Source} {fault : HostFault}
    (failed : (h.evaluate hold source).1 = .error fault) : ∃ caught m n d,
      source.caught h.calls (h.outside hold) h.machine.enter = (.error caught, m) ∧ fault = .evaluation d ∧
      h.Left hold evaluationLabel caught m n d (h.evaluate hold source).2 := by
  have follows := source.caught_follows h.calls (h.outside hold) h.machine.enter
  rw [outside_hold] at follows
  exact left_of_failed follows (evaluate_eq idle hold source) failed

theorem tick_left (idle : h.running = false) {delta : Binary32} {fault : HostFault}
    (failed : (h.tick hold delta).1 = .error fault) : ∃ caught m n d,
      (callHook h.calls h.config.hook delta).caught (h.outside hold) h.machine.enter = (.error caught, m) ∧
      fault = .invocation d ∧ h.Left hold tickLabel caught m n d (h.tick hold delta).2 := by
  have follows := (callHook h.calls h.config.hook delta).caught_follows (h.outside hold) h.machine.enter
  rw [outside_hold] at follows
  exact left_of_failed follows (tick_eq idle hold delta) failed

theorem tick_failed_counters (idle : h.running = false) {delta : Binary32} {fault : HostFault}
    (failed : (h.tick hold delta).1 = .error fault) :
    (h.tick hold delta).2.counters = ⟨h.counters.ticks + 1, h.counters.hookCalls, h.counters.failures + 1⟩ := by
  have threw : h.hookEnd hold delta = .threw := by
    by_contra other
    rw [(h.tick_reply idle hold delta).2 other] at failed
    cases failed
  simp [tick_counters idle, threw]

/-- A failure does no harm. What a failed call leaves in the memory and in the scene is what the guest left there when the
exception came out of it, and after it what reading the thrown value did; that is nothing for a primitive, but for an
error object that is made where a symbol is refused. And hosts that are alike stay so: whatever their past, the same calls
answer the same, write the same, count the same and leave the same scene. -/
theorem failures_pass :
    (∀ h : Host, h.Reachable → ∀ hold,
      (∀ source fault, (h.evaluate hold source).1 = .error fault →
        (h.evaluate hold source).2.counters = h.counters ∧
        ∃ caught m n d, source.caught h.calls (h.outside hold) h.machine.enter = (.error caught, m) ∧
          fault = .evaluation d ∧ h.Left hold evaluationLabel caught m n d (h.evaluate hold source).2) ∧
      ∀ delta fault, (h.tick hold delta).1 = .error fault →
        (h.tick hold delta).2.counters = ⟨h.counters.ticks + 1, h.counters.hookCalls, h.counters.failures + 1⟩ ∧
        ∃ caught m n d,
          (callHook h.calls h.config.hook delta).caught (h.outside hold) h.machine.enter = (.error caught, m) ∧
          fault = .invocation d ∧ h.Left hold tickLabel caught m n d (h.tick hold delta).2) ∧
    (∀ call outside caught m d n, Diagnostic.Told call outside caught m d n → (∀ r, caught ≠ .thrown (.object r)) →
      n = m ∨ ∃ v o, caught = .thrown v ∧ v.IsSymbol ∧
        n = { m with memory := { m.memory with heap := m.memory.heap ++ [o].toArray } }) ∧
    ∀ g h : Host, g.running = false → h.running = false → g.Alike h → ∀ requests,
      (g.course requests).map Made.outcome = (h.course requests).map Made.outcome ∧
      (g.after requests).Alike (h.after requests) := by
  refine ⟨fun h reachable hold => ⟨fun source fault failed => ?_, fun delta fault failed => ?_⟩, ?_, ?_⟩
  · exact ⟨h.evaluate_counters reachable.idle hold source, evaluate_left reachable.idle failed⟩
  · exact ⟨tick_failed_counters reachable.idle failed, tick_left reachable.idle failed⟩
  · intro call outside caught m d n told primitive
    cases caught with
    | engine message => exact .inl told.engine_eq
    | thrown v =>
      rcases told.primitive fun r same => primitive r (congrArg Caught.thrown same) with same | ⟨symbol, o, made⟩
      · exact .inl same
      · exact .inr ⟨v, o, rfl, symbol, made⟩
  · intro g h left right alike requests
    exact alike.course left right requests

theorem build_embedder {engine : Engine} {e : Embedder} {c : Config} {modules : List Module} {scene : Store}
    (built : build engine e c modules scene = .ok h) : h.embedder = e := by
  unfold build at built
  split at built
  · cases built
  · split at built <;> cases built
    rfl

/-- Throws a text and does nothing else. -/
def throwingText : Source := .program [.throwing (.text "x")]

theorem throwing_caught (h : Host) (hold : Hold) :
    throwingText.caught h.calls (h.outside hold) h.machine.enter = (.error (.thrown (.text "x")), h.machine.enter) := rfl

theorem throwing_failed (idle : h.running = false) (hold : Hold) :
    ∃ fault, (h.evaluate hold throwingText).1 = .error fault := by
  rw [evaluate_eq idle, reported_result, throwing_caught]
  exact ⟨_, rfl⟩

/-- The host after a text was thrown, with other counters. -/
def thrownAt (h : Host) (hold : Hold) (counters : Counters) : Host :=
  { (h.evaluate hold throwingText).2 with machine := (h.evaluate hold throwingText).2.machine.count counters }

theorem Left.thrownAt_alike {caught : Caught} {d : Diagnostic} {counters : Counters}
    (left : h.Left hold label caught m n d (h.evaluate hold throwingText).2)
    (ran : throwingText.caught h.calls (h.outside hold) h.machine.enter = (.error caught, m))
    (steady : ∀ k : Host, k.embedder = h.embedder → ∀ trace cs name arguments, k.answer trace cs name arguments = 0) :
    h.Alike (h.thrownAt hold counters) := by
  cases (throwing_caught h hold).symm.trans ran
  have untouched : n = h.machine.enter := (left.told.primitive (fun r => by simp)).resolve_right fun symbol => symbol.1
  subst untouched
  refine ⟨left.engine.symm, left.config.symm, left.memory.symm, left.scene.symm, fun es fs same cs ds name arguments => ?_⟩
  rw [steady h rfl, steady (h.thrownAt hold counters) left.embedder]

/-- A host that failed and one that did not come to the same, also when guests fail after that. -/
theorem failures_pass_throwing : ∃ h : Host, h.Reachable ∧ (∃ caught m n d,
      h.Left .free evaluationLabel caught m n d (h.evaluate .free throwingText).2) ∧
    (h.course [(.free, .evaluate hostile), (.free, .tick .one)]).map Made.outcome =
      ((h.thrownAt .free ⟨7, 1, 2⟩).course [(.free, .evaluate hostile), (.free, .tick .one)]).map Made.outcome := by
  obtain ⟨h, built⟩ := build_asking
  have reachable := Reachable.built built
  have steady : ∀ k : Host, k.embedder = h.embedder → ∀ trace cs name arguments, k.answer trace cs name arguments = 0 := by
    intro k same trace cs name arguments
    unfold answer
    rw [same, build_embedder built]
    rfl
  obtain ⟨contained, -, alike⟩ := failures_pass
  obtain ⟨fault, failed⟩ := throwing_failed reachable.idle .free
  obtain ⟨-, caught, m, n, d, ran, -, left⟩ := (contained h reachable .free).1 throwingText fault failed
  refine ⟨h, reachable, ⟨caught, m, n, d, left⟩, ?_⟩
  exact (alike h (h.thrownAt .free ⟨7, 1, 2⟩) reachable.idle left.idle (left.thrownAt_alike ran steady) _).1

end Host
end ScriptedScene
