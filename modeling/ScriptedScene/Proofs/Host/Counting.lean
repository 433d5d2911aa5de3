import ScriptedScene.Proofs.Host.Reports

/-! What the counters of a host count. A tick reads them before its hook is looked up and writes them back when all is
over; in between nothing counts, because whatever the embedder asks for then is refused. -/
namespace ScriptedScene
open Guest

/-- What became of the hook in a tick. -/
inductive HookEnd where
  /-- The global object has no hook that can be called. -/
  | absent
  | returned
  /-- The hook threw, or the search for it did. -/
  | threw
  deriving DecidableEq

/-- A call to a host, with the host as the call found it. -/
structure Made where
  host : Host
  hold : Hold
  request : Request

namespace Host

/-- What becomes of the hook in the next tick. -/
def hookEnd (h : Host) (hold : Hold) (delta : Binary32) : HookEnd :=
  match (findHook h.calls.call h.config.hook).run (h.outside hold) h.machine.enter with
  | (.error _, _) => .threw
  | (.ok none, _) => .absent
  | (.ok (some f), m) =>
    match (h.calls.call f .undefined [.ofBinary delta.widen]).run (h.outside hold) m with
    | (.error _, _) => .threw
    | (.ok _, _) => .returned

/-- The calls made in turn. -/
def course (h : Host) : List (Hold × Request) → List Made
  | [] => []
  | (hold, request) :: rest => ⟨h, hold, request⟩ :: (h.perform hold request).2.course rest

/-- The host after some calls in turn. -/
def after (h : Host) (requests : List (Hold × Request)) : Host :=
  requests.foldl (fun h (hold, request) => (h.perform hold request).2) h

end Host

namespace Made

def reply (call : Made) : Reply := (call.host.perform call.hold call.request).1

/-- The host after the call. -/
def after (call : Made) : Host := (call.host.perform call.hold call.request).2

/-- What was seen while the call ran. -/
def events (call : Made) : List Event := call.after.machine.trace.toList.drop call.host.machine.trace.size

theorem events_eq {call : Made} {events : List Event}
    (trace : call.after.machine.trace.toList = call.host.machine.trace.toList ++ events) : call.events = events := by
  rw [Made.events, trace, ← Array.length_toList, List.drop_left]

/-- What became of the hook, if the call was a tick. -/
def hookEnd? (call : Made) : Option HookEnd :=
  match call.request with
  | .tick delta => some (call.host.hookEnd call.hold delta)
  | .evaluate _ | .evaluateFile _ _ => none

def isTick (call : Made) : Bool :=
  match call.request with
  | .tick _ => true
  | .evaluate _ | .evaluateFile _ _ => false

/-- Whether the call answered that its hook failed. -/
def failed (call : Made) : Bool :=
  match call.reply with
  | .error (.invocation _) => true
  | _ => false

end Made

namespace Host
variable {h : Host}

/-- The hook is called when it is found; what it throws is thrown, and so is what looking it up throws. -/
theorem hookEnd_eq (h : Host) (hold : Hold) (delta : Binary32) :
    h.hookEnd hold delta =
      match ((callHook h.calls h.config.hook delta).caught (h.outside hold) h.machine.enter).1 with
      | .ok true => .returned
      | .ok false => .absent
      | .error _ => .threw := by
  simp only [callHook, hookEnd, Run.caught, bind, Run.bind]
  rcases (findHook h.calls.call h.config.hook).run (h.outside hold) h.machine.enter with ⟨_ | _ | f, m⟩
  · rfl
  · rfl
  · dsimp only
    rcases (h.calls.call f .undefined [.ofBinary delta.widen]).run (h.outside hold) m with ⟨_ | _, _⟩
    · rfl
    · rfl

/-- A tick counts once, as what became of its hook. -/
theorem tick_counters (idle : h.running = false) (hold : Hold) (delta : Binary32) :
    (h.tick hold delta).2.counters =
      ⟨h.counters.ticks + 1,
        h.counters.hookCalls + (if h.hookEnd hold delta = .returned then 1 else 0),
        h.counters.failures + (if h.hookEnd hold delta = .threw then 1 else 0)⟩ := by
  rw [tick_eq idle, reported_result, hookEnd_eq]
  simp only [counters, Machine.leave_counters, Machine.count_counters]
  rcases (callHook h.calls h.config.hook delta).caught (h.outside hold) h.machine.enter with ⟨_ | _ | _, m⟩ <;>
    simp [Counters.afterTick, Bool.toUInt64]

/-- A tick fails if its hook threw. -/
theorem tick_reply (idle : h.running = false) (hold : Hold) (delta : Binary32) :
    (h.hookEnd hold delta = .threw → ∃ d, (h.tick hold delta).1 = .error (.invocation d)) ∧
    (h.hookEnd hold delta ≠ .threw → (h.tick hold delta).1 = .ok ()) := by
  rw [tick_eq idle, reported_result, hookEnd_eq]
  rcases (callHook h.calls h.config.hook delta).caught (h.outside hold) h.machine.enter with ⟨_ | _ | _, m⟩ <;>
    simp [Reply.ofResult]

theorem evaluate_reply (idle : h.running = false) (hold : Hold) (source : Source) :
    (h.evaluate hold source).1 = .ok () ∨ ∃ d, (h.evaluate hold source).1 = .error (.evaluation d) := by
  rw [evaluate_eq idle, reported_result]
  rcases source.caught h.calls (h.outside hold) h.machine.enter with ⟨_ | _, m⟩ <;> simp [Reply.ofResult]

theorem evaluate_counters (idle : h.running = false) (hold : Hold) (source : Source) :
    (h.evaluate hold source).2.counters = h.counters := by
  have follows := source.caught_follows h.calls (h.outside hold) h.machine.enter
  obtain ⟨events, written, leads⟩ := reported_leads h.calls.call (h.outside hold) evaluationLabel follows
  rw [evaluate_eq idle]
  exact leads.counters rfl

/-- What the embedder sees while a host evaluates: refusals, and the counters as they were. -/
theorem evaluate_within (idle : h.running = false) (hold : Hold) (source : Source) :
    ∃ events, (h.evaluate hold source).2.machine.trace.toList = h.machine.trace.toList ++ events ∧
      ∀ e ∈ events, e.Within h.counters := by
  have follows := source.caught_follows h.calls (h.outside hold) h.machine.enter
  obtain ⟨events, written, leads⟩ := reported_leads h.calls.call (h.outside hold) evaluationLabel follows
  rw [evaluate_eq idle]
  exact ⟨events, leads.trace, leads.within rfl⟩

/-- What the embedder sees while the hook runs: refusals, and the counters from before the tick. -/
theorem tick_within (idle : h.running = false) (hold : Hold) (delta : Binary32) :
    ∃ events, (h.tick hold delta).2.machine.trace.toList = h.machine.trace.toList ++ events ∧
      ∀ e ∈ events, e.Within h.counters := by
  have follows := (callHook h.calls h.config.hook delta).caught_follows (h.outside hold) h.machine.enter
  obtain ⟨events, written, leads⟩ := reported_leads h.calls.call (h.outside hold) tickLabel follows
  rw [tick_eq idle]
  exact ⟨events, leads.trace, leads.within rfl⟩

end Host

namespace Made

theorem isTick_eq (call : Made) : call.isTick = call.hookEnd?.isSome := by
  obtain ⟨h, hold, request⟩ := call
  cases request <;> rfl

/-- Only ticks count, each of them once. -/
theorem after_counters (call : Made) (idle : call.host.running = false) :
    call.after.counters =
      ⟨call.host.counters.ticks + (if call.isTick then 1 else 0),
        call.host.counters.hookCalls + (if call.hookEnd? = some .returned then 1 else 0),
        call.host.counters.failures + (if call.hookEnd? = some .threw then 1 else 0)⟩ := by
  obtain ⟨h, hold, request⟩ := call
  cases request with
  | evaluate source => simpa [after, isTick, hookEnd?] using h.evaluate_counters idle hold source
  | evaluateFile path content =>
    cases content with
    | error cause => simp [after, isTick, hookEnd?]
    | ok source => simpa [after, isTick, hookEnd?] using h.evaluate_counters idle hold source
  | tick delta => simpa [after, isTick, hookEnd?] using h.tick_counters idle hold delta

/-- The calls that answer that a hook failed are the ticks whose hook threw. -/
theorem failed_iff (call : Made) (idle : call.host.running = false) : call.failed ↔ call.hookEnd? = some .threw := by
  obtain ⟨h, hold, request⟩ := call
  cases request with
  | evaluate source =>
    rcases h.evaluate_reply idle hold source with answer | ⟨d, answer⟩ <;> simp [failed, reply, hookEnd?, answer]
  | evaluateFile path content =>
    cases content with
    | error cause => simp [failed, reply, hookEnd?]
    | ok source =>
      rcases h.evaluate_reply idle hold source with answer | ⟨d, answer⟩ <;> simp [failed, reply, hookEnd?, answer]
  | tick delta =>
    obtain ⟨threw, other⟩ := h.tick_reply idle hold delta
    by_cases hook : h.hookEnd hold delta = .threw
    · obtain ⟨d, answer⟩ := threw hook
      simp [failed, reply, hookEnd?, hook, answer]
    · simp [failed, reply, hookEnd?, hook, other hook]

/-- What the embedder sees while a call runs. -/
theorem after_within (call : Made) (idle : call.host.running = false) :
    ∃ events, call.after.machine.trace.toList = call.host.machine.trace.toList ++ events ∧
      ∀ e ∈ events, e.Within call.host.counters := by
  obtain ⟨h, hold, request⟩ := call
  cases request with
  | evaluate source => exact h.evaluate_within idle hold source
  | evaluateFile path content =>
    cases content with
    | error cause => exact ⟨[], by simp [after], by simp⟩
    | ok source => exact h.evaluate_within idle hold source
  | tick delta => exact h.tick_within idle hold delta

end Made

namespace Host
variable {h : Host}

theorem course_idle (idle : h.running = false) (requests : List (Hold × Request)) :
    ∀ call ∈ h.course requests, call.host.running = false := by
  induction requests generalizing h with
  | nil => simp [course]
  | cons first rest ih =>
    obtain ⟨hold, request⟩ := first
    intro call member
    rcases List.mem_cons.mp member with rfl | later
    · exact idle
    · exact ih (perform_running h hold request idle) call later

/-- How often something is so, counted by a word. -/
theorem ofNat_countP_cons (p : Made → Bool) (call : Made) (rest : List Made) :
    UInt64.ofNat ((call :: rest).countP p) = (if p call then 1 else 0) + UInt64.ofNat (rest.countP p) := by
  rw [List.countP_cons, Nat.add_comm, UInt64.ofNat_add]
  cases p call <;> rfl

theorem course_counters (idle : h.running = false) (requests : List (Hold × Request)) :
    (h.after requests).counters =
      ⟨h.counters.ticks + .ofNat ((h.course requests).countP Made.isTick),
        h.counters.hookCalls + .ofNat ((h.course requests).countP (·.hookEnd? = some .returned)),
        h.counters.failures + .ofNat ((h.course requests).countP (·.hookEnd? = some .threw))⟩ := by
  induction requests generalizing h with
  | nil => simp [after, course]
  | cons first rest ih =>
    obtain ⟨hold, request⟩ := first
    -- The host after the first call is idle again, and the rest counts on from what it has counted.
    have step : (h.perform hold request).2.counters = _ := Made.after_counters ⟨h, hold, request⟩ idle
    have following := ih (perform_running h hold request idle)
    simp only [after, List.foldl_cons] at following ⊢
    rw [following, step]
    simp only [course, ofNat_countP_cons, decide_eq_true_eq, UInt64.add_assoc]

/-- Every tick ends in one of three ways for its hook. -/
theorem countP_isTick (made : List Made) :
    made.countP Made.isTick =
      made.countP (·.hookEnd? = some .returned) + made.countP (·.hookEnd? = some .threw) +
        made.countP (·.hookEnd? = some .absent) := by
  induction made with
  | nil => rfl
  | cons call rest ih =>
    obtain ⟨h, hold, request⟩ := call
    cases request with
    | evaluate source => simpa [Made.isTick, Made.hookEnd?] using ih
    | evaluateFile path content => simpa [Made.isTick, Made.hookEnd?] using ih
    | tick delta =>
      cases ended : h.hookEnd hold delta <;> simp [List.countP_cons, Made.isTick, Made.hookEnd?, ended, ih] <;> omega

/-- The counters after some calls in turn are as many as the ticks of each kind. -/
structure Counts (h : Host) (requests : List (Hold × Request)) : Prop where
  ticks : (h.after requests).counters.ticks.toNat = (h.course requests).countP Made.isTick
  failures : (h.after requests).counters.failures.toNat =
    (h.course requests).countP fun call => call.isTick && call.failed
  hookCalls : (h.after requests).counters.hookCalls.toNat = (h.course requests).countP (·.hookEnd? = some .returned)
  sum : (h.after requests).counters.ticks.toNat =
    (h.after requests).counters.hookCalls.toNat + (h.after requests).counters.failures.toNat +
      (h.course requests).countP (·.hookEnd? = some .absent)

/-- What becomes of the counters in some calls in turn. They count on from zero when they are full, and until then they
are exact. -/
structure Tallies (h : Host) (requests : List (Hold × Request)) : Prop where
  ticks : (h.after requests).counters.ticks = .ofNat ((h.course requests).countP Made.isTick)
  failures : (h.after requests).counters.failures =
    .ofNat ((h.course requests).countP fun call => call.isTick && call.failed)
  hookCalls : (h.after requests).counters.hookCalls = .ofNat ((h.course requests).countP (·.hookEnd? = some .returned))
  sum : (h.after requests).counters.ticks =
    (h.after requests).counters.hookCalls + (h.after requests).counters.failures +
      .ofNat ((h.course requests).countP (·.hookEnd? = some .absent))
  exact (room : (h.course requests).countP Made.isTick < UInt64.size) : h.Counts requests
  /-- Only ticks count. -/
  others : ∀ call ∈ h.course requests, call.isTick ∨ call.after.counters = call.host.counters
  /-- Whoever asks for the counters while a call runs is told those from before the call. -/
  within : ∀ call ∈ h.course requests, ∃ events,
    call.after.machine.trace.toList = call.host.machine.trace.toList ++ events ∧
    ∀ event ∈ events, event.Within call.host.counters
  /-- A call that is made while another runs leaves all as it is. -/
  refused : ∀ (engine : Engine) (c : Config) (outside : Outside) (request : Request) (m : Machine),
    m.enter.perform engine c outside request = (request.refusal, m.enter)

theorem countP_failed {made : List Made} (idle : ∀ call ∈ made, call.host.running = false) :
    made.countP (fun call => call.isTick && call.failed) = made.countP (·.hookEnd? = some .threw) := by
  refine List.countP_congr fun call member => ?_
  rw [Bool.and_eq_true, Made.failed_iff call (idle call member), decide_eq_true_eq, and_iff_right_iff_imp,
    Made.isTick_eq]
  intro threw
  rw [threw]
  rfl

/-- Where there is room for the ticks there is room for those of each kind, since none is more frequent. -/
theorem counts_of_room {requests : List (Hold × Request)} (zero : h.counters = .zero) (idle : h.running = false)
    (room : (h.course requests).countP Made.isTick < UInt64.size) : h.Counts requests := by
  have parts := countP_isTick (h.course requests)
  have counts := course_counters idle requests
  simp only [zero, Counters.zero, UInt64.zero_add] at counts
  have exact {n : Nat} (fewer : n ≤ (h.course requests).countP Made.isTick) : (UInt64.ofNat n).toNat = n :=
    UInt64.toNat_ofNat_of_lt (Nat.lt_of_le_of_lt fewer room)
  have ticks := exact (Nat.le_refl _)
  have hookCalls := exact (n := (h.course requests).countP (·.hookEnd? = some .returned)) (by omega)
  have failures := exact (n := (h.course requests).countP (·.hookEnd? = some .threw)) (by omega)
  constructor
  case ticks => rw [counts, ticks]
  case failures => rw [counts, failures, countP_failed (course_idle idle requests)]
  case hookCalls => rw [counts, hookCalls]
  case sum =>
    rw [counts, ticks, hookCalls, failures]
    exact parts

theorem tallies_of_zero (idle : h.running = false) (zero : h.counters = .zero) (requests : List (Hold × Request)) :
    h.Tallies requests := by
  have calls := course_idle idle requests
  have counts := course_counters idle requests
  simp only [zero, Counters.zero, UInt64.zero_add] at counts
  constructor
  case ticks => rw [counts]
  case failures => rw [counts, countP_failed calls]
  case hookCalls => rw [counts]
  case sum => rw [counts, countP_isTick, UInt64.ofNat_add, UInt64.ofNat_add]
  case exact => exact counts_of_room zero idle
  case others =>
    intro call member
    rw [Made.after_counters call (calls call member), Made.isTick_eq]
    cases call.hookEnd? <;> simp
  case within => exact fun call member => Made.after_within call (calls call member)
  case refused => exact fun engine c outside request m => Machine.perform_running engine c outside request rfl

/-- The counters of a host after any calls in turn, whatever its guests do and whatever its embedder asks for while they
run. What is asked for then is refused and changes nothing. -/
theorem after_counts {engine : Engine} {e : Embedder} {c : Config} {modules : List Module} {scene : Store}
    (built : build engine e c modules scene = .ok h) (requests : List (Hold × Request)) : h.Tallies requests :=
  have ⟨idle, zero⟩ := build_new built
  tallies_of_zero idle zero requests

theorem after_counts_asking : ∃ h, build .ample (.asking [.tick .one]) .default Module.standard .empty = .ok h ∧
    (h.after [(.free, .tick .one), (.free, .evaluate hostile)]).counters.ticks.toNat =
      (h.course [(.free, .tick .one), (.free, .evaluate hostile)]).countP Made.isTick := by
  obtain ⟨h, built⟩ := build_asking
  have two : (h.course [(.free, .tick .one), (.free, .evaluate hostile)]).length = 2 := rfl
  have room : (h.course [(.free, .tick .one), (.free, .evaluate hostile)]).countP Made.isTick < UInt64.size :=
    Nat.lt_of_le_of_lt List.countP_le_length (two ▸ by decide)
  exact ⟨h, built, ((after_counts built _).exact room).ticks⟩

end Host
end ScriptedScene
