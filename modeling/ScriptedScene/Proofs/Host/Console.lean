import ScriptedScene.Proofs.Guest.Console
import ScriptedScene.Proofs.Host.Counting

/-! What calls of a host write to its log. The records of a call are those of the console calls that its guest completes,
in the order in which they are completed, and then the report of a failure, if there is one. -/
namespace ScriptedScene
open Guest

namespace Made

/-- What guests said while the call ran. -/
def said (call : Made) : List LogRecord := call.events.filterMap Event.record?

/-- What the call told of a failure of its guest, if it failed. -/
def failure? (call : Made) : Option Diagnostic :=
  match call.reply with
  | .ok _ => none
  | .error fault => fault.diagnostic?

/-- A tick tells of a failure if its hook threw. -/
theorem failure?_isSome_iff {call : Made} (idle : call.host.running = false) (tick : call.isTick) :
    call.failure?.isSome ↔ call.hookEnd? = some .threw := by
  obtain ⟨h, hold, request⟩ := call
  cases request with
  | evaluate source => cases tick
  | evaluateFile path content => cases tick
  | tick delta =>
    obtain ⟨threw, other⟩ := h.tick_reply idle hold delta
    by_cases hook : h.hookEnd hold delta = .threw
    · obtain ⟨d, answer⟩ := threw hook
      simp [failure?, reply, hookEnd?, hook, answer, HostFault.diagnostic?]
    · simp [failure?, reply, hookEnd?, hook, other hook]

/-- What a call wrote: what guests said, and the report of a failure. -/
theorem reports_written {call : Made} {α : Type} {ran : Except Caught α × Machine} {label : String}
    {fault : Diagnostic → HostFault} (diagnostic : ∀ d, (fault d).diagnostic? = some d)
    (reports : call.host.Reports call.hold label fault ran (call.reply, call.after)) :
    call.after.log.records.toList =
      call.host.log.records.toList ++ (call.said ++ (call.failure?.map (·.report label)).toList) := by
  obtain ⟨events, trace, rest⟩ := reports
  have all : call.events = events := events_eq trace
  obtain ⟨_ | a, m⟩ := ran
  · obtain ⟨answered, -, written⟩ := rest
    have told : call.reply = .error (fault _) := answered
    rw [said, all, failure?, told]
    dsimp only
    rw [diagnostic, ← List.append_assoc]
    exact written
  · obtain ⟨answered, written⟩ := rest
    have passed : call.reply = .ok () := answered
    rw [said, all, failure?, passed, Option.map_none, Option.toList_none, List.append_nil]
    exact written

/-- A call that answers with no fault has written what its guest said, and nothing else. -/
theorem said_written {call : Made} (idle : call.host.running = false) (answered : call.reply = .ok ()) :
    call.after.log.records.toList = call.host.log.records.toList ++ call.said := by
  have passed {α : Type} {ran : Except Caught α × Machine} {label : String} {fault : Diagnostic → HostFault}
      (diagnostic : ∀ d, (fault d).diagnostic? = some d)
      (reports : call.host.Reports call.hold label fault ran (call.reply, call.after)) :
      call.after.log.records.toList = call.host.log.records.toList ++ call.said := by
    have written := reports_written diagnostic reports
    rwa [failure?, answered, Option.map_none, Option.toList_none, List.append_nil] at written
  obtain ⟨h, hold, request⟩ := call
  cases request with
  | evaluate source => exact passed (fun _ => rfl) (Host.evaluate_reports idle hold source)
  | evaluateFile path content =>
    cases content with
    | error cause => cases answered
    | ok source => exact passed (fun _ => rfl) (Host.evaluate_reports idle hold source)
  | tick delta => exact passed (fun _ => rfl) (Host.tick_reports idle hold delta)

/-- The console calls that the guest completed while a call ran, and what it said in them. -/
def consoleCalls (call : Made) : List (ConsoleMethod × List String) := call.events.filterMap Event.spoken?

theorem said_eq (call : Made) : call.said = call.consoleCalls.map ConsoleMethod.spoken :=
  ConsoleMethod.records_eq call.events

end Made

namespace Host
variable {h : Host}

/-- The log after calls of which none fails is the one before with the records of all completed console calls. -/
theorem course_said (idle : h.running = false) (requests : List (Hold × Request))
    (answered : ∀ call ∈ h.course requests, call.reply = .ok ()) :
    (h.after requests).log.records.toList =
      h.log.records.toList ++ ((h.course requests).flatMap Made.consoleCalls).map ConsoleMethod.spoken := by
  induction requests generalizing h with
  | nil => simp [after, course]
  | cons first rest ih =>
    obtain ⟨hold, request⟩ := first
    have written := @Made.said_written ⟨h, hold, request⟩ idle (answered _ List.mem_cons_self)
    have later := ih (perform_running h hold request idle) fun call member => answered call (List.mem_cons_of_mem _ member)
    rw [course, List.flatMap_cons, List.map_append, ← Made.said_eq, ← List.append_assoc]
    exact later.trans (congrArg (· ++ _) written)

open ConsoleMethod in
/-- A console call makes one record, or it fails and makes none. Its arguments are asked for their texts from the left,
each at most once, and the record comes after all that guests write meanwhile, calls of the same methods among it. What a
failure throws can be caught. So whatever programs do, as long as nothing else is reported, the log is what their
completed console calls have said, in the order of their completion. -/
theorem console_calls_logged (reachable : h.Reachable) (requests : List (Hold × Request)) :
    (∀ call ∈ h.course requests, call.reply = .ok () →
      call.after.log.records.toList = call.host.log.records.toList ++ call.consoleCalls.map spoken) ∧
    ((∀ call ∈ h.course requests, call.reply = .ok ()) →
      (h.after requests).log.records.toList =
        h.log.records.toList ++ ((h.course requests).flatMap Made.consoleCalls).map spoken) ∧
    (∀ method texts, spoken (method, texts) =
      ⟨match method with
        | .log | .info => .info
        | .debug => .debug
        | .warn => .warn
        | .error => .error, "script", line texts⟩) ∧
    (∀ (method : ConsoleMethod) (f this : Value) (arguments : List Value) (depth : Nat) (outside : Outside) (m : Machine),
      m.memory.callable? f = some (.host (.console method)) →
      let ran := ((Calls.ofDepth (depth + 1)).call f this arguments).run outside m
      let started := m.mark (.called outside.depth f this arguments)
      (∃ texts n, Says (Calls.ofDepth depth).call outside.deeper method arguments started texts n ran) ∨
      ∃ before v rest e n, Breaks (Calls.ofDepth depth).call outside.deeper arguments started before v rest e n ran) ∧
    ∀ (calls : Calls) (ctx inner : Context) (object : Expr) (key : Units) (es : List Expr) (rest handler : List Stmt)
      (name : String) (base f e : Value) (vs : List Value) (outside : Outside) (m m₁ m₂ m₃ m₄ n : Machine),
      (Run.enterBlock ctx (.expression (.call (.member object key) es) :: rest)).run outside m = (.ok inner, m₁) →
      (Evaluate.expression calls inner object).run outside m₁ = (.ok base, m₂) →
      (Run.get calls.call base key).run outside m₂ = (.ok f, m₃) →
      (Evaluate.arguments calls inner es).run outside m₃ = (.ok vs, m₄) →
      (calls.call f base vs).run outside m₄ = (.error e, n) →
      ∃ memory, (Evaluate.statement calls ctx
          (.guarded (.expression (.call (.member object key) es) :: rest) name handler)).run outside m =
        (Evaluate.handled calls ctx name handler e).run outside { n with memory } := by
  have idle := course_idle reachable.idle requests
  refine ⟨fun call member answered => ?_, course_said reachable.idle requests, ?_, ?_, ?_⟩
  · rw [← Made.said_eq]
    exact Made.said_written (idle call member) answered
  · intro method texts
    cases method <;> rfl
  · intro method f this arguments depth outside m callable
    dsimp only
    rw [Run.call_of_host callable]
    exact run_settles (Calls.ofDepth depth).call outside.deeper method arguments _
  · intro calls ctx inner object key es rest handler name base f e vs outside m m₁ m₂ m₃ m₄ n entered based found given thrown
    exact Evaluate.guarded_of_call entered based found given thrown

/-- Says something while it is asked for its text, and then has one or throws. -/
def talkative (said : String) (last : Stmt) : Expr :=
  .object [("toString", .function .method []
    [.expression (.call (.member (.name "console") "debug") [.text said]), last])]

/-- Two calls of the console: one of them fails and is caught, and the other completes. -/
def talking : Source :=
  let console (method : Units) (arguments : List Expr) : Stmt :=
    .expression (.call (.member (.name "console") method) arguments)
  .program [
    .guarded
      [console "log" [.text "never", talkative "asked" (.throwing (.text "no text")), talkative "unasked" (.returning .null)]]
      "e" [console "error" [.name "e"]],
    console "info" [.text "lamp", talkative "asked again" (.returning (.text "lit"))]]

theorem console_calls_logged_talking : ∃ h : Host, h.Reachable ∧
    (h.after [(.free, .evaluate talking)]).log.records.toList =
      [⟨.debug, "script", "asked"⟩, ⟨.error, "script", "no text"⟩, ⟨.debug, "script", "asked again"⟩,
        ⟨.info, "script", "lamp lit"⟩] := by
  have told : (build .ample (.asking [.tick .one]) .default Module.standard .empty).toOption.any (fun h =>
      h.log.records.toList = [] ∧ (h.course [(.free, .evaluate talking)]).all (fun call => call.reply = .ok ()) ∧
      (h.course [(.free, .evaluate talking)]).flatMap Made.consoleCalls =
        [(.debug, ["asked"]), (.error, ["no text"]), (.debug, ["asked again"]), (.info, ["lamp", "lit"])]) = true := by
    decide +kernel
  obtain ⟨h, built, told⟩ := exists_built told
  obtain ⟨log, answered, said⟩ := of_decide_eq_true told
  have logged := (console_calls_logged (.built built) [(.free, .evaluate talking)]).2.1 (by simpa using answered)
  rw [log, said] at logged
  exact ⟨h, .built built, logged⟩

end Host
end ScriptedScene
