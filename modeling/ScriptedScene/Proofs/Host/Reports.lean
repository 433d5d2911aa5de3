import ScriptedScene.Proofs.Host.Reachable

/-! What a call writes to the log. While it runs, the console calls that the guest completes are written, those among
them that a thrown value makes while it is asked for its text. If guest code fails, one record more is written, after
all of them: the report of the diagnostic that the call answers with. What is asked for may throw again; of that nothing
is told. -/
namespace ScriptedScene
open Guest
variable {outside : Outside} {label : String} {call : Call} {α : Type}

namespace Diagnostic

/-- A stack that is worth showing, if there is one. -/
def Shown (d : Diagnostic) : Prop := ∀ stack, d.stack = some stack → Text.isAllBlank stack = false

theorem new_shown (message : String) (stack : Option String) : (new message stack).Shown := by
  intro shown present
  simp only [new, Option.filter_eq_some_iff, Bool.not_eq_true'] at present
  exact present.2

theorem ofThrown_shown (v : Value) (m : Machine) : (ofThrown call v outside m).1.Shown := by
  unfold ofThrown
  dsimp only
  split
  · exact new_shown _ _
  · exact new_shown _ _

theorem ofCaught_shown (caught : Caught) (m : Machine) : (ofCaught call outside caught m).1.Shown := by
  cases caught with
  | thrown v => exact ofThrown_shown v m
  | engine message => exact new_shown message none

end Diagnostic

/-- What is written while guest code runs whose failure is reported. -/
theorem reported_written (call : Call) (label : String) {x : Except Caught α × Machine} {m : Machine}
    (running : m.ledger.running) (follows : Follows outside.hold m x.2) :
    ∃ events, Leads outside.hold m events
      (match x.1 with
        | .ok _ => events.filterMap Event.record?
        | .error caught =>
          events.filterMap Event.record? ++ [(Diagnostic.ofCaught call outside caught x.2).1.report label])
      (reported call outside label x).2 := by
  obtain ⟨result, after⟩ := x
  obtain ⟨ran, run⟩ := follows
  cases result with
  | ok a => exact ⟨ran, run⟩
  | error caught =>
    obtain ⟨asked, ask⟩ := Diagnostic.ofCaught_follows call outside caught after
    have still : (Diagnostic.ofCaught call outside caught after).2.ledger.running := by
      rw [ask.running, run.running]
      exact running
    obtain ⟨heard, silent, deliver⟩ :=
      outside.deliver_running ((Diagnostic.ofCaught call outside caught after).1.report label) still
    refine ⟨ran ++ asked ++ heard, ?_⟩
    have whole := (run.append ask).append deliver
    simpa only [reported, List.filterMap_append, silent, List.append_nil] using whole

theorem reported_result (call : Call) (outside : Outside) (label : String) (x : Except Caught α × Machine) :
    (reported call outside label x).1 = match x.1 with
      | .ok a => .ok a
      | .error caught => .error (Diagnostic.ofCaught call outside caught x.2).1 := by
  obtain ⟨result, after⟩ := x
  cases result <;> rfl

namespace Host
variable {h : Host}

/-- A call of a host whose guest code came to the given end. The events of the call tell which console calls the guest
completed. If guest code failed, the diagnostic of what it failed with is both answered and reported. -/
def Reports (h : Host) (hold : Hold) (label : String) (fault : Diagnostic → HostFault) (ran : Except Caught α × Machine)
    (made : Reply × Host) : Prop :=
  ∃ events, made.2.machine.trace.toList = h.machine.trace.toList ++ events ∧
    match ran with
    | (.ok _, _) =>
      made.1 = .ok () ∧ made.2.log.records.toList = h.log.records.toList ++ events.filterMap Event.record?
    | (.error caught, m) =>
      let d := (Diagnostic.ofCaught h.calls.call (h.outside hold) caught m).1
      made.1 = .error (fault d) ∧ d.Shown ∧
        made.2.log.records.toList = h.log.records.toList ++ events.filterMap Event.record? ++
          [⟨.error, "script", d.render label⟩]

/-- Marking that a call runs, and counting it, takes nothing from the log or the trace. -/
theorem reports_of_reported {hold : Hold} {fault : Diagnostic → HostFault} {ran : Except Caught α × Machine}
    {run : Except Diagnostic α × Machine} {machine : Machine} (follows : Follows hold h.machine.enter ran.2)
    (report : reported h.calls.call (h.outside hold) label ran = run)
    (trace : machine.trace = run.2.trace) (log : machine.ledger.log = run.2.ledger.log) :
    h.Reports hold label fault ran (.ofResult fault run.1, { h with machine }) := by
  rw [← outside_hold h hold] at follows
  obtain ⟨events, leads⟩ := reported_written h.calls.call label rfl follows
  have result := reported_result h.calls.call (h.outside hold) label ran
  rw [report] at leads result
  have written := leads.log rfl
  rw [← log] at written
  refine ⟨events, (congrArg Array.toList trace).trans leads.trace, ?_⟩
  obtain ⟨_ | a, m⟩ := ran
  · refine ⟨congrArg (Reply.ofResult fault) result, Diagnostic.ofCaught_shown _ m, ?_⟩
    rw [List.append_assoc]
    exact written
  · exact ⟨congrArg (Reply.ofResult fault) result, written⟩

theorem evaluate_eq (idle : h.running = false) (hold : Hold) (source : Source) :
    let run := reported h.calls.call (h.outside hold) evaluationLabel
      (source.caught h.calls (h.outside hold) h.machine.enter)
    h.evaluate hold source = (.ofResult .evaluation run.1, { h with machine := run.2.leave }) := by
  have free : h.machine.ledger.running = false := idle
  simp only [evaluate, perform, Machine.perform, Machine.evaluate, free, Bool.false_eq_true, if_false, calls]

theorem tick_eq (idle : h.running = false) (hold : Hold) (delta : Binary32) :
    let run := reported h.calls.call (h.outside hold) tickLabel
      ((callHook h.calls h.config.hook delta).caught (h.outside hold) h.machine.enter)
    h.tick hold delta =
      (.ofResult .invocation run.1, { h with machine := (run.2.count (h.counters.afterTick run.1)).leave }) := by
  have free : h.machine.ledger.running = false := idle
  simp only [tick, perform, Machine.perform, Machine.tick, free, Bool.false_eq_true, if_false, calls, counters]

theorem evaluate_reports (idle : h.running = false) (hold : Hold) (source : Source) :
    h.Reports hold evaluationLabel .evaluation
      (source.caught h.calls (h.outside hold) h.machine.enter) (h.evaluate hold source) := by
  have follows := source.caught_follows h.calls (h.outside hold) h.machine.enter
  rw [outside_hold] at follows
  rw [evaluate_eq idle]
  exact reports_of_reported follows rfl (by simp) (by simp)

theorem tick_reports (idle : h.running = false) (hold : Hold) (delta : Binary32) :
    h.Reports hold tickLabel .invocation
      ((callHook h.calls h.config.hook delta).caught (h.outside hold) h.machine.enter) (h.tick hold delta) := by
  have follows := (callHook h.calls h.config.hook delta).caught_follows (h.outside hold) h.machine.enter
  rw [outside_hold] at follows
  rw [tick_eq idle]
  exact reports_of_reported follows rfl (by simp) (by simp)

/-- Whatever is evaluated and however long a tick is: a call of a host that can be had answers with nothing but the
diagnostic of a guest's failure, and writes what the guest said and then that diagnostic, once. -/
theorem calls_report (reachable : h.Reachable) (hold : Hold) :
    (∀ source, h.Reports hold "Error evaluating script" .evaluation
      (source.caught h.calls (h.outside hold) h.machine.enter) (h.evaluate hold source)) ∧
    ∀ delta, h.Reports hold "Error calling update()" .invocation
      ((callHook h.calls h.config.hook delta).caught (h.outside hold) h.machine.enter) (h.tick hold delta) :=
  ⟨evaluate_reports reachable.idle hold, tick_reports reachable.idle hold⟩

/-- Throws an object that says something when it is asked for its text, and throws again. -/
def hostile : Source :=
  .program [.throwing (.object [("toString", .function .method []
    [.expression (.call (.member (.name "console") "warn") [.text "asked"]), .throwing (.text "again")])])]

theorem calls_report_hostile : ∃ h : Host, h.Reachable ∧
    h.Reports .free "Error evaluating script" .evaluation (hostile.caught h.calls (h.outside .free) h.machine.enter)
      (h.evaluate .free hostile) := by
  obtain ⟨h, built⟩ := build_asking
  exact ⟨h, .built built, (calls_report (.built built) .free).1 hostile⟩

end Host
end ScriptedScene
