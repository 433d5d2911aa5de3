import ScriptedScene.Host.Basic

/-! Calls of a host in lockstep. What keeps two machines in lockstep in every step of a guest keeps them so while the
guest's failure is asked for its text, and in the report of it if receiving a record does. Both sides then tell the same
of the failure. -/
namespace ScriptedScene
open Guest
variable {left right : Outside} {m n : Machine} {α : Type}

/-- The same result, and machines in lockstep. -/
def Guest.Lockstep.Agree (k : Lockstep left right) (x y : α × Machine) : Prop := x.1 = y.1 ∧ k.Paired x.2 y.2

theorem Guest.Run.answer?_lockstep (x : Run (Option α)) (k : Lockstep left right) (paired : k.Paired m n) :
    k.Agree (x.answer? left m) (x.answer? right n) := by
  have run := x.lockstep k paired
  unfold answer?
  revert run
  rcases x.run left m with ⟨_ | a, m'⟩ <;> rcases x.run right n with ⟨_ | b, n'⟩ <;> rintro ⟨⟨⟩, paired⟩
  · exact ⟨rfl, paired⟩
  · exact ⟨rfl, paired⟩

theorem Guest.Run.caught_lockstep (x : Run α) (k : Lockstep left right) (paired : k.Paired m n) :
    k.Agree (x.caught left m) (x.caught right n) := by
  have run := x.lockstep k paired
  unfold caught
  revert run
  rcases x.run left m with ⟨_ | a, m'⟩ <;> rcases x.run right n with ⟨_ | b, n'⟩ <;> rintro ⟨⟨⟩, paired⟩
  · exact ⟨rfl, paired⟩
  · exact ⟨rfl, paired⟩

theorem Guest.Source.caught_lockstep (calls : Calls) (s : Source) (k : Lockstep left right) (paired : k.Paired m n) :
    k.Agree (s.caught calls left m) (s.caught calls right n) := by
  unfold caught
  split
  · exact ⟨rfl, paired⟩
  · exact (s.run calls).caught_lockstep k paired

namespace Diagnostic
open Run
variable (call : Call) (k : Lockstep left right)

theorem messageOf_lockstep (v : Value) (text : Option String) (paired : k.Paired m n) :
    k.Agree (messageOf call v text left m) (messageOf call v text right n) := by
  cases text with
  | some text => exact ⟨rfl, paired⟩
  | none => exact (textOfProperty call v messageKey).answer?_lockstep k paired

theorem ofThrown_lockstep (v : Value) (paired : k.Paired m n) :
    k.Agree (ofThrown call v left m) (ofThrown call v right n) := by
  have asked := (textOf call v).answer?_lockstep k paired
  unfold ofThrown
  revert asked
  rcases (textOf call v).answer? left m with ⟨text, m'⟩
  rcases (textOf call v).answer? right n with ⟨_, n'⟩
  rintro ⟨⟨⟩, asked⟩
  have start : m.memory = n.memory := k.sameMemory paired
  have same : m'.memory = n'.memory := k.sameMemory asked
  have message := messageOf_lockstep call k v text asked
  have stack := (textOfProperty call v stackKey).answer?_lockstep k message.2
  dsimp only at message stack ⊢
  simp only [start, same, message.1, stack.1]
  split
  · exact ⟨rfl, stack.2⟩
  · exact ⟨rfl, asked⟩

theorem ofCaught_lockstep (caught : Caught) (paired : k.Paired m n) :
    k.Agree (ofCaught call left caught m) (ofCaught call right caught n) := by
  cases caught with
  | thrown v => exact ofThrown_lockstep call k v paired
  | engine message => exact ⟨rfl, paired⟩

end Diagnostic

/-- A failure is reported alike. Only the report itself is no step of the guest. -/
theorem reported_lockstep (call : Call) (k : Lockstep left right) (label : String)
    (deliver : ∀ {m n}, k.Paired m n → ∀ r, k.Paired (left.deliver r m) (right.deliver r n))
    {x y : Except Caught α × Machine} (agree : k.Agree x y) :
    k.Agree (reported call left label x) (reported call right label y) := by
  obtain ⟨result, m⟩ := x
  obtain ⟨_, n⟩ := y
  obtain ⟨⟨⟩, paired⟩ := agree
  cases result with
  | ok a => exact ⟨rfl, paired⟩
  | error caught =>
    have told := Diagnostic.ofCaught_lockstep call k caught paired
    refine ⟨congrArg Except.error told.1, ?_⟩
    simp only [reported, told.1]
    exact deliver told.2 _

/-- What every step of a guest keeps, and the report of a failure, a whole call keeps from the mark on that it runs. -/
theorem Guest.Machine.perform_keeps {outside : Outside} (i : Invariant outside)
    (deliver : ∀ {m}, i.Holds m → ∀ r, i.Holds (outside.deliver r m)) (engine : Engine) (c : Config)
    (request : Request) {m : Machine}
    (idle : m.ledger.running = false) (holds : i.Holds m.enter) :
    ∃ n counters, i.Holds n ∧ (m.perform engine c outside request).2 = (n.count counters).leave := by
  have delivers : ∀ {m n}, i.lockstep.Paired m n → ∀ r, i.lockstep.Paired (outside.deliver r m) (outside.deliver r n) := by
    rintro m _ ⟨rfl, holds⟩ r
    exact ⟨rfl, deliver holds r⟩
  have start : i.lockstep.Paired m.enter m.enter := ⟨rfl, holds⟩
  have evaluate (source : Source) :
      ∃ n counters, i.Holds n ∧ (m.evaluate engine c outside source).2 = (n.count counters).leave := by
    have ran := reported_lockstep (engine.calls c).call i.lockstep evaluationLabel delivers
      (source.caught_lockstep (engine.calls c) i.lockstep start)
    simp only [Machine.evaluate, idle, Bool.false_eq_true, if_false]
    revert ran
    rcases reported (engine.calls c).call outside evaluationLabel (source.caught (engine.calls c) outside m.enter) with
      ⟨result, n⟩
    exact fun ran => ⟨n, n.ledger.counters, ran.2.2, rfl⟩
  cases request with
  | evaluate source => exact evaluate source
  | evaluateFile path content =>
    cases content with
    | error cause =>
      -- The call never gets to run; the mark that is set here is taken away at once.
      refine ⟨m.enter, m.ledger.counters, holds, ?_⟩
      obtain ⟨memory, scene, trace, ⟨log, counters, running⟩⟩ := m
      cases idle
      rfl
    | ok source => exact evaluate source
  | tick delta =>
    have ran := reported_lockstep (engine.calls c).call i.lockstep tickLabel delivers
      ((callHook (engine.calls c) c.hook delta).caught_lockstep i.lockstep start)
    simp only [perform, tick, idle, Bool.false_eq_true, if_false]
    exact ⟨_, _, ran.2.2, rfl⟩

end ScriptedScene
