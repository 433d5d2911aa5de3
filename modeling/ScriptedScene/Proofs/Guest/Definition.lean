import ScriptedScene.Guest.Program
import ScriptedScene.Proofs.Guest.Realm

/-! A program that declares one function. If it runs to its end, a new function object is the value of a property of the
global object, and no other object that was there is changed. -/
namespace ScriptedScene.Guest

namespace Memory
variable {m k n : Memory} {r : Ref} {key : Units} {v : Value}

/-- What is made before an object is written to does not count as a change. -/
theorem Written.after (written : k.Written r key v n) (kept : ∀ but, m.Keeps but k) (has : m.Has r) : m.Written r key v n where
  keeps := (kept r).trans written.keeps
  plain := written.plain
  prototype := by
    rw [written.prototype, (kept k.next).object r has ((kept r).has has).ne_next]
  own := written.own
  others other ne := by
    rw [written.others other ne, (kept k.next).object r has ((kept r).has has).ne_next]

end Memory

namespace Run
variable {outside : Outside} {m n : Machine} {α : Type}

/-- What is thrown is thrown again. -/
theorem traced_eq_ok_iff {x : Run α} {a : α} : (traced x).run outside m = (.ok a, n) ↔ x.run outside m = (.ok a, n) := by
  refine ⟨fun ran => ?_, traced_of_ok⟩
  unfold traced recover at ran
  dsimp only at ran
  split at ran
  · next run =>
    cases ran
    exact run
  · obtain ⟨_, _, -, thrown⟩ := bind_eq_ok_iff.mp ran
    cases thrown

theorem putOwn_eq (r : Ref) (key : Units) (p : Property) (outside : Outside) (m : Machine) :
    (putOwn r key p).run outside m = (.ok (), { m with memory := m.memory.revised r (·.put key p) }) := rfl

/-- A function of the guest's own is a new object. What it is to construct comes with it and is new as well. -/
theorem newClosure_new (ctx : Context) (kind : FunctionKind) (name : Units) (parameters : List String) (body : List Stmt)
    (outside : Outside) (m : Machine) :
    ∃ n, (newClosure ctx kind name parameters body).run outside m = (.ok (.object m.memory.next), { m with memory := n }) ∧
      ∀ but, m.memory.Keeps but n := by
  let closure : Closure := ⟨kind, parameters, body, ctx.scopes, ctx.strict || Stmt.startsStrict body, ctx.this⟩
  let f : Object := ⟨some (functionParent kind).ref, functionProperties name parameters.length, .function (.closure closure), none⟩
  let made := m.memory.added f
  have new : ¬ m.memory.Has made.next := fun has => made.next_not_has ((Memory.Keeps.added m.memory made.next f).has has)
  have paired (prototype : Object) (but : Ref) : m.memory.Keeps but (made.added prototype) :=
    (Memory.Keeps.added m.memory but f).trans (.added made but prototype)
  let linked (n : Memory) : Memory :=
    n.revised m.memory.next (·.put prototypeKey ⟨.data (.object made.next) true, false, false⟩)
  cases kind with
  | function =>
    let prototype := made.added ⟨some (Intrinsic.ref .objectPrototype), [], .plain, none⟩
    let back := prototype.revised made.next (·.put constructorKey (.hidden (.object m.memory.next)))
    exact ⟨linked back, rfl, fun but => ((paired _ but).trans_new new (.revised _ _ _)).trans_new
      m.memory.next_not_has (.revised _ _ _)⟩
  | generator =>
    let prototype := made.added (.fresh (some (Intrinsic.ref .generatorPrototype)) .plain)
    exact ⟨linked prototype, rfl, fun but => (paired _ but).trans_new m.memory.next_not_has (.revised _ _ _)⟩
  | arrow | async | method => exact ⟨made, rfl, fun but => .added m.memory but f⟩

end Run

namespace Check.Step
variable {α β : Type} {x : Step α} {f : α → Step β} {s t : Scan} {a : α} {b : β}

theorem bind_eq_ok_iff : (x >>= f) s = .ok (b, t) ↔ ∃ a u, x s = .ok (a, u) ∧ f a u = .ok (b, t) := by
  change Step.bind x f s = _ ↔ _
  unfold Step.bind
  rcases x s with fault | ⟨a, u⟩
  · simp
  · simp only [Except.ok.injEq, Prod.mk.injEq, and_assoc, existsAndEq, true_and]

theorem pure_eq_ok_iff {c : α} : (Pure.pure a : Step α) s = .ok (c, t) ↔ a = c ∧ s = t := by
  change Except.ok (a, s) = _ ↔ _
  simp only [Except.ok.injEq, Prod.mk.injEq]

end Check.Step

namespace Program
open Run
variable {outside : Outside} {m n : Machine} {calls : Calls}

theorem defineGlobal_written (name : String) (f : Value) (outside : Outside) (has : m.memory.Has (Intrinsic.ref .global))
    (plain : (m.memory.object (Intrinsic.ref .global)).role = .plain) :
    ∃ n, (defineGlobal name f).run outside m = (.ok (), { m with memory := n }) ∧
      m.memory.Written (Intrinsic.ref .global) (.ofString name) f n := by
  unfold defineGlobal
  dsimp only
  rw [bind_ok (object_eq _ outside m)]
  cases (m.memory.object (Intrinsic.ref .global)).own? (.ofString name) with
  | none => exact ⟨_, putOwn_eq .., Memory.written_put has plain rfl⟩
  | some p =>
    refine ⟨_, putOwn_eq .., Memory.written_put has plain ?_⟩
    split <;> rfl

/-- Checking declarations changes nothing. -/
theorem checkAll_ok {declarations : List Declaration} (ran : (checkAll declarations).run outside m = (.ok (), n)) : n = m := by
  induction declarations with
  | nil => exact (pure_eq_ok_iff.mp ran).2.symm
  | cons d rest ih =>
    rw [checkAll] at ran
    obtain ⟨obstacle, k, asked, further⟩ := bind_eq_ok_iff.mp ran
    obtain ⟨rfl, rfl⟩ : obstacle? m.memory d = obstacle ∧ m = k := by simpa [ask] using asked
    split at further
    · exact absurd further throwFault_ne_ok
    · exact ih further

section
variable {kind : FunctionKind} {name : String} {parameters : List String} {body : List Stmt} {exported : Bool}

/-- A program that is one function outside of all blocks is one when it is checked. -/
theorem checked_function {p : Program} (right : Program.checked [.function kind name parameters body exported] = .ok p) :
    ∃ body, p = [.function kind name parameters body false] := by
  unfold Program.checked at right
  split at right
  · next ran =>
    cases right
    simp only [Check.statements, Check.statement, if_true, Check.Step.bind_eq_ok_iff, Check.Step.pure_eq_ok_iff] at ran
    obtain ⟨_, _, ⟨_, _, -, body, _, -, _, _, -, rfl, -⟩, _, _, ⟨rfl, -⟩, rfl, -⟩ := ran
    exact ⟨body, rfl⟩
  · cases right

/-- A program that is one function does nothing but to define it. -/
theorem run_function (has : m.memory.Has (Intrinsic.ref .global)) (plain : (m.memory.object (Intrinsic.ref .global)).role = .plain)
    (ran : (Program.run calls [.function kind name parameters body exported]).run outside m = (.ok (), n)) :
    m.memory.Written (Intrinsic.ref .global) (.ofString name) (.object m.memory.next) n.memory := by
  unfold Program.run at ran
  split at ran
  · exact absurd ran throwFault_ne_ok
  next checked =>
  obtain ⟨body, rfl⟩ := checked_function checked
  generalize context [.function kind name parameters body false] = ctx at ran
  obtain ⟨_, k, free, defines⟩ := bind_eq_ok_iff.mp ran
  obtain rfl := checkAll_ok free
  -- The function is made, and is then given to its name.
  obtain ⟨l, made, kept⟩ := newClosure_new ctx kind name parameters body outside k
  have global : l.object (Intrinsic.ref .global) = k.memory.object (Intrinsic.ref .global) :=
    (kept k.memory.next).object _ has has.ne_next
  obtain ⟨j, defined, written⟩ := defineGlobal_written (m := { k with memory := l }) name (.object k.memory.next) outside
    ((kept k.memory.next).has has) (global ▸ plain)
  have declared : (declareAll ctx (.function kind name parameters body false)).run outside k = (.ok (), { k with memory := j }) := by
    rw [declareAll, bind_ok made]
    exact defined
  have all : (each (declareAll ctx) [.function kind name parameters body false]).run outside k = (.ok [()], { k with memory := j }) :=
    bind_ok declared _
  -- Where it stands among the statements, nothing is left to do.
  have evaluated : (Evaluate.statements calls ctx [.function kind name parameters body false]).run outside
      { k with memory := j } = (.ok none, { k with memory := j }) := rfl
  rw [bind_ok all, bind_ok evaluated, pure_eq_ok_iff] at defines
  rw [← defines.2]
  exact written.after kept has

end

end Program
end ScriptedScene.Guest
