import ScriptedScene.Guest.Lockstep

/-!
Runs of guests, as they are built from pieces. A run cannot do just anything to a machine: every piece keeps two machines
in lockstep that were so, whatever that is to mean, and so does all that is built from pieces. What a run keeps can
therefore be told without looking into it.
-/

namespace ScriptedScene.Guest

/-- A piece of a guest's run: given what lies outside, it takes a machine to an outcome, which is a result or a
thrown value, and to the machine as it is then. A throw takes nothing back. -/
structure Run (α : Type) where
  run : Outside → Machine → Except Value α × Machine
  lockstep : ∀ {left right} (k : Lockstep left right) {m n}, k.Paired m n →
    (run left m).1 = (run right n).1 ∧ k.Paired (run left m).2 (run right n).2

namespace Run

/-- A run ends with what held at its start, if no step ends it. -/
theorem keeps (x : Run α) {outside : Outside} (i : Invariant outside) {m : Machine} (holds : i.Holds m) :
    i.Holds (x.run outside m).2 :=
  (x.lockstep i.lockstep ⟨rfl, holds⟩).2.2

theorem follows (x : Run α) (outside : Outside) (m : Machine) : Follows outside.hold m (x.run outside m).2 :=
  x.keeps (.follows outside m) (.refl outside.hold m)

protected def pure (a : α) : Run α := ⟨fun _ m => (.ok a, m), fun _ _ _ paired => ⟨rfl, paired⟩⟩

protected def bind (x : Run α) (f : α → Run β) : Run β where
  run outside m :=
    match x.run outside m with
    | (.ok a, m) => (f a).run outside m
    | (.error e, m) => (.error e, m)
  lockstep {left right} k m n paired := by
    have first := x.lockstep k paired
    revert first
    rcases x.run left m with ⟨_ | a, m'⟩ <;> rcases x.run right n with ⟨_ | b, n'⟩ <;> rintro ⟨⟨⟩, paired⟩
    · exact ⟨rfl, paired⟩
    · exact (f a).lockstep k paired

instance : Monad Run where
  pure := Run.pure
  bind := Run.bind

theorem bind_ok {x : Run α} {outside : Outside} {m n : Machine} {a : α} (run : x.run outside m = (.ok a, n))
    (f : α → Run β) : (x >>= f).run outside m = (f a).run outside n := by
  change (Run.bind x f).run outside m = _
  simp only [Run.bind, run]

theorem bind_error {x : Run α} {outside : Outside} {m n : Machine} {e : Value} (run : x.run outside m = (.error e, n))
    (f : α → Run β) : (x >>= f).run outside m = (.error e, n) := by
  change (Run.bind x f).run outside m = _
  simp only [Run.bind, run]

/-- Two runs in turn give a result if both do. -/
theorem bind_eq_ok_iff {x : Run α} {f : α → Run β} {outside : Outside} {m n : Machine} {b : β} :
    (x >>= f).run outside m = (.ok b, n) ↔
      ∃ a k, x.run outside m = (.ok a, k) ∧ (f a).run outside k = (.ok b, n) := by
  cases ran : x.run outside m with
  | mk result k =>
    cases result with
    | error e => simp [bind_error ran]
    | ok a =>
      rw [bind_ok ran]
      constructor
      · exact fun next => ⟨a, k, rfl, next⟩
      · rintro ⟨_, _, ⟨⟩, next⟩
        exact next

theorem pure_eq_ok_iff {a b : α} {outside : Outside} {m n : Machine} :
    (Pure.pure a : Run α).run outside m = (.ok b, n) ↔ a = b ∧ m = n := by
  change (Except.ok a, m) = (Except.ok b, n) ↔ _
  simp

/-- Throws a value. -/
def fail (e : Value) : Run α := ⟨fun _ m => (.error e, m), fun _ _ _ paired => ⟨rfl, paired⟩⟩

instance : Inhabited (Run α) := ⟨fail .undefined⟩

/-- Runs the handler with what the run throws. -/
def recover (x : Run α) (handler : Value → Run α) : Run α where
  run outside m :=
    match x.run outside m with
    | (.ok a, m) => (.ok a, m)
    | (.error e, m) => (handler e).run outside m
  lockstep {left right} k m n paired := by
    have first := x.lockstep k paired
    revert first
    rcases x.run left m with ⟨e | _, m'⟩ <;> rcases x.run right n with ⟨_ | _, n'⟩ <;> rintro ⟨⟨⟩, paired⟩
    · exact (handler e).lockstep k paired
    · exact ⟨rfl, paired⟩

/-- What comes of the run, thrown or not, as a result. -/
def outcome (x : Run α) : Run (Except Value α) where
  run outside m :=
    match x.run outside m with
    | (r, m) => (.ok r, m)
  lockstep k _ _ paired :=
    have first := x.lockstep k paired
    ⟨congrArg Except.ok first.1, first.2⟩

/-- Reads the memory. -/
def ask (f : Memory → α) : Run α where
  run _ m := (.ok (f m.memory), m)
  lockstep k _ _ paired := ⟨congrArg (Except.ok ∘ f) (k.sameMemory paired), paired⟩

/-- Changes the memory and gives a result. -/
def revise (f : Memory → α × Memory) : Run α where
  run _ m :=
    match m with
    | ⟨memory, scene, trace, ledger⟩ =>
      match f memory with
      | (a, memory) => (.ok a, ⟨memory, scene, trace, ledger⟩)
  lockstep k m n paired := by
    have same := k.sameMemory paired
    refine ⟨congrArg (fun memory => Except.ok (f memory).1) same, ?_⟩
    have revised := k.revise paired (f m.memory).2
    rw [same] at revised
    simpa only [same] using revised

/-- Completes a console call: its record is written and received. -/
def say (method : ConsoleMethod) (texts : List String) : Run Unit where
  run outside m := (.ok (), outside.deliver (method.record texts) (m.mark (.console method texts)))
  lockstep k _ _ paired := ⟨rfl, k.say paired method texts⟩

/-- Calls a function of the embedder. -/
def serve (name : Units) (arguments : List Value) : Run Value where
  run outside m :=
    match outside.serve name arguments m with
    | (i, m) => (.ok (.ofInt i), m)
  lockstep k _ _ paired :=
    have served := k.serve paired name arguments
    ⟨congrArg (Except.ok ∘ Value.ofInt) served.1, served.2⟩

/-- Asks the scene for a light function that was called with the given arguments. With that, the call is over. -/
def consult (f : LightFunction) (arguments : List Value) (q : Inquiry) : Run (Except Fault Reading) where
  run outside m :=
    match m.consult outside.hold f arguments q with
    | (answer, m) => (.ok answer, m)
  lockstep {left right} k m n paired := by
    refine ⟨?_, k.consult paired f arguments q⟩
    simp only [Machine.consult, k.sameScene paired, k.hold]
    cases n.scene.consult right.hold q <;> rfl

/-- Ends a call of a light function that asks nothing of the scene. -/
def unasked (f : LightFunction) (arguments : List Value) : Run Unit where
  run _ m := (.ok (), m.mark (.light ⟨f, arguments, .unasked⟩))
  lockstep k _ _ paired := ⟨rfl, k.unasked paired f arguments⟩

/-- A call of a value: what it runs is one call deeper. -/
def called (f receiver : Value) (arguments : List Value) (body : Run α) : Run α where
  run outside m := body.run outside.deeper (m.mark (.called outside.depth f receiver arguments))
  lockstep {left right} k m n paired := by
    rw [← k.depth]
    exact body.lockstep k.deeper (k.called paired left.depth (Nat.le_refl _) f receiver arguments)

/-- Repeats a step, which gives the next state or the result, at most `bound` times. -/
def iterateFrom (step : σ → Run (σ ⊕ α)) (outside : Outside) :
    Nat → σ → Machine → Except Value (Option α) × Machine
  | 0, _, m => (.ok none, m)
  | bound + 1, state, m =>
    match (step state).run outside m with
    | (.error e, m) => (.error e, m)
    | (.ok (.inr a), m) => (.ok (some a), m)
    | (.ok (.inl state), m) => iterateFrom step outside bound state m

theorem iterateFrom_lockstep (step : σ → Run (σ ⊕ α)) {left right : Outside} (k : Lockstep left right) (bound : Nat)
    (state : σ) {m n : Machine} (paired : k.Paired m n) :
    (iterateFrom step left bound state m).1 = (iterateFrom step right bound state n).1 ∧
      k.Paired (iterateFrom step left bound state m).2 (iterateFrom step right bound state n).2 := by
  induction bound generalizing state m n with
  | zero => exact ⟨rfl, paired⟩
  | succ bound ih =>
    have first := (step state).lockstep k paired
    unfold iterateFrom
    revert first
    rcases (step state).run left m with ⟨_ | _ | _, m'⟩ <;> rcases (step state).run right n with ⟨_ | _ | _, n'⟩ <;>
      rintro ⟨⟨⟩, paired⟩
    · exact ⟨rfl, paired⟩
    · exact ih _ paired
    · exact ⟨rfl, paired⟩

/-- Repeats a step, which gives the next state or the result, at most `bound` times. -/
def iterate (step : σ → Run (σ ⊕ α)) (bound : Nat) (state : σ) : Run (Option α) where
  run outside m := iterateFrom step outside bound state m
  lockstep k _ _ paired := iterateFrom_lockstep step k bound state paired

/-- The results of a run for every element, in order. -/
def each (f : α → Run β) : List α → Run (List β)
  | [] => return []
  | a :: rest => do
    let b ← f a
    return b :: (← each f rest)

end Run

end ScriptedScene.Guest
