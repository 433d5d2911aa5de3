import ScriptedScene.Host.Basic

/-! The calls that a run makes itself. What a called function calls in its turn is one call deeper, and whoever the log
goes to calls no guest while a call of the host runs; so the calls at the run's own depth can be read off the pieces
that it is made of. -/
namespace ScriptedScene.Guest

/-- A call of a value. -/
structure FunctionCall where
  function : Value
  receiver : Value
  arguments : List Value
  deriving DecidableEq, Repr

/-- The call that an event is the start of, if it starts one at the given depth. -/
def Event.opens? (depth : Nat) : Event → Option FunctionCall
  | called d f receiver arguments => if d = depth then some ⟨f, receiver, arguments⟩ else none
  | console _ _ | light _ | replied _ _ | counted _ => none

theorem Event.Told.opens?_eq_none {counters : Counters} {e : Event} (told : e.Told counters) (depth : Nat) :
    e.opens? depth = none := by
  cases e with
  | called _ _ _ _ => exact told.elim
  | console _ _ => rfl
  | light _ => rfl
  | replied _ _ => rfl
  | counted _ => rfl

/-- From one machine to another such calls are made at a depth, while a call of the host runs. -/
structure Opens (depth : Nat) (before : Machine) (made : List FunctionCall) (after : Machine) : Prop where
  running : after.ledger.running
  trace : ∃ events, after.trace.toList = before.trace.toList ++ events ∧ events.filterMap (Event.opens? depth) = made

namespace Opens
variable {depth : Nat} {a b c : Machine} {cs ds : List FunctionCall}

theorem refl (depth : Nat) (running : a.ledger.running) : Opens depth a [] a := ⟨running, [], by simp, rfl⟩

theorem trans (h : Opens depth a cs b) (k : Opens depth b ds c) : Opens depth a (cs ++ ds) c := by
  obtain ⟨-, es, first, rfl⟩ := h
  obtain ⟨running, fs, second, rfl⟩ := k
  exact ⟨running, es ++ fs, by rw [second, first, List.append_assoc], List.filterMap_append⟩

theorem memory (h : Opens depth a cs b) (memory : Memory) : Opens depth a cs { b with memory } := ⟨h.running, h.trace⟩

theorem mark (h : Opens depth a cs b) (e : Event) : Opens depth a (cs ++ (e.opens? depth).toList) (b.mark e) := by
  refine h.trans ⟨h.running, [e], by simp [Machine.mark], ?_⟩
  rw [List.filterMap_cons]
  cases e.opens? depth <;> rfl

/-- An embedder's visit makes no calls. -/
theorem quiet (h : Opens depth a cs b) (visit : Quiet b c) : Opens depth a cs c := by
  obtain ⟨told, silent, rfl⟩ := visit
  have none : told.filterMap (Event.opens? depth) = [] :=
    List.filterMap_eq_nil_iff.mpr fun e member => (silent e member).opens?_eq_none depth
  rw [← List.append_nil cs]
  exact h.trans ⟨h.running, told, by simp, none⟩

theorem deliver (h : Opens depth a cs b) (outside : Outside) (r : LogRecord) :
    Opens depth a cs (outside.deliver r b) :=
  have written : Opens depth a cs (b.write r) := ⟨h.running, h.trace⟩
  written.quiet ((outside.receive_visited r (b.write r)).quiet h.running)

theorem serve (h : Opens depth a cs b) (outside : Outside) (name : Units) (arguments : List Value) :
    Opens depth a cs (outside.serve name arguments b).2 :=
  h.quiet ((outside.serve_visited name arguments b).quiet h.running)

theorem consult (h : Opens depth a cs b) (hold : Hold) (f : LightFunction) (arguments : List Value) (q : Inquiry) :
    Opens depth a cs (b.consult hold f arguments q).2 := by
  unfold Machine.consult
  cases b.scene.consult hold q with
  | error fault => simpa [Event.opens?] using h.mark (.light ⟨f, arguments, .asked q (.error fault)⟩)
  | ok answer =>
    have marked := h.mark (.light ⟨f, arguments, .asked q (.ok answer.1)⟩)
    exact ⟨marked.running, by simpa [Event.opens?, Machine.mark] using marked.trace⟩

end Opens

/-- Code that runs deeper makes no calls at the depth. -/
def Invariant.opens (outside : Outside) {depth : Nat} (deeper : depth < outside.depth) (start : Machine)
    (made : List FunctionCall) : Invariant outside where
  Holds m := Opens depth start made m
  revise h memory := h.memory memory
  say h method texts := by
    have marked := h.mark (.console method texts)
    simp only [Event.opens?, Option.toList, List.append_nil] at marked
    exact marked.deliver outside _
  serve h name arguments := h.serve outside name arguments
  consult h f arguments q := h.consult outside.hold f arguments q
  unasked h f arguments := by simpa [Event.opens?] using h.mark (.light ⟨f, arguments, .unasked⟩)
  -- The only step that puts a call on record, and it is at another depth.
  called h d deep f receiver arguments := by
    have other : d ≠ depth := by omega
    simpa [Event.opens?, other] using h.mark (.called d f receiver arguments)

namespace Run
variable {outside : Outside} {m : Machine} {α β : Type}

/-- A call of a value is one call, whatever the value does. -/
theorem opens_called (f receiver : Value) (arguments : List Value) (body : Run α) (running : m.ledger.running) :
    Opens outside.depth m [⟨f, receiver, arguments⟩] ((called f receiver arguments body).run outside m).2 := by
  have marked := (Opens.refl outside.depth running).mark (.called outside.depth f receiver arguments)
  simp only [Event.opens?, if_true, List.nil_append, Option.toList] at marked
  exact body.keeps (.opens outside.deeper (Nat.lt_succ_self outside.depth) m _) marked

end Run

/-- Every call of a value goes through the place where it is put on record. -/
def Call.Recorded (call : Call) : Prop :=
  ∀ f receiver arguments, ∃ body, call f receiver arguments = Run.called f receiver arguments body

theorem Calls.recorded (depth : Nat) : (ofDepth depth).call.Recorded := by
  intro f receiver arguments
  cases depth with
  | zero => exact ⟨_, rfl⟩
  | succ depth => exact ⟨_, rfl⟩

theorem Call.Recorded.opens {call : Call} (recorded : call.Recorded) (outside : Outside) (f receiver : Value)
    (arguments : List Value) {m : Machine} (running : m.ledger.running) :
    Opens outside.depth m [⟨f, receiver, arguments⟩] ((call f receiver arguments).run outside m).2 := by
  obtain ⟨body, same⟩ := recorded f receiver arguments
  rw [same]
  exact Run.opens_called f receiver arguments body running

/-- From one machine to another calls are made at a depth that all have a receiver. -/
def Addresses (depth : Nat) (before after : Machine) : Prop :=
  ∃ made, Opens depth before made after ∧ ∀ c ∈ made, c.receiver ≠ .undefined

namespace Addresses
variable {depth : Nat} {a b c : Machine}

theorem refl (depth : Nat) (running : a.ledger.running) : Addresses depth a a := ⟨[], .refl depth running, by simp⟩

theorem running (h : Addresses depth a b) : b.ledger.running := h.choose_spec.1.running

theorem trans (h : Addresses depth a b) (k : Addresses depth b c) : Addresses depth a c := by
  obtain ⟨made, opens, addressed⟩ := h
  obtain ⟨more, next, further⟩ := k
  refine ⟨made ++ more, opens.trans next, fun call member => ?_⟩
  rcases List.mem_append.mp member with first | second
  · exact addressed call first
  · exact further call second

end Addresses

/-- A run whose calls all have a receiver. -/
def Run.Addressed (x : Run α) : Prop :=
  ∀ (outside : Outside) (m : Machine), m.ledger.running → Addresses outside.depth m (x.run outside m).2

namespace Run.Addressed
variable {α β : Type}

theorem pure (a : α) : (Pure.pure a : Run α).Addressed := fun outside _ running => .refl outside.depth running

theorem fail (e : Value) : (Run.fail e : Run α).Addressed := fun outside _ running => .refl outside.depth running

theorem ask (f : Memory → α) : (Run.ask f).Addressed := fun outside _ running => .refl outside.depth running

theorem revise (f : Memory → α × Memory) : (Run.revise f).Addressed :=
  fun outside _ running => ⟨[], (Opens.refl outside.depth running).memory _, by simp⟩

theorem bind {x : Run α} {f : α → Run β} (h : x.Addressed) (k : ∀ a, (f a).Addressed) : (x >>= f).Addressed := by
  intro outside m running
  have first := h outside m running
  cases ran : x.run outside m with
  | mk result n =>
    rw [ran] at first
    cases result with
    | error e =>
      rw [bind_error ran]
      exact first
    | ok a =>
      rw [bind_ok ran]
      exact first.trans (k a outside n first.running)

theorem throwFault (f : Fault) : (Run.throwFault f : Run α).Addressed :=
  bind (bind (revise _) fun r => pure (Value.object r)) fun e => fail e

variable {call : Call}

theorem called (recorded : call.Recorded) (f : Value) {receiver : Value} (addressed : receiver ≠ .undefined)
    (arguments : List Value) : (call f receiver arguments).Addressed :=
  fun outside _ running => ⟨_, recorded.opens outside f receiver arguments running, by simpa using addressed⟩

theorem readProperty (recorded : call.Recorded) {receiver : Value} (addressed : receiver ≠ .undefined)
    (p : Option Property) : (Run.readProperty call receiver p).Addressed := by
  unfold Run.readProperty
  split
  · exact pure _
  · split
    · exact pure _
    · exact bind (ask _) fun c => pure _
    · exact pure _
    · exact called recorded _ addressed _

/-- Getters are called on what is read from; nothing can be read from what is undefined. -/
theorem get (recorded : call.Recorded) (base : Value) (key : Units) : (Run.get call base key).Addressed := by
  have reading (v : Value) (addressed : v ≠ .undefined) (r : Ref) :
      (Run.ask (·.find? r key) >>= Run.readProperty call v).Addressed :=
    bind (ask _) fun p => readProperty recorded addressed p
  unfold Run.get
  split
  · exact reading (.object _) nofun _
  · split
    · exact pure _
    · exact reading (.text _) nofun _
  · split
    · refine reading _ ?_ _
      -- What has a prototype is not undefined.
      rintro rfl
      cases ‹Value.prototypeOf? _ = _›
    · exact throwFault _

theorem primitiveBy (recorded : call.Recorded) {v : Value} (addressed : v ≠ .undefined) (methods : List Units) :
    (Run.primitiveBy call v methods).Addressed := by
  induction methods with
  | nil => exact throwFault _
  | cons method rest ih =>
    refine bind (get recorded v method) fun f => bind (ask _) fun callable => ?_
    split
    · refine bind (called recorded f addressed []) fun p => ?_
      split
      · exact ih
      · exact pure _
    · exact ih

theorem toText (recorded : call.Recorded) (v : Value) : (Run.toText call v).Addressed := by
  have primitive : (Run.toPrimitive call .text v).Addressed := by
    unfold Run.toPrimitive
    split
    · refine bind (ask _) fun o => ?_
      split
      · exact pure _
      · exact primitiveBy recorded (v := .object _) nofun _
    · exact pure _
  refine bind primitive fun p => ?_
  unfold Run.primitiveText
  split
  all_goals first | exact pure _ | exact throwFault _

end Run.Addressed

end ScriptedScene.Guest
