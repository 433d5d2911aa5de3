import ScriptedScene.Proofs.Guest.Numbers
import ScriptedScene.Guest.Lights

/-! One call of a light function. It asks the scene for nothing but what its arguments say, returns nothing but what the
scene says, and throws the scene's faults as error objects. What its arguments have to be like is said first. -/
namespace ScriptedScene.Guest

/-- A value that light functions take for the light with an id. -/
def Value.Designates (v : Value) (id : LightId) : Prop :=
  id.raw ≠ 0 ∧ ∃ x, v.number? = some x ∧ Convert.wholeOf x = .ok id.raw

/-- A value is an error object of a class with a message, as it is made. -/
def Memory.IsFault (m : Memory) (v : Value) (f : Fault) : Prop :=
  ∃ r, v = .object r ∧ m.object r =
    ⟨some (Intrinsic.ref (.errorPrototype f.errorClass)), [(Run.messageKey, .hidden (.text f.message))], .error, none⟩

namespace Run
variable {outside : Outside} {m n : Machine} {α : Type}

/-- What is allocated is found in its place. -/
theorem alloc_run (o : Object) (outside : Outside) (m : Machine) :
    ∃ r memory, (alloc o).run outside m = (.ok r, { m with memory }) ∧ memory.object r = o := by
  obtain ⟨⟨heap, cells, lexicals, symbols⟩, scene, trace, ledger⟩ := m
  refine ⟨⟨heap.size⟩, ⟨heap.push o, cells, lexicals, symbols⟩, rfl, ?_⟩
  simp [Memory.object]

theorem throwFault_run (f : Fault) (outside : Outside) (m : Machine) :
    ∃ e memory, (throwFault f : Run α).run outside m = (.error e, { m with memory }) ∧ memory.IsFault e f := by
  obtain ⟨r, memory, made, there⟩ := alloc_run
    ⟨some (Intrinsic.ref (.errorPrototype f.errorClass)), [(messageKey, .hidden (.text f.message))], .error, none⟩ outside m
  refine ⟨.object r, memory, ?_, r, rfl, there⟩
  have error : (newError f.errorClass f.message).run outside m = (.ok (.object r), { m with memory }) := bind_ok made _
  unfold throwFault
  rw [bind_ok error]
  rfl

theorem throwFault_ne_ok {f : Fault} {a : α} : (throwFault f : Run α).run outside m ≠ (.ok a, n) := by
  obtain ⟨e, memory, thrown, -⟩ := throwFault_run (α := α) f outside m
  rw [thrown]
  nofun

/-- A conversion whose fault is thrown gives a result if it gives one. -/
theorem orThrow_eq_ok_iff {x : Run (Except ConversionFault α)} {a : α} :
    (orThrow x).run outside m = (.ok a, n) ↔ x.run outside m = (.ok (.ok a), n) := by
  unfold orThrow
  rw [bind_eq_ok_iff]
  constructor
  · rintro ⟨_ | b, k, ran, rest⟩
    · exact absurd rest throwFault_ne_ok
    · obtain ⟨rfl, rfl⟩ := pure_eq_ok_iff.mp rest
      exact ran
  · exact fun ran => ⟨.ok a, n, ran, rfl⟩

theorem lightOf_eq_ok_iff {handle : UInt32} {id : LightId} :
    (lightOf handle).run outside m = (.ok id, n) ↔ (handle ≠ 0 ∧ id.raw = handle) ∧ m = n := by
  unfold lightOf LightId.ofRaw?
  obtain ⟨raw⟩ := id
  by_cases zero : handle = 0
  · simp only [zero, if_true]
    exact ⟨fun ran => absurd ran throwFault_ne_ok, fun ran => absurd rfl ran.1.1⟩
  · simp only [zero, if_false, pure_eq_ok_iff, LightId.mk.injEq, not_false_eq_true, true_and, eq_comm (a := raw), ne_eq]

theorem kindOf_eq_ok_iff {spelling : String} {kind : LightKind} :
    (kindOf spelling).run outside m = (.ok kind, n) ↔ LightKind.ofName? spelling = some kind ∧ m = n := by
  unfold kindOf LightKind.parse
  cases LightKind.ofName? spelling with
  | none => simpa using throwFault_ne_ok
  | some k => simp [pure_eq_ok_iff]

end Run

namespace Convert
variable {outside : Outside} {m n : Machine}

theorem mismatch_ne_ok {α : Type} {v : Value} {wanted : String} {a : α} :
    (mismatch v wanted).run outside m ≠ (.ok (.ok a), n) := by
  change (Except.ok (Except.error _), m) ≠ _
  simp

theorem text_eq_ok_iff {v : Value} {s : String} :
    (text v).run outside m = (.ok (.ok s), n) ↔ (∃ t, v = .text t ∧ t.decode = .ok s) ∧ m = n := by
  cases v with
  | text t =>
    unfold text
    dsimp only
    cases decoded : t.decode with
    | ok s => simp [Run.pure_eq_ok_iff, decoded]
    | error offset => simp [Run.pure_eq_ok_iff, decoded]
  | _ => simpa [text] using mismatch_ne_ok

theorem number64_eq_ok_iff {v : Value} {x : Binary64} :
    (number64 v).run outside m = (.ok (.ok x), n) ↔ v.number? = some x ∧ m = n := by
  unfold number64
  cases v.number? with
  | none => simpa using mismatch_ne_ok
  | some y => simp [Run.pure_eq_ok_iff]

theorem number32_eq_ok_iff {v : Value} {x : Binary32} :
    (number32 v).run outside m = (.ok (.ok x), n) ↔ (∃ y, v.number? = some y ∧ y.narrow = x) ∧ m = n := by
  unfold number32
  rw [Run.bind_eq_ok_iff]
  constructor
  · rintro ⟨_ | y, k, ran, rest⟩
    · cases rest
    · obtain ⟨number, rfl⟩ := number64_eq_ok_iff.mp ran
      obtain ⟨same, rfl⟩ := Run.pure_eq_ok_iff.mp rest
      exact ⟨⟨y, number, Except.ok.inj same⟩, rfl⟩
  · rintro ⟨⟨y, number, rfl⟩, rfl⟩
    exact ⟨.ok y, m, number64_eq_ok_iff.mpr ⟨number, rfl⟩, rfl⟩

theorem handle_eq_ok_iff {v : Value} {w : UInt32} :
    (handle v).run outside m = (.ok (.ok w), n) ↔ (∃ x, v.number? = some x ∧ wholeOf x = .ok w) ∧ m = n := by
  unfold handle
  rw [Run.bind_eq_ok_iff]
  constructor
  · rintro ⟨_ | x, k, ran, rest⟩
    · cases rest
    · obtain ⟨number, rfl⟩ := number64_eq_ok_iff.mp ran
      obtain ⟨same, rfl⟩ := Run.pure_eq_ok_iff.mp rest
      exact ⟨⟨x, number, same⟩, rfl⟩
  · rintro ⟨⟨x, number, whole⟩, rfl⟩
    exact ⟨.ok x, m, number64_eq_ok_iff.mpr ⟨number, rfl⟩, by rw [Run.pure_eq_ok_iff]; exact ⟨whole, rfl⟩⟩

/-- The numbers at some places of a list, each read where the reading before has left the machine. -/
inductive Numbers (call : Call) (outside : Outside) (array : Value) : List Nat → Machine → List Binary32 → Machine → Prop
  | nil {m : Machine} : Numbers call outside array [] m [] m
  | cons {place : Nat} {places : List Nat} {m k n : Machine} {v : Value} {x : Binary64} {xs : List Binary32}
    (read : (Run.get call array (.ofNat place)).run outside m = (.ok v, k)) (number : v.number? = some x)
    (rest : Numbers call outside array places k xs n) :
    Numbers call outside array (place :: places) m (x.narrow :: xs) n

variable {call : Call}

theorem Numbers.length {array : Value} {places : List Nat} {xs : List Binary32}
    (numbers : Numbers call outside array places m xs n) : xs.length = places.length := by
  induction numbers with
  | nil => rfl
  | cons _ _ _ ih => exact congrArg (· + 1) ih

theorem elements_eq_ok_iff {array : Value} {start left : Nat} {xs : List Binary32} :
    (elements call array (start + left) left).run outside m = (.ok (.ok xs), n) ↔
      Numbers call outside array (List.range' start left) m xs n := by
  induction left generalizing start m xs with
  | zero =>
    rw [elements, Run.pure_eq_ok_iff]
    constructor
    · rintro ⟨⟨⟩, rfl⟩
      exact .nil
    · rintro ⟨⟩
      exact ⟨rfl, rfl⟩
  | succ left ih =>
    have place : start + (left + 1) - (left + 1) = start := Nat.add_sub_cancel ..
    have further : start + (left + 1) = start + 1 + left := by omega
    rw [elements, place, further, List.range'_succ]
    constructor
    · intro ran
      obtain ⟨v, k, read, converted⟩ := Run.bind_eq_ok_iff.mp ran
      obtain ⟨_ | x, k', taken, rest⟩ := Run.bind_eq_ok_iff.mp converted
      · cases rest
      · obtain ⟨⟨y, number, rfl⟩, rfl⟩ := number32_eq_ok_iff.mp taken
        obtain ⟨_ | xs, k', others, rest⟩ := Run.bind_eq_ok_iff.mp rest
        · cases rest
        · cases rest
          exact .cons read number (ih.mp others)
    · rintro (_ | ⟨read, number, rest⟩)
      exact Run.bind_eq_ok_iff.mpr ⟨_, _, read, Run.bind_eq_ok_iff.mpr ⟨.ok _, _,
        number32_eq_ok_iff.mpr ⟨⟨_, number, rfl⟩, rfl⟩, Run.bind_eq_ok_iff.mpr ⟨.ok _, _, ih.mpr rest, rfl⟩⟩⟩

/-- A value is a list of exactly three numbers, which are a colour's components. Reading them may run guest code. -/
def IsColor (call : Call) (outside : Outside) (v : Value) (m : Machine) (c : Color) (n : Machine) : Prop :=
  ∃ r adjustable, v = .object r ∧ (m.memory.object r).role = .array 3 adjustable ∧
    Numbers call outside v [0, 1, 2] m c.components n

theorem numbers_eq_ok_iff {v : Value} {xs : List Binary32} :
    (numbers call v).run outside m = (.ok (.ok xs), n) ↔
      ∃ r length adjustable, v = .object r ∧ (m.memory.object r).role = .array length adjustable ∧
        Numbers call outside v (List.range' 0 length) m xs n := by
  cases v with
  | object r =>
    have looked : (Run.object r).run outside m = (.ok (m.memory.object r), m) := rfl
    unfold numbers
    dsimp only
    rw [Run.bind_ok looked]
    cases role : (m.memory.object r).role with
    | array length adjustable =>
      have whole : (elements call (.object r) (0 + length) length).run outside m = (.ok (.ok xs), n) ↔
          Numbers call outside (.object r) (List.range' 0 length) m xs n := elements_eq_ok_iff
      rw [Nat.zero_add] at whole
      dsimp only
      rw [whole]
      constructor
      · exact fun numbers => ⟨r, length, adjustable, rfl, role, numbers⟩
      · rintro ⟨_, _, _, ⟨⟩, other, numbers⟩
        cases role.symm.trans other
        exact numbers
    | _ => simpa [role] using mismatch_ne_ok
  | _ => simpa [numbers] using mismatch_ne_ok

theorem color_eq_ok_iff {v : Value} {c : Color} :
    (color call v).run outside m = (.ok (.ok c), n) ↔ IsColor call outside v m c n := by
  unfold color
  rw [Run.bind_eq_ok_iff]
  constructor
  · rintro ⟨_ | xs, k, ran, rest⟩
    · cases rest
    · obtain ⟨r, length, adjustable, rfl, role, numbers⟩ := numbers_eq_ok_iff.mp ran
      split at rest
      · cases ‹Except.ok _ = Except.error _›
      · cases ‹Except.ok _ = Except.ok _›
        cases rest
        have three : length = 3 := by simpa using numbers.length.symm
        subst three
        exact ⟨r, adjustable, rfl, role, numbers⟩
      · cases rest
  · rintro ⟨r, adjustable, rfl, role, numbers⟩
    exact ⟨.ok c.components, n, numbers_eq_ok_iff.mpr ⟨r, 3, adjustable, rfl, role, numbers⟩, rfl⟩

end Convert

/-- What a call asks of the scene, by its arguments; what is not said here asks nothing. Arguments beyond those that a
function takes do not matter. -/
inductive Asks (call : Call) (outside : Outside) : LightFunction → List Value → Machine → Inquiry → Machine → Prop
  | create {t : Units} {spelling : String} {kind : LightKind} {m : Machine} (text : t.decode = .ok spelling)
    (spelled : LightKind.ofName? spelling = some kind) :
    Asks call outside .create [.text t] m (.change (.create kind none)) m
  | createNamed {t u : Units} {spelling name : String} {kind : LightKind} {rest : List Value} {m : Machine}
    (text : t.decode = .ok spelling) (named : u.decode = .ok name) (spelled : LightKind.ofName? spelling = some kind) :
    Asks call outside .create (.text t :: .text u :: rest) m (.change (.create kind (some name))) m
  | find {t : Units} {name : String} {rest : List Value} {m : Machine} (named : t.decode = .ok name) :
    Asks call outside .find (.text t :: rest) m (.find name) m
  | light {f : LightFunction} {v : Value} {id : LightId} {rest : List Value} {m : Machine}
    (reads : f = .getKind ∨ f = .getColor ∨ f = .getIntensity) (designates : v.Designates id) :
    Asks call outside f (v :: rest) m (.light id) m
  | setColor {v w : Value} {id : LightId} {c : Color} {rest : List Value} {m n : Machine}
    (designates : v.Designates id) (color : Convert.IsColor call outside w m c n) :
    Asks call outside .setColor (v :: w :: rest) m (.change (.color id c)) n
  | setIntensity {v w : Value} {id : LightId} {x : Binary64} {rest : List Value} {m : Machine}
    (designates : v.Designates id) (number : w.number? = some x) :
    Asks call outside .setIntensity (v :: w :: rest) m (.change (.intensity id x.narrow)) m
  | count {arguments : List Value} {m : Machine} : Asks call outside .count arguments m .count m

/-- What a guest sees of what the scene says, in its memory. -/
def LightFunction.Shows (m : Memory) : LightFunction → Reading → Value → Prop
  | create, .changed (some id), v | find, .found (some id), v => v = Run.ofWord id.raw
  | setColor, .changed none, v | setIntensity, .changed none, v | find, .found none, v => v = .undefined
  | getKind, .light l, v => v = .ofString l.kind.name
  | getColor, .light l, v =>
    ∃ r, v = .object r ∧ m.object r = Run.arrayObject (l.color.components.map fun x => some (.ofBinary x.widen))
  | getIntensity, .light l, v => v = .ofBinary l.intensity.widen
  | count, .count n, v => v = Run.ofWord (UInt32.ofNat n)
  | _, _, _ => False

namespace LightFunction
open Run
variable {call : Call} {outside : Outside} {f : LightFunction} {arguments : List Value} {m n : Machine} {q : Inquiry}

/-- A handle is converted and then looked at. -/
theorem designates_iff {v : Value} {id : LightId} {k l : Machine} :
    (∃ w, (orThrow (Convert.handle v)).run outside m = (.ok w, n) ∧ (lightOf w).run outside k = (.ok id, l)) ↔
      v.Designates id ∧ m = n ∧ k = l := by
  constructor
  · rintro ⟨w, converted, looked⟩
    obtain ⟨⟨x, number, whole⟩, same⟩ := Convert.handle_eq_ok_iff.mp (orThrow_eq_ok_iff.mp converted)
    obtain ⟨⟨some, rfl⟩, still⟩ := lightOf_eq_ok_iff.mp looked
    exact ⟨⟨some, x, number, whole⟩, same, still⟩
  · rintro ⟨⟨some, x, number, whole⟩, same, still⟩
    exact ⟨id.raw, orThrow_eq_ok_iff.mpr (Convert.handle_eq_ok_iff.mpr ⟨⟨x, number, whole⟩, same⟩),
      lightOf_eq_ok_iff.mpr ⟨⟨some, rfl⟩, still⟩⟩

theorem asks_of_inquiry (ran : (f.inquiry call arguments).run outside m = (.ok q, n)) :
    Asks call outside f arguments m q n := by
  have texts {v : Value} {s : String} {m n : Machine} (ran : (orThrow (Convert.text v)).run outside m = (.ok s, n)) :=
    Convert.text_eq_ok_iff.mp (orThrow_eq_ok_iff.mp ran)
  have lights {v : Value} {m n : Machine} (ran : (do
      return Inquiry.light (← lightOf (← orThrow (Convert.handle v)))).run outside m = (.ok q, n)) :
      ∃ id, v.Designates id ∧ q = .light id ∧ m = n := by
    obtain ⟨w, k, converted, ran⟩ := bind_eq_ok_iff.mp ran
    obtain ⟨id, k, looked, ran⟩ := bind_eq_ok_iff.mp ran
    obtain ⟨designates, rfl, rfl⟩ := designates_iff.mp ⟨w, converted, looked⟩
    cases ran
    exact ⟨id, designates, rfl, rfl⟩
  unfold inquiry at ran
  split at ran
  · obtain ⟨s, k, first, ran⟩ := bind_eq_ok_iff.mp ran
    obtain ⟨⟨t, rfl, text⟩, rfl⟩ := texts first
    obtain ⟨kind, k, parsed, ran⟩ := bind_eq_ok_iff.mp ran
    obtain ⟨spelled, rfl⟩ := kindOf_eq_ok_iff.mp parsed
    cases ran
    exact .create text spelled
  · obtain ⟨s, k, first, ran⟩ := bind_eq_ok_iff.mp ran
    obtain ⟨⟨t, rfl, text⟩, rfl⟩ := texts first
    obtain ⟨name, k, second, ran⟩ := bind_eq_ok_iff.mp ran
    obtain ⟨⟨u, rfl, named⟩, rfl⟩ := texts second
    obtain ⟨kind, k, parsed, ran⟩ := bind_eq_ok_iff.mp ran
    obtain ⟨spelled, rfl⟩ := kindOf_eq_ok_iff.mp parsed
    cases ran
    exact .createNamed text named spelled
  · obtain ⟨name, k, first, ran⟩ := bind_eq_ok_iff.mp ran
    obtain ⟨⟨t, rfl, named⟩, rfl⟩ := texts first
    cases ran
    exact .find named
  · obtain ⟨id, designates, rfl, rfl⟩ := lights ran
    exact .light (.inl rfl) designates
  · obtain ⟨id, designates, rfl, rfl⟩ := lights ran
    exact .light (.inr (.inl rfl)) designates
  · obtain ⟨id, designates, rfl, rfl⟩ := lights ran
    exact .light (.inr (.inr rfl)) designates
  · obtain ⟨w, k, converted, ran⟩ := bind_eq_ok_iff.mp ran
    obtain ⟨c, l, colored, ran⟩ := bind_eq_ok_iff.mp ran
    obtain ⟨id, k, looked, ran⟩ := bind_eq_ok_iff.mp ran
    obtain ⟨designates, rfl, rfl⟩ := designates_iff.mp ⟨w, converted, looked⟩
    cases ran
    exact .setColor designates (Convert.color_eq_ok_iff.mp (orThrow_eq_ok_iff.mp colored))
  · obtain ⟨w, k, converted, ran⟩ := bind_eq_ok_iff.mp ran
    obtain ⟨x, l, taken, ran⟩ := bind_eq_ok_iff.mp ran
    obtain ⟨id, k, looked, ran⟩ := bind_eq_ok_iff.mp ran
    obtain ⟨designates, rfl, rfl⟩ := designates_iff.mp ⟨w, converted, looked⟩
    obtain ⟨⟨y, number, rfl⟩, rfl⟩ := Convert.number32_eq_ok_iff.mp (orThrow_eq_ok_iff.mp taken)
    cases ran
    exact .setIntensity designates number
  · cases ran
    exact .count
  · exact absurd ran throwFault_ne_ok

theorem inquiry_of_asks (asks : Asks call outside f arguments m q n) :
    (f.inquiry call arguments).run outside m = (.ok q, n) := by
  have texts {t : Units} {s : String} {m : Machine} (text : t.decode = .ok s) :
      (orThrow (Convert.text (.text t))).run outside m = (.ok s, m) :=
    orThrow_eq_ok_iff.mpr (Convert.text_eq_ok_iff.mpr ⟨⟨t, rfl, text⟩, rfl⟩)
  have kinds {s : String} {kind : LightKind} {m : Machine} (spelled : LightKind.ofName? s = some kind) :
      (kindOf s).run outside m = (.ok kind, m) :=
    kindOf_eq_ok_iff.mpr ⟨spelled, rfl⟩
  cases asks with
  | create text spelled => exact (bind_ok (texts text) _).trans (bind_ok (kinds spelled) _)
  | createNamed text named spelled =>
    exact (bind_ok (texts text) _).trans ((bind_ok (texts named) _).trans (bind_ok (kinds spelled) _))
  | find named => exact bind_ok (texts named) _
  | light reads designates =>
    obtain ⟨w, converted, looked⟩ := designates_iff.mpr ⟨designates, rfl, rfl⟩
    rcases reads with rfl | rfl | rfl
    all_goals exact (bind_ok converted _).trans (bind_ok looked _)
  | setColor designates color =>
    obtain ⟨w, converted, looked⟩ := designates_iff.mpr ⟨designates, rfl, rfl⟩
    have colored := orThrow_eq_ok_iff.mpr (Convert.color_eq_ok_iff.mpr color)
    exact (bind_ok converted _).trans ((bind_ok colored _).trans (bind_ok looked _))
  | setIntensity designates number =>
    obtain ⟨w, converted, looked⟩ := designates_iff.mpr ⟨designates, rfl, rfl⟩
    have taken : (orThrow (Convert.number32 _)).run outside m = (.ok _, m) :=
      orThrow_eq_ok_iff.mpr (Convert.number32_eq_ok_iff.mpr ⟨⟨_, number, rfl⟩, rfl⟩)
    exact (bind_ok converted _).trans ((bind_ok taken _).trans (bind_ok looked _))
  | count => rfl

/-- Of the changes, only a new light has an id to tell. -/
theorem reading_of_change {s t : Store} {c : Store.Change} {reading : Reading}
    (answer : s.answer (.change c) = .ok (reading, t)) :
    match c with
    | .create _ _ => ∃ id, reading = .changed (some id)
    | .color _ _ | .intensity _ _ => reading = .changed none := by
  cases c with
  | create kind name =>
    simp only [Store.answer, Store.request] at answer
    cases made : s.create kind name with
    | error fault => cases made ▸ answer
    | ok created => cases made ▸ answer; exact ⟨created.1, rfl⟩
  | color id color =>
    simp only [Store.answer, Store.request] at answer
    cases made : s.setColor id color with
    | error fault => cases made ▸ answer
    | ok changed => cases made ▸ answer; rfl
  | intensity id value =>
    simp only [Store.answer, Store.request] at answer
    cases made : s.setIntensity id value with
    | error fault => cases made ▸ answer
    | ok changed => cases made ▸ answer; rfl

/-- What the scene says is shown for what it is. -/
theorem value_run (asks : Asks call outside f arguments m q n) {s t : Store} {reading : Reading}
    (answer : s.answer q = .ok (reading, t)) (k : Machine) :
    ∃ v memory, (f.value reading).run outside k = (.ok v, { k with memory }) ∧ f.Shows memory reading v := by
  cases asks with
  | create text spelled =>
    obtain ⟨id, rfl⟩ := reading_of_change answer
    exact ⟨_, k.memory, rfl, rfl⟩
  | createNamed text named spelled =>
    obtain ⟨id, rfl⟩ := reading_of_change answer
    exact ⟨_, k.memory, rfl, rfl⟩
  | find named =>
    cases answer
    cases s.find? _ with
    | none => exact ⟨_, k.memory, rfl, rfl⟩
    | some id => exact ⟨_, k.memory, rfl, rfl⟩
  | light reads designates =>
    simp only [Store.answer] at answer
    split at answer <;> cases answer
    rcases reads with rfl | rfl | rfl
    · exact ⟨_, k.memory, rfl, rfl⟩
    · obtain ⟨r, memory, made, there⟩ := alloc_run
        (arrayObject (Light.color ‹Light› |>.components.map fun x => some (.ofBinary x.widen))) outside k
      exact ⟨.object r, memory, bind_ok made _, r, rfl, there⟩
    · exact ⟨_, k.memory, rfl, rfl⟩
  | setColor designates color =>
    cases reading_of_change answer
    exact ⟨_, k.memory, rfl, rfl⟩
  | setIntensity designates number =>
    cases reading_of_change answer
    exact ⟨_, k.memory, rfl, rfl⟩
  | count =>
    cases answer
    exact ⟨_, k.memory, rfl, rfl⟩

end LightFunction

/-- What a call of a light function comes to. Once its arguments are converted, which may run guest code, it puts itself
on record. Nothing else of the machine changes of its own than the memory and, if the scene makes the change that it asks
for, the scene. -/
inductive Proxied (call : Call) (outside : Outside) (f : LightFunction) (arguments : List Value) (m : Machine) :
    Except Value Value × Machine → Prop
  /-- It throws before it has asked anything. -/
  | unasked {e : Value} {n : Machine} (conversion : Follows outside.hold m n) (nothing : ∀ q k, ¬ Asks call outside f arguments m q k)
    (converted : (f.inquiry call arguments).run outside m = (.error e, n)) :
    Proxied call outside f arguments m (.error e, n.mark (.light ⟨f, arguments, .unasked⟩))
  /-- The scene refuses, and what it refuses with is thrown. -/
  | refused {q : Inquiry} {n : Machine} {fault : Fault} {e : Value} {memory : Memory}
    (conversion : Follows outside.hold m n) (asks : Asks call outside f arguments m q n)
    (answer : n.scene.consult outside.hold q = .error fault) (thrown : memory.IsFault e fault) :
    Proxied call outside f arguments m
      (.error e, { n.mark (.light ⟨f, arguments, .asked q (.error fault)⟩) with memory })
  /-- The scene says something, which is returned. -/
  | answered {q : Inquiry} {n : Machine} {reading : Reading} {scene : Store} {v : Value} {memory : Memory}
    (conversion : Follows outside.hold m n) (asks : Asks call outside f arguments m q n)
    (answer : n.scene.consult outside.hold q = .ok (reading, scene)) (shown : f.Shows memory reading v) :
    Proxied call outside f arguments m
      (.ok v, { n.mark (.light ⟨f, arguments, .asked q (.ok reading)⟩) with memory, scene })

theorem LightFunction.run_of_asked {f : LightFunction} {call : Call} {arguments : List Value} {outside : Outside}
    {m n : Machine} {q : Inquiry} (converted : (f.inquiry call arguments).run outside m = (.ok q, n)) :
    (f.run call arguments).run outside m = (do
      match ← Run.consult f arguments q with
      | .ok reading => f.value reading
      | .error fault => Run.throwFault fault).run outside n := by
  have passed : ((f.inquiry call arguments).recover fun e => do
      Run.unasked f arguments
      Run.fail e).run outside m = (.ok q, n) := by
    simp only [Run.recover, converted]
  exact Run.bind_ok passed _

theorem LightFunction.run_of_unasked {f : LightFunction} {call : Call} {arguments : List Value} {outside : Outside}
    {m n : Machine} {e : Value} (converted : (f.inquiry call arguments).run outside m = (.error e, n)) :
    (f.run call arguments).run outside m = (.error e, n.mark (.light ⟨f, arguments, .unasked⟩)) := by
  have thrown : ((f.inquiry call arguments).recover fun e => do
      Run.unasked f arguments
      Run.fail e).run outside m = (.error e, n.mark (.light ⟨f, arguments, .unasked⟩)) := by
    simp only [Run.recover, converted]
    rfl
  exact Run.bind_error thrown _

theorem LightFunction.run_proxied (f : LightFunction) (call : Call) (arguments : List Value) (outside : Outside)
    (m : Machine) : Proxied call outside f arguments m ((f.run call arguments).run outside m) := by
  have conversion := (f.inquiry call arguments).follows outside m
  cases ran : (f.inquiry call arguments).run outside m with
  | mk result n =>
    rw [ran] at conversion
    cases result with
    | error e =>
      -- Had the arguments asked something, their conversion would have given it.
      have nothing : ∀ q k, ¬ Asks call outside f arguments m q k := by
        intro q k asks
        rw [inquiry_of_asks asks] at ran
        cases ran
      rw [run_of_unasked ran]
      exact .unasked conversion nothing ran
    | ok q =>
      have asks := asks_of_inquiry ran
      rw [run_of_asked ran]
      cases answer : n.scene.consult outside.hold q with
      | error fault =>
        have asked : (Run.consult f arguments q).run outside n =
            (.ok (.error fault), n.mark (.light ⟨f, arguments, .asked q (.error fault)⟩)) := by
          simp only [Run.consult, Machine.consult, answer]
        rw [Run.bind_ok asked]
        obtain ⟨e, memory, thrown, made⟩ := Run.throwFault_run (α := Value) fault outside
          (n.mark (.light ⟨f, arguments, .asked q (.error fault)⟩))
        rw [thrown]
        exact .refused conversion asks answer made
      | ok told =>
        obtain ⟨reading, scene⟩ := told
        have asked : (Run.consult f arguments q).run outside n = (.ok (.ok reading),
            { n.mark (.light ⟨f, arguments, .asked q (.ok reading)⟩) with scene }) := by
          simp only [Run.consult, Machine.consult, answer]
          rfl
        rw [Run.bind_ok asked]
        obtain ⟨v, memory, shown, shows⟩ := value_run asks (Store.consult_eq_ok_iff.mp answer).2
          { n.mark (.light ⟨f, arguments, .asked q (.ok reading)⟩) with scene }
        rw [shown]
        exact .answered conversion asks answer shows

/-- A kind that is none is thrown as a fault of the scene, which is not asked. -/
theorem LightFunction.create_unknownKind {t : Units} {spelling : String} (text : t.decode = .ok spelling)
    (unknown : LightKind.ofName? spelling = none) {rest : List Value}
    (named : rest = [] ∨ ∃ u name others, rest = .text u :: others ∧ u.decode = .ok name) (call : Call) (outside : Outside)
    (m : Machine) :
    ∃ e memory, (create.run call (.text t :: rest)).run outside m =
        (.error e, { m with memory }.mark (.light ⟨.create, .text t :: rest, .unasked⟩)) ∧
      memory.IsFault e (.scene (.unknownKind spelling)) := by
  have texts {t : Units} {s : String} (text : t.decode = .ok s) :
      (Run.orThrow (Convert.text (.text t))).run outside m = (.ok s, m) :=
    Run.orThrow_eq_ok_iff.mpr (Convert.text_eq_ok_iff.mpr ⟨⟨t, rfl, text⟩, rfl⟩)
  obtain ⟨e, memory, thrown, made⟩ :=
    Run.throwFault_run (α := LightKind) (.scene (.unknownKind spelling)) outside m
  have parsed : (Run.kindOf spelling).run outside m = (.error e, { m with memory }) := by
    simpa only [Run.kindOf, LightKind.parse, unknown] using thrown
  have converted : (create.inquiry call (.text t :: rest)).run outside m = (.error e, { m with memory }) := by
    rcases named with rfl | ⟨u, name, others, rfl, decoded⟩
    · exact (Run.bind_ok (texts text) _).trans (Run.bind_error parsed _)
    · exact (Run.bind_ok (texts text) _).trans ((Run.bind_ok (texts decoded) _).trans (Run.bind_error parsed _))
  refine ⟨e, memory, ?_, made⟩
  refine Run.bind_error ?_ _
  simp only [Run.recover, converted]
  rfl

/-- A guest that is given a light's id has a handle for that light and for no other. Ids from the half of a word on
reach it with a sign, and are handles for none. -/
theorem Value.designates_ofWord_iff {id other : LightId} :
    (Run.ofWord id.raw).Designates other ↔ other = id ∧ id.raw ≠ 0 ∧ id.raw.toNat < 2147483648 := by
  obtain ⟨raw⟩ := id
  obtain ⟨otherRaw⟩ := other
  have size := raw.toNat_lt
  unfold Value.Designates Run.ofWord
  rw [number?_ofInt]
  by_cases small : raw.toNat < 2147483648
  · simp only [small, if_true, Option.some.injEq, exists_eq_left']
    rw [Convert.wholeOf_ofInt (by unfold Convert.largest; omega), UInt32.ofNat_toNat]
    simp only [Except.ok.injEq, LightId.mk.injEq, and_true]
    constructor
    · rintro ⟨some, rfl⟩
      exact ⟨rfl, some⟩
    · rintro ⟨rfl, some⟩
      exact ⟨some, rfl⟩
  · -- The id is shown as a negative number, which no conversion to a handle takes.
    have negative : (raw.toNat : ℤ) - 4294967296 = -((4294967296 - raw.toNat : Nat) : ℤ) := by omega
    simp only [small, if_false, Option.some.injEq, exists_eq_left', and_false, iff_false]
    rw [negative, Convert.wholeOf_neg (by omega) (by unfold Convert.largest; omega)]
    nofun

end ScriptedScene.Guest
