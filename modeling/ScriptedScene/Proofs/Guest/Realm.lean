import ScriptedScene.Proofs.Guest.Lights
import ScriptedScene.Proofs.Guest.Objects

/-! What the global object and plain objects have from the start, and what can be set on them. All values there can be
replaced but three of the global object, and one key that all plain objects inherit does not hold a value: it tells
their prototypes and takes others. -/
namespace ScriptedScene.Guest

namespace Units

theorem ofChar_append_inj {c d : Char} {cs ds : List UInt16} (same : ofChar c ++ cs = ofChar d ++ ds) :
    c = d ∧ cs = ds := by
  have left : c.toNat < 0xD800 ∨ 0xDFFF < c.toNat ∧ c.toNat < 0x110000 := c.valid
  have right : d.toNat < 0xD800 ∨ 0xDFFF < d.toNat ∧ d.toNat < 0x110000 := d.valid
  suffices c.toNat = d.toNat ∧ cs = ds from ⟨Char.toNat_inj.mp this.1, this.2⟩
  unfold ofChar at same
  dsimp only at same
  -- A first unit that is no surrogate is a character by itself.
  split at same <;> split at same <;>
    simp only [List.cons_append, List.nil_append, List.cons.injEq, ← UInt16.toNat_inj, UInt16.toNat_ofNat'] at same
  · exact ⟨by omega, same.2⟩
  · omega
  · omega
  · exact ⟨by omega, same.2.2⟩

/-- Different texts have different units. -/
theorem ofString_inj {s t : String} : ofString s = ofString t ↔ s = t := by
  constructor
  · intro same
    have units : s.toList.flatMap ofChar = t.toList.flatMap ofChar := congrArg Units.list same
    suffices ∀ cs ds : List Char, cs.flatMap ofChar = ds.flatMap ofChar → cs = ds from
      String.toList_inj.mp (this _ _ units)
    have some (c : Char) : ofChar c ≠ [] := by
      unfold ofChar
      dsimp only
      split <;> simp
    intro cs
    induction cs with
    | nil =>
      intro ds same
      cases ds with
      | nil => rfl
      | cons d ds => simp [some] at same
    | cons c cs ih =>
      intro ds same
      cases ds with
      | nil => simp [some] at same
      | cons d ds =>
        obtain ⟨rfl, rest⟩ := ofChar_append_inj same
        rw [ih ds rest]
  · exact congrArg ofString

end Units

/-- A plain object with a prototype; all values that it has itself can be replaced, but for some keys. -/
structure Object.Writable (o : Object) (prototype : Option Ref) (but : List Units) : Prop where
  plain : o.role = .plain
  prototype : o.prototype = prototype
  opens : ∀ key p, o.properties.lookup key = some p → key ∉ but → p.Open

/-- The key under which plain objects are told their prototype and take another. -/
def prototypeAccess : Units := "__proto__"

/-- The realm's own functions are behind that key. -/
structure Memory.Access (m : Memory) (getter setter : Ref) : Prop where
  property : (m.object (Intrinsic.ref .objectPrototype)).properties.lookup prototypeAccess =
    some (.computed (some getter) (some setter))
  gets : m.callable? (.object getter) = some (.builtin .prototypeGetter)
  sets : m.callable? (.object setter) = some (.builtin .prototypeSetter)

/-- What plain objects inherit: values that they can have others in place of, and the functions behind one key. -/
structure Memory.Rooted (m : Memory) : Prop where
  has : m.Has (Intrinsic.ref .objectPrototype)
  writable : (m.object (Intrinsic.ref .objectPrototype)).Writable none [prototypeAccess]
  access : ∃ getter setter, m.Access getter setter

namespace Realm

/-- The names of the global object whose values cannot be replaced. -/
def fixedNames : List String := ["undefined", "NaN", "Infinity"]

/-- Whether an object is plain and its values can be replaced but for some keys. -/
def isWritable (o : Object) (but : List Units) : Bool :=
  match o.role with
  | .plain =>
    o.properties.all fun (key, p) =>
      match p.contents with
      | .data _ true => true
      | _ => but.contains key
  | _ => false

theorem writable_of_isWritable {o : Object} {but : List Units} (writable : isWritable o but = true) :
    o.Writable o.prototype but := by
  unfold isWritable at writable
  split at writable
  · refine ⟨‹_›, rfl, ?_⟩
    intro key p found other
    have member : (key, p) ∈ o.properties := by
      obtain ⟨before, after, entries, -⟩ := List.lookup_eq_some_iff.mp found
      simp [entries]
    have entry := List.all_eq_true.mp writable _ member
    dsimp only at entry
    split at entry
    · exact ⟨_, ‹_›⟩
    · exact absurd (by simpa using entry) other
  · cases writable

def hasAccess (m : Memory) : Bool :=
  match (m.object (Intrinsic.ref .objectPrototype)).properties.lookup prototypeAccess with
  | some ⟨.accessor (some getter) (some setter), false, true⟩ =>
    match m.callable? (.object getter), m.callable? (.object setter) with
    | some (.builtin .prototypeGetter), some (.builtin .prototypeSetter) => true
    | _, _ => false
  | _ => false

theorem access_of_hasAccess {m : Memory} (access : hasAccess m = true) : ∃ getter setter, m.Access getter setter := by
  unfold hasAccess at access
  split at access
  · split at access
    · exact ⟨_, _, ‹_›, ‹_›, ‹_›⟩
    · cases access
  · cases access

/-- What the host relies on when it makes its own names global. -/
structure Sound (m : Memory) : Prop where
  rooted : m.Rooted
  has : m.Has (Intrinsic.ref .global)
  writable : (m.object (Intrinsic.ref .global)).Writable (some (Intrinsic.ref .objectPrototype))
    (fixedNames.map Units.ofString)
  fixed : ∀ name ∈ fixedNames, ∃ p v,
    (m.object (Intrinsic.ref .global)).properties.lookup (.ofString name) = some p ∧ p.contents = .data v false
  tag : (m.object (Intrinsic.ref .global)).tag.isSome
  /-- The host's own name for the console is not taken, and the global object's prototype is told as any other's. -/
  new : ∀ key ∈ [prototypeAccess, .ofString "console"],
    (m.object (Intrinsic.ref .global)).properties.lookup key = none
  inherited : (m.object (Intrinsic.ref .objectPrototype)).properties.lookup (.ofString "console") = none

def isSound (m : Memory) : Bool :=
  let global := m.object (Intrinsic.ref .global)
  let root := m.object (Intrinsic.ref .objectPrototype)
  (Intrinsic.ref .objectPrototype).index < m.heap.size && isWritable root [prototypeAccess] && root.prototype.isNone &&
    hasAccess m && (Intrinsic.ref .global).index < m.heap.size && isWritable global (fixedNames.map Units.ofString) &&
    global.prototype == some (Intrinsic.ref .objectPrototype) &&
    fixedNames.all (fun name =>
      (global.properties.lookup (.ofString name)).any fun p => match p.contents with | .data _ false => true | _ => false) &&
    global.tag.isSome && [prototypeAccess, .ofString "console"].all (fun key => (global.properties.lookup key).isNone) &&
    (root.properties.lookup (.ofString "console")).isNone

theorem sound_of_isSound {m : Memory} (sound : isSound m = true) : Sound m := by
  simp only [isSound, Bool.and_eq_true, decide_eq_true_eq, Option.isNone_iff_eq_none, beq_iff_eq, List.all_eq_true] at sound
  obtain ⟨⟨⟨⟨⟨⟨⟨⟨⟨⟨hasRoot, root⟩, ends⟩, access⟩, has⟩, writable⟩, prototype⟩, fixed⟩, tag⟩, new⟩, inherited⟩ := sound
  refine ⟨⟨hasRoot, ends ▸ writable_of_isWritable root, access_of_hasAccess access⟩, has,
    prototype ▸ writable_of_isWritable writable, ?_, tag, new, inherited⟩
  intro name member
  obtain ⟨p, found, contents⟩ := Option.any_eq_true _ _ |>.mp (fixed name member)
  split at contents
  · exact ⟨p, _, found, ‹_›⟩
  · cases contents

theorem sound : Sound memory := sound_of_isSound (by decide +kernel)

end Realm

variable {m n : Memory} {r but parent : Ref} {key : Units} {p : Property}

namespace Memory

theorem Rooted.keep (rooted : m.Rooted) (h : m.Keeps but n) (plain : (m.object but).role = .plain)
    (other : Intrinsic.ref .objectPrototype ≠ but) : n.Rooted := by
  have same := h.object _ rooted.has other
  obtain ⟨getter, setter, access⟩ := rooted.access
  refine ⟨h.has rooted.has, ?_, getter, setter, ?_, h.callable? plain access.gets, h.callable? plain access.sets⟩
  · rw [same]
    exact rooted.writable
  · rw [same]
    exact access.property

theorem Rooted.ne (rooted : m.Rooted) (prototype : (m.object r).prototype = some parent) :
    Intrinsic.ref .objectPrototype ≠ r := by
  rintro rfl
  rw [rooted.writable.prototype] at prototype
  cases prototype

theorem Rooted.findFrom (rooted : m.Rooted) (key : Units) (bound : Nat) :
    m.findFrom key (bound + 1) (Intrinsic.ref .objectPrototype) =
      (m.object (Intrinsic.ref .objectPrototype)).properties.lookup key := by
  rw [findFrom_of_plain rooted.writable.plain, rooted.writable.prototype]
  exact Option.or_none

/-- What a plain object has that inherits from where plain objects do. -/
theorem Rooted.find? (rooted : m.Rooted) (plain : (m.object r).role = .plain)
    (prototype : (m.object r).prototype = some (Intrinsic.ref .objectPrototype)) (key : Units) :
    m.find? r key = ((m.object r).properties.lookup key).or
      ((m.object (Intrinsic.ref .objectPrototype)).properties.lookup key) := by
  obtain ⟨bound, size⟩ := Nat.exists_eq_succ_of_ne_zero (Nat.ne_zero_of_lt rooted.has)
  rw [Memory.find?, findFrom_of_plain plain, prototype, size]
  exact congrArg _ (rooted.findFrom key bound)

/-- What a plain object has that inherits from one of those. -/
theorem Rooted.find?_second (rooted : m.Rooted) (plain : (m.object r).role = .plain)
    (prototype : (m.object r).prototype = some parent) (second : (m.object parent).role = .plain)
    (further : (m.object parent).prototype = some (Intrinsic.ref .objectPrototype)) (key : Units) :
    m.find? r key = ((m.object r).properties.lookup key).or (((m.object parent).properties.lookup key).or
      ((m.object (Intrinsic.ref .objectPrototype)).properties.lookup key)) := by
  have two : 1 < m.heap.size := rooted.has
  obtain ⟨bound, size⟩ : ∃ bound, m.heap.size = bound + 1 + 1 := ⟨m.heap.size - 2, by omega⟩
  rw [Memory.find?, findFrom_of_plain plain, prototype, size, Option.bind_some, findFrom_of_plain second, further]
  exact congrArg (fun found => Option.or _ (Option.or _ found)) (rooted.findFrom key bound)

/-- Nothing stands in the way of an assignment to an object where the keys are left out that cannot be written. -/
theorem Rooted.opens (rooted : m.Rooted) {but : List Units}
    (writable : (m.object r).Writable (some (Intrinsic.ref .objectPrototype)) but) (free : key ∉ but)
    (other : key ≠ prototypeAccess) : ∀ p, m.find? r key = some p → p.Open := by
  intro p found
  rw [rooted.find? writable.plain writable.prototype, Option.or_eq_some_iff] at found
  rcases found with own | ⟨-, inherited⟩
  · exact writable.opens key p own free
  · exact rooted.writable.opens key p inherited (by simpa using other)

theorem Written.writable {v : Value} {but : List Units} (written : m.Written r key v n)
    (writable : (m.object r).Writable (some parent) but) : (n.object r).Writable (some parent) but where
  plain := written.plain
  prototype := written.prototype.trans writable.prototype
  opens other p found free := by
    by_cases same : other = key
    · subst same
      obtain ⟨q, data, own⟩ := written.own
      exact Option.some.inj (own.symm.trans found) ▸ ⟨v, data⟩
    · exact writable.opens other p (written.others other same ▸ found) free

/-- The chain of a plain object that inherits from where plain objects do ends there. -/
theorem Rooted.chainMeets (rooted : m.Rooted) {target : Ref} (other : r ≠ target)
    (root : Intrinsic.ref .objectPrototype ≠ target)
    (prototype : (m.object r).prototype = some (Intrinsic.ref .objectPrototype)) :
    m.chainMeets target (m.heap.size + 1) r = false := by
  obtain ⟨bound, size⟩ := Nat.exists_eq_succ_of_ne_zero (Nat.ne_zero_of_lt rooted.has)
  simp only [size, Memory.chainMeets, prototype, rooted.writable.prototype, other, root, decide_false, Bool.or_false]

end Memory

namespace Run
variable {outside : Outside} {m : Machine} {getter setter : Ref} {f this : Value} {arguments : List Value}

theorem traced_of_ok {α : Type} {x : Run α} {a : α} {n : Machine} (run : x.run outside m = (.ok a, n)) :
    (traced x).run outside m = (.ok a, n) := by
  simp only [traced, recover, run]

theorem call_of_builtin {b : Builtin} (callable : m.memory.callable? f = some (.builtin b)) (depth : Nat) (outside : Outside) :
    ((Calls.ofDepth (depth + 1)).call f this arguments).run outside m =
      (traced (b.run (Calls.ofDepth depth).call this arguments)).run outside.deeper
        (m.mark (.called outside.depth f this arguments)) := by
  have looked : (ask (·.callable? f)).run outside.deeper (m.mark (.called outside.depth f this arguments)) =
      (.ok (some (.builtin b)), m.mark (.called outside.depth f this arguments)) :=
    congrArg (fun callable => (Except.ok callable, _)) callable
  change (Calls.callValue (Calls.ofDepth depth) f this arguments).run outside.deeper _ = _
  unfold Calls.callValue
  rw [bind_ok looked]

/-- What cannot be replaced stands in the way of an assignment. -/
theorem setOn_of_fixed (call : Call) (outside : Outside) (plain : (m.memory.object r).role = .plain)
    (own : (m.memory.object r).properties.lookup key = some p) {old : Value} (fixed : p.contents = .data old false)
    (v : Value) : ∃ e n, (setOn call true r key v).run outside m = (.error e, n) := by
  obtain ⟨e, memory, thrown, -⟩ := throwFault_run (α := Unit) (.readOnly key) outside m
  have taken : ¬ p.Open := by simp [Property.Open, fixed]
  have diverted := setOn_of_taken call outside true (v := v) plain (Memory.find?_of_own plain own) taken (by simp [fixed])
  rw [fixed] at diverted
  exact ⟨e, _, diverted.trans thrown⟩

theorem call_zero (f this : Value) (arguments : List Value) (outside : Outside) (m : Machine) :
    ∃ e n, ((Calls.ofDepth 0).call f this arguments).run outside m = (.error e, n) := by
  obtain ⟨e, memory, thrown, -⟩ := throwFault_run (α := Value) .stackOverflow outside.deeper
    (m.mark (.called outside.depth f this arguments))
  exact ⟨e, _, thrown⟩

theorem prototypeOf_eq (prototype : (m.memory.object r).prototype = some parent) (outside : Outside) :
    (Builtin.prototypeOf (.object r)).run outside m = (.ok (.object parent), m) := by
  unfold Builtin.prototypeOf
  rw [bind_ok (rfl : (toObject (.object r)).run outside m = (.ok r, m)), bind_ok (object_eq r outside m), prototype]
  rfl

theorem get_prototype (found : m.memory.find? r prototypeAccess = some (.computed (some getter) (some setter)))
    (gets : m.memory.callable? (.object getter) = some (.builtin .prototypeGetter))
    (prototype : (m.memory.object r).prototype = some parent) (depth : Nat) :
    ((get (Calls.ofDepth (depth + 1)).call (.object r) prototypeAccess).run outside m).1 = .ok (.object parent) := by
  have told := prototypeOf_eq (m := m.mark (.called outside.depth (.object getter) (.object r) [])) prototype outside.deeper
  unfold get
  dsimp only
  rw [bind_ok (find?_eq r prototypeAccess outside m), found]
  simp only [readProperty, Property.computed]
  rw [call_of_builtin gets]
  exact congrArg Prod.fst (traced_of_ok told)

theorem prototypeSetter_eq (apart : m.memory.chainMeets r (m.memory.heap.size + 1) parent = false) (call : Call)
    (outside : Outside) :
    (Builtin.run call .prototypeSetter (.object r) [.object parent]).run outside m =
      (.ok .undefined, { m with memory := m.memory.revised r fun o => { o with prototype := some parent } }) := by
  have circular : (ask fun m => m.chainMeets r (m.heap.size + 1) parent).run outside m = (.ok false, m) :=
    congrArg (fun circular => (Except.ok circular, m)) apart
  have changed : (Builtin.changePrototype (.object r) (.object parent)).run outside m =
      (.ok (), { m with memory := m.memory.revised r fun o => { o with prototype := some parent } }) := by
    change (setPrototype r (some parent)).run outside m = _
    unfold setPrototype
    rw [bind_ok circular]
    rfl
  exact bind_ok changed fun _ => return Value.undefined

/-- A setter takes the assignment over. -/
theorem setOn_of_setter (call : Call) (outside : Outside) (strict : Bool) (plain : (m.memory.object r).role = .plain)
    (found : m.memory.find? r key = some (.computed (some getter) (some setter))) (v : Value) :
    (setOn call strict r key v).run outside m =
      (call (.object setter) (.object r) [v] >>= fun _ => return ()).run outside m :=
  setOn_of_taken call outside strict plain found (by simp [Property.Open, Property.computed]) nofun

/-- What is set under the key for prototypes becomes the prototype, where calls nest at all. -/
theorem setOn_prototype (outside : Outside) (strict : Bool) (plain : (m.memory.object r).role = .plain)
    (found : m.memory.find? r prototypeAccess = some (.computed (some getter) (some setter)))
    (sets : m.memory.callable? (.object setter) = some (.builtin .prototypeSetter))
    (apart : m.memory.chainMeets r (m.memory.heap.size + 1) parent = false) (depth : Nat) :
    ∃ n, (setOn (Calls.ofDepth (depth + 1)).call strict r prototypeAccess (.object parent)).run outside m = (.ok (), n) ∧
      n.memory = m.memory.revised r fun o => { o with prototype := some parent } := by
  have given := prototypeSetter_eq (m := m.mark (.called outside.depth (.object setter) (.object r) [.object parent])) apart
    (Calls.ofDepth depth).call outside.deeper
  have called := (call_of_builtin sets depth outside).trans (traced_of_ok given)
  exact ⟨_, (setOn_of_setter _ outside strict plain found _).trans (bind_ok called _), rfl⟩

end Run
end ScriptedScene.Guest
