import ScriptedScene.Guest.Invoke

/-! What becomes of a memory as objects are made and their properties are written. A piece of the host's own code makes
new objects and writes to one that it knows; all others stay as they are. -/
namespace ScriptedScene.Guest

/-- A property that a value is kept in, for which another may be put. -/
def Property.Open (p : Property) : Prop := ∃ v, p.contents = .data v true

namespace Object
variable {o : Object} {key other : Units} {p : Property} {entries : List (Units × Property)}

theorem lookup_entry : ((key, p) :: entries).lookup other = if other = key then some p else entries.lookup other := by
  by_cases same : other = key
  · rw [if_pos same, List.lookup_cons, beq_iff_eq.mpr same]
  · rw [if_neg same, List.lookup_cons, beq_eq_false_iff_ne.mpr same]

theorem lookup_putEntry : (putEntry key p entries).lookup other = if other = key then some p else entries.lookup other := by
  induction entries with
  | nil => exact lookup_entry
  | cons entry rest ih =>
    obtain ⟨k, q⟩ := entry
    rw [putEntry]
    split
    · subst k
      rw [lookup_entry, lookup_entry]
      split <;> rfl
    · rw [lookup_entry, lookup_entry, ih]
      split
      · rw [if_neg (‹other = k› ▸ ‹¬ k = key›)]
      · rfl

theorem lookup_of_new (new : key ∉ entries.map Prod.fst) : entries.lookup key = none := by
  rw [List.lookup_eq_none_iff]
  intro entry member
  have other : key ≠ entry.1 := fun same => new (same ▸ List.mem_map_of_mem member)
  exact bne_iff_ne.mpr other

theorem putEntry_of_new (new : key ∉ entries.map Prod.fst) : putEntry key p entries = entries ++ [(key, p)] := by
  induction entries with
  | nil => rfl
  | cons entry rest ih =>
    obtain ⟨k, q⟩ := entry
    rw [List.map_cons, List.mem_cons, not_or] at new
    rw [putEntry, if_neg (Ne.symm new.1), ih new.2]
    rfl

theorem own?_of_plain (plain : o.role = .plain) (key : Units) : o.own? key = o.properties.lookup key := by
  simp only [own?, plain]

theorem put_role (plain : o.role = .plain) : (o.put key p).role = .plain := by
  simp only [put, plain, grownRole]

theorem callable?_of_plain (plain : o.role = .plain) : o.callable? = none := by
  simp only [callable?, plain]

/-- A property as an assignment leaves it on an object. -/
def assigned (o : Object) (key : Units) (v : Value) : Property :=
  match o.own? key with
  | some p => { p with contents := .data v true }
  | none => .plain v

theorem assigned_contents (o : Object) (key : Units) (v : Value) : (o.assigned key v).contents = .data v true := by
  unfold assigned
  split <;> rfl

end Object

namespace Memory

/-- There is an object at a place. -/
def Has (m : Memory) (r : Ref) : Prop := r.index < m.heap.size

/-- The place of the next object. -/
def next (m : Memory) : Ref := ⟨m.heap.size⟩

def added (m : Memory) (o : Object) : Memory := { m with heap := m.heap.push o }

def revised (m : Memory) (r : Ref) (f : Object → Object) : Memory := { m with heap := m.heap.modify r.index f }

/-- All objects of a memory are in another as they were, but for one. -/
structure Keeps (m : Memory) (but : Ref) (n : Memory) : Prop where
  size : m.heap.size ≤ n.heap.size
  object : ∀ r, m.Has r → r ≠ but → n.object r = m.object r

variable {m n k : Memory} {r s but : Ref} {o : Object} {f : Object → Object} {key : Units} {p : Property}

theorem next_not_has (m : Memory) : ¬ m.Has m.next := Nat.lt_irrefl _

theorem Has.ne_next (has : m.Has r) : r ≠ m.next := fun same => m.next_not_has (same ▸ has)

theorem added_has_next (m : Memory) (o : Object) : (m.added o).Has m.next := by
  simp [Has, added, next]

theorem added_object_next (m : Memory) (o : Object) : (m.added o).object m.next = o := by
  simp [Memory.object, added, next]

theorem revised_has : (m.revised r f).Has s ↔ m.Has s := by
  simp [Has, revised]

theorem revised_object (has : m.Has r) : (m.revised r f).object r = f (m.object r) := by
  have bound : r.index < m.heap.size := has
  simp [Memory.object, revised, Array.getElem_modify, bound]

namespace Keeps

theorem refl (m : Memory) (but : Ref) : m.Keeps but m := ⟨Nat.le_refl _, fun _ _ _ => rfl⟩

theorem has (h : m.Keeps but n) (has : m.Has r) : n.Has r := Nat.lt_of_lt_of_le has h.size

theorem trans (h : m.Keeps but n) (further : n.Keeps but k) : m.Keeps but k where
  size := Nat.le_trans h.size further.size
  object r has ne := (further.object r (h.has has) ne).trans (h.object r has ne)

/-- An object that was made in between may change. -/
theorem trans_new (h : m.Keeps but n) (new : ¬ m.Has s) (further : n.Keeps s k) : m.Keeps but k where
  size := Nat.le_trans h.size further.size
  object r has ne := by
    have old : r ≠ s := fun same => new (same ▸ has)
    exact (further.object r (h.has has) old).trans (h.object r has ne)

theorem added (m : Memory) (but : Ref) (o : Object) : m.Keeps but (m.added o) where
  size := by simp [Memory.added]
  object r has _ := by
    have bound : r.index < m.heap.size := has
    simp [Memory.object, Memory.added, Array.getElem?_push, Nat.ne_of_lt bound]

theorem revised (m : Memory) (r : Ref) (f : Object → Object) : m.Keeps r (m.revised r f) where
  size := by simp [Memory.revised]
  object s has ne := by
    have bound : s.index < m.heap.size := has
    have apart : r.index ≠ s.index := fun same => ne (congrArg Ref.mk same.symm)
    simp [Memory.object, Memory.revised, Array.getElem_modify, bound, apart]

end Keeps

/-- A value was assigned to a plain object under a key. -/
structure Written (m : Memory) (r : Ref) (key : Units) (v : Value) (n : Memory) : Prop where
  keeps : m.Keeps r n
  plain : (n.object r).role = .plain
  prototype : (n.object r).prototype = (m.object r).prototype
  own : ∃ p, p.contents = .data v true ∧ (n.object r).properties.lookup key = some p
  others : ∀ other, other ≠ key → (n.object r).properties.lookup other = (m.object r).properties.lookup other

/-- A value is written by putting a property that keeps it. -/
theorem written_put {v : Value} (has : m.Has r) (plain : (m.object r).role = .plain) (data : p.contents = .data v true) :
    m.Written r key v (m.revised r (·.put key p)) := by
  refine ⟨.revised m r _, ?_, ?_, ?_, ?_⟩ <;> rw [revised_object has]
  · exact Object.put_role plain
  · rfl
  · exact ⟨p, data, Object.lookup_putEntry.trans (if_pos rfl)⟩
  · intro other ne
    exact Object.lookup_putEntry.trans (if_neg ne)

/-- A plain object has what it does not have itself from its prototype. -/
theorem findFrom_of_plain (plain : (m.object r).role = .plain) (key : Units) (bound : Nat) :
    m.findFrom key (bound + 1) r =
      ((m.object r).properties.lookup key).or ((m.object r).prototype.bind (m.findFrom key bound)) := by
  have final : (m.object r).isFinal key = false := by simp only [Object.isFinal, plain]
  rw [findFrom, Object.own?_of_plain plain, final]
  cases (m.object r).properties.lookup key with
  | some p => rfl
  | none => cases (m.object r).prototype <;> rfl

theorem find?_of_own (plain : (m.object r).role = .plain) (own : (m.object r).properties.lookup key = some p) :
    m.find? r key = some p := by
  rw [find?, findFrom_of_plain plain, own]
  rfl

/-- A value is kept where a key is found. -/
def Finds (m : Memory) (r : Ref) (key : Units) (v : Value) : Prop :=
  ∃ p writable, m.find? r key = some p ∧ p.contents = .data v writable

theorem Written.finds {v : Value} (written : m.Written r key v n) : n.Finds r key v := by
  obtain ⟨p, data, own⟩ := written.own
  exact ⟨p, true, find?_of_own written.plain own, data⟩

theorem has_of_callable {f : Callable} (callable : m.callable? (.object r) = some f) : m.Has r := by
  refine Nat.lt_of_not_le fun bound => ?_
  have missing : m.object r = default := by simp [Memory.object, bound]
  rw [callable?, missing] at callable
  cases callable

/-- A function stays one while an object is written to that is none. -/
theorem Keeps.callable? {f : Callable} (h : m.Keeps but n) (plain : (m.object but).role = .plain)
    (callable : m.callable? (.object r) = some f) : n.callable? (.object r) = some f := by
  have other : r ≠ but := by
    rintro rfl
    rw [Memory.callable?, Object.callable?_of_plain plain] at callable
    cases callable
  have same := h.object r (has_of_callable callable) other
  rw [Memory.callable?, same]
  exact callable

end Memory

namespace Run
variable (call : Call) (outside : Outside) {m : Machine} {r : Ref} {key : Units} {v : Value}

theorem alloc_eq (o : Object) (outside : Outside) (m : Machine) :
    (alloc o).run outside m = (.ok m.memory.next, { m with memory := m.memory.added o }) := rfl

theorem object_eq (r : Ref) (outside : Outside) (m : Machine) :
    (object r).run outside m = (.ok (m.memory.object r), m) := rfl

theorem find?_eq (r : Ref) (key : Units) (outside : Outside) (m : Machine) :
    (ask (·.find? r key)).run outside m = (.ok (m.memory.find? r key), m) := rfl

/-- A value that an object has or inherits is read without calling anything. -/
theorem get_of_finds (finds : m.memory.Finds r key v) : (get call (.object r) key).run outside m = (.ok v, m) := by
  obtain ⟨p, writable, found, data⟩ := finds
  unfold get
  dsimp only
  rw [bind_ok (find?_eq r key outside m), found]
  simp only [readProperty, data]
  rfl

/-- Where nothing stands in the way of an assignment to a plain object, it is made on the object itself. -/
theorem setOn_of_open (strict : Bool) (plain : (m.memory.object r).role = .plain)
    (opens : ∀ p, m.memory.find? r key = some p → p.Open) :
    (setOn call strict r key v).run outside m =
      (.ok (), { m with memory := m.memory.revised r (·.put key ((m.memory.object r).assigned key v)) }) := by
  have final : (m.memory.object r).isFinal key = false := by simp only [Object.isFinal, plain]
  have own := Object.own?_of_plain plain key
  unfold setOn
  rw [bind_ok (object_eq r outside m)]
  unfold Object.assigned
  cases mine : (m.memory.object r).own? key with
  | some p =>
    obtain ⟨old, contents⟩ := opens p (Memory.find?_of_own plain (own.symm.trans mine))
    have length : isLengthOf (m.memory.object r) key = false := by simp only [isLengthOf, plain]
    have stored : storedIn call (m.memory.object r) key v = return v := by simp only [storedIn, plain]
    simp only [overwrite, length, Bool.false_eq_true, if_false, contents, stored]
    rfl
  | none =>
    have full : (m.memory.object r).isFull key = false := by simp only [Object.isFull, plain]
    have add : (addOn strict r key v).run outside m =
        (.ok (), { m with memory := m.memory.revised r (·.put key (.plain v)) }) := by
      unfold addOn
      rw [bind_ok (object_eq r outside m), full]
      rfl
    dsimp only
    rw [final, if_neg Bool.false_ne_true, bind_ok (find?_eq r key outside m)]
    cases found : m.memory.find? r key with
    | none => exact add
    | some p =>
      obtain ⟨contents, enumerable, configurable⟩ := p
      obtain ⟨old, rfl⟩ := opens _ found
      exact add

/-- As `setOn_of_open`, of what is on the object afterwards. -/
theorem setOn_written (strict : Bool) (has : m.memory.Has r) (plain : (m.memory.object r).role = .plain)
    (opens : ∀ p, m.memory.find? r key = some p → p.Open) :
    ∃ n, (setOn call strict r key v).run outside m = (.ok (), { m with memory := n }) ∧ m.memory.Written r key v n :=
  ⟨_, setOn_of_open call outside strict plain opens,
    Memory.written_put has plain (Object.assigned_contents (m.memory.object r) key v)⟩

/-- What becomes of an assignment that is not made on the object itself. -/
def divert (call : Call) (strict : Bool) (r : Ref) (key : Units) (v : Value) : Contents → Run Unit
  | .accessor _ setter => callSetter call strict (.object r) v setter
  | _ => refuse strict (.readOnly key)

/-- A value that stays and functions behind a key stand in the way of an assignment, wherever an object has them from. -/
theorem setOn_of_taken (strict : Bool) {p : Property} (plain : (m.memory.object r).role = .plain)
    (found : m.memory.find? r key = some p) (taken : ¬ p.Open) (unshared : ∀ id, p.contents ≠ .shared id) :
    (setOn call strict r key v).run outside m = (divert call strict r key v p.contents).run outside m := by
  have own := Object.own?_of_plain plain key
  have final : (m.memory.object r).isFinal key = false := by simp only [Object.isFinal, plain]
  have length : isLengthOf (m.memory.object r) key = false := by simp only [isLengthOf, plain]
  obtain ⟨contents, enumerable, configurable⟩ := p
  unfold setOn
  rw [bind_ok (object_eq r outside m)]
  cases mine : (m.memory.object r).own? key with
  | some q =>
    obtain rfl := Option.some.inj ((Memory.find?_of_own plain (own.symm.trans mine)).symm.trans found)
    cases contents with
    | data v writable =>
      cases writable with
      | false => simp only [overwrite, length, Bool.false_eq_true, if_false, divert]
      | true => exact absurd ⟨v, rfl⟩ taken
    | shared id => exact absurd rfl (unshared id)
    | accessor getter setter => simp only [overwrite, length, Bool.false_eq_true, if_false, divert]
  | none =>
    dsimp only
    rw [final, if_neg Bool.false_ne_true, bind_ok (find?_eq r key outside m), found]
    cases contents with
    | data v writable =>
      cases writable with
      | false => rfl
      | true => exact absurd ⟨v, rfl⟩ taken
    | shared id => exact absurd rfl (unshared id)
    | accessor getter setter => rfl

end Run

end ScriptedScene.Guest
