import Mathlib.Data.List.Nodup
import Mathlib.Data.List.Perm.Subperm
import ScriptedScene.Proofs.Guest.Objects

/-! An object and those that it inherits from, one from the next, up to one without a prototype. What is found along a
lineage does not change while its objects do not, however many others are made. -/
namespace ScriptedScene.Guest.Memory

/-- So many objects are found from one along the prototypes, all of them in the memory, and the last has none. -/
inductive Lineage (m : Memory) : Ref → Nat → Prop where
  | root {r : Ref} (has : m.Has r) (ends : (m.object r).prototype = none) : Lineage m r 1
  | child {r parent : Ref} {length : Nat} (has : m.Has r) (prototype : (m.object r).prototype = some parent)
      (above : Lineage m parent length) : Lineage m r (length + 1)

namespace Lineage
variable {m n : Memory} {r : Ref} {length other : Nat} {key : Units}

theorem has (lineage : m.Lineage r length) : m.Has r := by
  cases lineage with
  | root has _ => exact has
  | child has _ _ => exact has

theorem unique (lineage : m.Lineage r length) (again : m.Lineage r other) : length = other := by
  induction lineage generalizing other with
  | root has ends =>
    cases again with
    | root _ _ => rfl
    | child _ prototype _ => exact absurd (ends.symm.trans prototype) nofun
  | child has prototype above ih =>
    cases again with
    | root _ ends => exact absurd (ends.symm.trans prototype) nofun
    | child _ also above =>
      obtain rfl := Option.some.inj (prototype.symm.trans also)
      rw [ih above]

/-- No object is met twice, since each has fewer above it than the one before. -/
theorem places (lineage : m.Lineage r length) : ∃ places : List Nat, places.length = length ∧ places.Nodup ∧
    ∀ i ∈ places, i < m.heap.size ∧ ∃ above ≤ length, m.Lineage ⟨i⟩ above := by
  induction lineage with
  | @root r has ends =>
    refine ⟨[r.index], rfl, List.nodup_singleton _, fun i member => ?_⟩
    obtain rfl := List.mem_singleton.mp member
    exact ⟨has, 1, Nat.le_refl 1, .root has ends⟩
  | @child r parent length has prototype above ih =>
    obtain ⟨places, count, distinct, bounded⟩ := ih
    have whole : m.Lineage r (length + 1) := .child has prototype above
    refine ⟨r.index :: places, congrArg (· + 1) count, List.nodup_cons.mpr ⟨fun member => ?_, distinct⟩, ?_⟩
    · obtain ⟨-, fewer, most, again⟩ := bounded _ member
      have same := whole.unique again
      omega
    · intro i member
      rcases List.mem_cons.mp member with rfl | member
      · exact ⟨has, length + 1, Nat.le_refl _, whole⟩
      · obtain ⟨size, fewer, most, above⟩ := bounded i member
        exact ⟨size, fewer, Nat.le_succ_of_le most, above⟩

theorem length_le (lineage : m.Lineage r length) : length ≤ m.heap.size := by
  obtain ⟨places, rfl, distinct, bounded⟩ := lineage.places
  have within : places ⊆ List.range m.heap.size := fun i member => List.mem_range.mpr (bounded i member).1
  simpa using (distinct.subperm within).length_le

theorem findFrom_enough (lineage : m.Lineage r length) {bound : Nat} (enough : length ≤ bound) :
    m.findFrom key bound r = m.findFrom key length r := by
  induction lineage generalizing bound with
  | root has ends =>
    obtain ⟨bound, rfl⟩ := Nat.exists_eq_add_of_le' enough
    simp only [findFrom, ends]
  | child has prototype above ih =>
    obtain ⟨bound, rfl⟩ := Nat.exists_eq_add_of_le' (Nat.le_trans (Nat.succ_le_succ (Nat.zero_le _)) enough)
    simp only [findFrom, prototype, ih (Nat.le_of_succ_le_succ enough)]

theorem findFrom_eq (lineage : m.Lineage r length) (same : ∀ s, m.Has s → n.object s = m.object s) (bound : Nat) :
    n.findFrom key bound r = m.findFrom key bound r := by
  induction lineage generalizing bound with
  | root has ends =>
    cases bound with
    | zero => rfl
    | succ bound => simp only [findFrom, same _ has, ends]
  | child has prototype above ih =>
    cases bound with
    | zero => rfl
    | succ bound => simp only [findFrom, same _ has, prototype, ih]

/-- What an object has or inherits stays while the objects do that there are. -/
theorem find?_eq (lineage : m.Lineage r length) (same : ∀ s, m.Has s → n.object s = m.object s)
    (size : m.heap.size ≤ n.heap.size) : n.find? r key = m.find? r key := by
  have bound := lineage.length_le
  calc n.find? r key
      = m.findFrom key (n.heap.size + 1) r := lineage.findFrom_eq same _
    _ = m.findFrom key length r := lineage.findFrom_enough (by omega)
    _ = m.find? r key := (lineage.findFrom_enough (by omega)).symm

end Lineage
end ScriptedScene.Guest.Memory
