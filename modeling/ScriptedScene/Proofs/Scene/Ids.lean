import ScriptedScene.Proofs.Guest.Lights
import ScriptedScene.Proofs.Json.Records
import ScriptedScene.Proofs.Scene.Index
import ScriptedScene.Scene.Codec

/-! Where ids come from, and what zero as an id would lead to. The place of a light is its id less one, and a word has
nothing below zero: an access with the id zero comes to no result at all, not even to a refusal. A store gives no such id,
and neither does a number or a handle that is taken for one. Reading text does, from one numeral. -/
namespace ScriptedScene
open Guest Json

namespace LightId
variable {id : LightId}

/-- One less than an id, in words of 64 bits. -/
def below? (id : LightId) : Option UInt64 := if 1 ≤ id.raw.toUInt64 then some (id.raw.toUInt64 - 1) else none

theorem below?_eq (id : LightId) : id.below?.map UInt64.toNat = if id.raw = 0 then none else some (id.raw.toNat - 1) := by
  have bound : (1 : UInt64) ≤ id.raw.toUInt64 ↔ id.raw ≠ 0 := by
    rw [UInt64.le_iff_toNat_le, UInt32.toNat_toUInt64, ne_eq, ← UInt32.toNat_inj]
    exact Nat.one_le_iff_ne_zero
  unfold below?
  by_cases zero : id.raw = 0
  · rw [if_neg (mt bound.mp (not_not_intro zero)), if_pos zero, Option.map_none]
  · rw [if_pos (bound.mpr zero), if_neg zero, Option.map_some, UInt64.toNat_sub_of_le _ _ (bound.mpr zero),
      UInt32.toNat_toUInt64]
    rfl

theorem ofRaw?_eq_some_iff {raw : UInt32} : ofRaw? raw = some id ↔ raw ≠ 0 ∧ id.raw = raw := by
  unfold ofRaw?
  constructor
  · intro made
    split at made
    · cases made
    · next nonzero =>
      obtain rfl := Option.some.inj made
      exact ⟨nonzero, rfl⟩
  · rintro ⟨nonzero, rfl⟩
    exact if_neg nonzero

/-- An id is read from its numeral. -/
theorem reads_reader : Reader.Reads reader fun id => IsNatural UInt32.size id.raw.toNat where
  sound {cs rest id} read := by
    obtain ⟨n, mid, number, done⟩ := Reader.bind_eq_ok_iff.mp read
    obtain ⟨rfl, rfl⟩ := Reader.pure_eq_ok_iff.mp done
    obtain ⟨w, v, blank, ⟨small, numeral⟩, same⟩ := (Reader.reads_natural (by decide) _).sound number
    have back : (UInt32.ofNat n).toNat = n := UInt32.toNat_ofNat_of_lt' small
    exact ⟨w, v, blank, ⟨back.symm ▸ small, back.symm ▸ numeral⟩, same⟩
  complete {w v rest id} blank form ends := by
    have number := (Reader.reads_natural (by decide) "u32").complete blank form ends
    refine (Reader.bind_ok number _).trans ?_
    rw [UInt32.ofNat_toNat]
    rfl
  visible form := (Reader.reads_natural (by decide) "u32").visible form

/-- The numeral of zero with blanks around it. -/
def SpellsZero (text : String) : Prop := ∃ w x, Blank w ∧ Blank x ∧ text.toList = w ++ '0' :: x

theorem run_reader_zero_iff {text : String} : Reader.run reader text = .ok ⟨0⟩ ↔ SpellsZero text := by
  rw [reads_reader.run_eq_ok_iff]
  constructor
  · rintro ⟨w, v, x, before, ⟨-, rfl⟩, after, same⟩
    exact ⟨w, x, before, after, same.trans (List.append_assoc ..)⟩
  · rintro ⟨w, x, before, after, same⟩
    exact ⟨w, ['0'], x, before, ⟨by decide, rfl⟩, after, by simpa using same⟩

end LightId

namespace Store
variable {s : Store} {id : LightId}

/-- The place of a light as the subtraction gives it. -/
def slot? (s : Store) (id : LightId) : Option (Except SceneFault Nat) :=
  id.below?.map fun word => if word.toNat < s.size then .ok word.toNat else .error (.unknownLight id)

/-- The light in the place that the subtraction gives. -/
def fetch? (s : Store) (id : LightId) : Option (Except SceneFault Light) :=
  (s.slot? id).map fun slot => slot.bind fun place => (s.lights[place]?).elim (.error (.unknownLight id)) .ok

/-- Changes the light in the place that the subtraction gives; the value is looked at before that. -/
def alter? (s : Store) (id : LightId) (fits : Bool) (misfit : SceneFault) (change : Light → Light) :
    Option (Except SceneFault Store) :=
  if !fits then some (.error misfit)
  else (s.slot? id).map fun slot => slot.map fun place => { s with lights := s.lights.modify place change }

def recolor? (s : Store) (id : LightId) (color : Color) : Option (Except SceneFault Store) :=
  s.alter? id (color.isFinite && !color.least.lt (.zero false)) .invalidColor fun light => { light with color }

def dim? (s : Store) (id : LightId) (intensity : Binary32) : Option (Except SceneFault Store) :=
  s.alter? id (intensity.isFinite && !intensity.lt (.zero false)) (.invalidIntensity intensity)
    fun light => { light with intensity }

theorem slot?_eq (s : Store) (id : LightId) :
    s.slot? id = if id.raw = 0 then none else some ((s.place? id).elim (.error (.unknownLight id)) .ok) := by
  have below := id.below?_eq
  have place : s.slot? id = (id.below?.map UInt64.toNat).map fun n =>
      if n < s.size then .ok n else .error (.unknownLight id) := by
    rw [Option.map_map]
    rfl
  rw [place, below]
  by_cases zero : id.raw = 0
  · simp only [if_pos zero, Option.map_none]
  · have first : 1 ≤ id.raw.toNat := Nat.one_le_iff_ne_zero.mpr fun none => zero (UInt32.toNat_inj.mp none)
    simp only [if_neg zero, Option.map_some, place?, first, decide_true, Bool.true_and, decide_eq_true_eq]
    by_cases inside : id.raw.toNat ≤ s.size
    · rw [if_pos inside, if_pos (by omega), Option.elim_some]
    · rw [if_neg inside, if_neg (by omega), Option.elim_none]

/-- Zero comes to nothing, and all other ids come to what the store answers. -/
theorem fetch?_eq (s : Store) (id : LightId) : s.fetch? id = if id.raw = 0 then none else some (s.light id) := by
  rw [fetch?, slot?_eq]
  by_cases zero : id.raw = 0
  · simp only [if_pos zero, Option.map_none]
  · simp only [if_neg zero, Option.map_some, light_eq, light?]
    cases s.place? id <;> rfl

theorem alter?_eq (s : Store) (id : LightId) (fits : Bool) (misfit : SceneFault) (change : Light → Light) :
    s.alter? id fits misfit change = if id.raw = 0 ∧ fits then none else some (s.modify id fits misfit change) := by
  rw [alter?, slot?_eq, modify]
  cases fits with
  | false => simp
  | true =>
    by_cases zero : id.raw = 0
    · simp [zero]
    · simp only [zero, false_and, if_false, Option.map_some, Bool.not_true, Bool.false_eq_true]
      cases s.place? id <;> rfl

/-- The ways in which an id can be had, of a store and without one. Of reading text there is one exception. -/
inductive Hands (s : Store) : LightId → Prop
  | made {raw : UInt32} {id : LightId} (made : LightId.ofRaw? raw = some id) : Hands s id
  | created {kind : LightKind} {name : Option String} {id : LightId} {t : Store}
    (created : s.create kind name = .ok (id, t)) : Hands s id
  | found {name : String} {id : LightId} (found : s.find? name = some id) : Hands s id
  | listed {id : LightId} {light : Light} (listed : (id, light) ∈ s.entries) : Hands s id
  | handled {handle : UInt32} {id : LightId} {outside : Outside} {m n : Machine}
    (taken : (Run.lightOf handle).run outside m = (.ok id, n)) : Hands s id
  | read {text : String} {id : LightId} (read : Reader.run LightId.reader text = .ok id)
    (other : ¬ LightId.SpellsZero text) : Hands s id

/-- A light that is there has an id. -/
theorem ne_zero_of_light? {light : Light} (present : s.light? id = some light) : id.raw ≠ 0 := by
  obtain ⟨place, next, -⟩ := light?_eq_some_iff.mp present
  intro zero
  rw [zero] at next
  exact Nat.succ_ne_zero _ next.symm

theorem Hands.ne_zero (sound : s.Sound) (hands : s.Hands id) : id.raw ≠ 0 := by
  cases hands with
  | made made =>
    obtain ⟨nonzero, same⟩ := LightId.ofRaw?_eq_some_iff.mp made
    exact same ▸ nonzero
  | @created kind name id t created =>
    intro zero
    have answered : s.request (.create kind name) = (.ok (some id), t) := by rw [request, created]; rfl
    rw [request_create] at answered
    split at answered
    · cases answered
    · cases answered
    · next next =>
      obtain ⟨⟨⟩, -⟩ := Prod.mk.inj answered
      have first := idAt?_eq_some_iff.mp next
      rw [zero] at first
      exact Nat.succ_ne_zero _ first.symm
  | found found =>
    have indexed := (sound.indexed _ id).mp (sound.find?_eq_some_iff.mp found)
    obtain ⟨light, present, -⟩ := Option.bind_eq_some_iff.mp indexed
    exact ne_zero_of_light? present
  | listed listed => exact ne_zero_of_light? (mem_entries_iff.mp listed)
  | handled taken =>
    obtain ⟨⟨nonzero, same⟩, -⟩ := Run.lightOf_eq_ok_iff.mp taken
    exact same ▸ nonzero
  | read read other =>
    intro zero
    obtain ⟨raw⟩ := id
    subst zero
    exact other (LightId.run_reader_zero_iff.mp read)

/-- An id that a store gives, whatever was asked of the store before, is not zero, and neither is one that is made from a
number, taken from a handle or read from any text but the numeral of zero. It can be made from its number again, and every
store comes to a result on it, the one that is its answer. The numeral of zero alone is read as an id that is none. -/
theorem ids_count_from_one (changes : List Change) :
    (∀ id, (after changes).Hands id →
      id.raw ≠ 0 ∧ LightId.ofRaw? id.raw = some id ∧ ∀ others : List Change,
        (after others).fetch? id = some ((after others).light id) ∧
        (∀ color, (after others).recolor? id color = some ((after others).setColor id color)) ∧
        ∀ intensity, (after others).dim? id intensity = some ((after others).setIntensity id intensity)) ∧
    ∀ text, Reader.run LightId.reader text = .ok ⟨0⟩ ↔ LightId.SpellsZero text := by
  refine ⟨fun id hands => ?_, fun text => LightId.run_reader_zero_iff⟩
  have nonzero : id.raw ≠ 0 := hands.ne_zero (after_sound changes)
  refine ⟨nonzero, LightId.ofRaw?_eq_some_iff.mpr ⟨nonzero, rfl⟩, fun others => ⟨?_, fun color => ?_, fun intensity => ?_⟩⟩
  · rw [fetch?_eq, if_neg nonzero]
  · rw [recolor?, alter?_eq, if_neg fun zero => nonzero zero.1]
    rfl
  · rw [dim?, alter?_eq, if_neg fun zero => nonzero zero.1]
    rfl

/-- The second light of a store can be reached, also in a store that does not have it. -/
theorem ids_count_from_one_second : (after [.create .spot none]).Hands ⟨2⟩ ∧
    empty.fetch? ⟨2⟩ = some (empty.light ⟨2⟩) := by
  have created : (after [.create .spot none]).create .point (some "key") =
      .ok (⟨2⟩, after [.create .spot none, .create .point (some "key")]) := rfl
  have second : (after [.create .spot none]).Hands ⟨2⟩ := .created created
  exact ⟨second, (((ids_count_from_one _).1 _ second).2.2 []).1⟩

/-- The number zero is taken for an id where text is read, but not where ids are made, and a store comes to nothing on
it. -/
theorem read_zero : Reader.run LightId.reader "0" = .ok ⟨0⟩ ∧ LightId.ofRaw? 0 = none ∧
    empty.fetch? ⟨0⟩ = none ∧ empty.recolor? ⟨0⟩ .white = none ∧ empty.dim? ⟨0⟩ .one = none := by
  decide +kernel

end Store
end ScriptedScene
