import Mathlib.Data.List.Basic
import Mathlib.Data.List.Induction
import ScriptedScene.Proofs.Scene.Values

/-! What holds of a store whatever was asked of it: its index has the names of its lights and no others, each name
once, and its lights have values that lights can have. Each request is opened once; what it keeps follows from what it
can do. -/
namespace ScriptedScene

theorem LightId.eq_of_toNat_eq {id other : LightId} (same : id.raw.toNat = other.raw.toNat) : id = other := by
  cases id
  cases other
  exact congrArg LightId.mk (UInt32.toNat_inj.mp same)

namespace Store
variable {s : Store} {id : LightId} {place : Nat} {light : Light} {name : String}

theorem idAt?_eq_some_iff : idAt? place = some id ↔ id.raw.toNat = place + 1 := by
  have bound := id.raw.toNat_lt
  simp only [idAt?, Option.ite_none_right_eq_some, Option.some.injEq]
  constructor
  · rintro ⟨room, rfl⟩
    exact UInt32.toNat_ofNat_of_lt' room
  · intro next
    have room : place + 1 < UInt32.size := by simp only [UInt32.size]; omega
    refine ⟨room, ?_⟩
    rw [← next, UInt32.ofNat_toNat]

theorem idAt?_eq_none_iff : idAt? place = none ↔ UInt32.size ≤ place + 1 := by
  simp [idAt?]

theorem place?_eq_some_iff : s.place? id = some place ↔ id.raw.toNat = place + 1 ∧ place < s.size := by
  simp only [place?, Bool.and_eq_true, decide_eq_true_eq, Option.ite_none_right_eq_some, Option.some.injEq]
  omega

/-- The light with an id, if there is one. -/
def light? (s : Store) (id : LightId) : Option Light := (s.place? id).bind (s.lights[·]?)

/-- An id is refused for one reason only. -/
theorem light_eq (s : Store) (id : LightId) :
    s.light id = (s.light? id).elim (.error (.unknownLight id)) .ok := by
  unfold Store.light light?
  cases s.place? id with
  | none => rfl
  | some place =>
    simp only [Option.bind_some]
    cases s.lights[place]? <;> rfl

theorem light_eq_ok_iff : s.light id = .ok light ↔ s.light? id = some light := by
  rw [light_eq]
  cases s.light? id <;> simp

theorem light?_eq_some_iff :
    s.light? id = some light ↔ ∃ place, id.raw.toNat = place + 1 ∧ s.lights[place]? = some light := by
  simp only [light?, Option.bind_eq_some_iff, place?_eq_some_iff]
  constructor
  · rintro ⟨place, ⟨next, -⟩, present⟩
    exact ⟨place, next, present⟩
  · rintro ⟨place, next, present⟩
    exact ⟨place, ⟨next, (Array.getElem?_eq_some_iff.mp present).1⟩, present⟩

theorem light?_isSome_iff : (s.light? id).isSome ↔ 1 ≤ id.raw.toNat ∧ id.raw.toNat ≤ s.size := by
  simp only [Option.isSome_iff_exists, light?_eq_some_iff]
  constructor
  · rintro ⟨light, place, next, present⟩
    have inside := (Array.getElem?_eq_some_iff.mp present).1
    simp only [size]
    omega
  · rintro ⟨first, last⟩
    have inside : id.raw.toNat - 1 < s.lights.size := by simp only [size] at last; omega
    exact ⟨s.lights[id.raw.toNat - 1], id.raw.toNat - 1, by omega, Array.getElem?_eq_getElem inside⟩

theorem light?_add (next : id.raw.toNat = s.size + 1) (other : LightId) :
    (s.add id light).light? other = if other = id then some light else s.light? other := by
  ext found
  simp only [light?_eq_some_iff, Store.add, Array.getElem?_push]
  split
  · rename_i same
    subst same
    constructor
    · rintro ⟨place, here, present⟩
      rw [if_pos (by simp only [size] at next; omega)] at present
      exact present
    · rintro ⟨⟩
      exact ⟨s.size, next, if_pos rfl⟩
  · rename_i differ
    rw [light?_eq_some_iff]
    refine exists_congr fun place => and_congr_right fun here => ?_
    have before : place ≠ s.lights.size := fun last =>
      differ (LightId.eq_of_toNat_eq (by simp only [size] at next; omega))
    rw [if_neg before]

theorem light?_modify {change : Light → Light} (found : s.place? id = some place) (other : LightId) :
    light? { s with lights := s.lights.modify place change } other =
      (s.light? other).map fun light => if other = id then change light else light := by
  obtain ⟨next, inside⟩ := place?_eq_some_iff.mp found
  ext light
  simp only [light?_eq_some_iff, Option.map_eq_some_iff, Array.getElem?_modify]
  split
  · rename_i same
    subst same
    constructor
    · rintro ⟨here, also, present⟩
      rw [if_pos (by omega)] at present
      obtain ⟨old, old_present, rfl⟩ := Option.map_eq_some_iff.mp present
      exact ⟨old, ⟨here, also, old_present⟩, rfl⟩
    · rintro ⟨old, ⟨here, also, present⟩, rfl⟩
      exact ⟨here, also, by rw [if_pos (by omega), present, Option.map_some]⟩
  · rename_i differ
    constructor
    · rintro ⟨here, also, present⟩
      rw [if_neg fun same => differ (LightId.eq_of_toNat_eq (by omega))] at present
      exact ⟨light, ⟨here, also, present⟩, rfl⟩
    · rintro ⟨old, ⟨here, also, present⟩, rfl⟩
      exact ⟨here, also, by rw [if_neg fun same => differ (LightId.eq_of_toNat_eq (by omega)), present]⟩

/-- What a creation does. -/
theorem request_create (s : Store) (kind : LightKind) (name : Option String) :
    s.request (.create kind name) =
      match name.filter fun name => (s.find? name).isSome, idAt? s.size with
      | some name, _ => (.error (.duplicateName name), s)
      | none, none => (.error .full, s)
      | none, some id => (.ok (some id), s.add id { Light.new kind with name }) := by
  simp only [request, create]
  cases name.filter fun name => (s.find? name).isSome with
  | some taken => rfl
  | none => cases idAt? s.size <;> rfl

/-- What a change of a light's values does. -/
theorem settle_modify (s : Store) (id : LightId) (fits : Bool) (misfit : SceneFault) (change : Light → Light) :
    s.settle ((s.modify id fits misfit change).map fun s => (none, s)) =
      match fits, s.place? id with
      | false, _ => (.error misfit, s)
      | true, none => (.error (.unknownLight id), s)
      | true, some place => (.ok none, { s with lights := s.lights.modify place change }) := by
  unfold modify
  cases fits with
  | false => rfl
  | true => cases s.place? id <;> rfl

theorem request_color (s : Store) (id : LightId) (color : Color) :
    s.request (.color id color) =
      match color.isFit, s.place? id with
      | false, _ => (.error .invalidColor, s)
      | true, none => (.error (.unknownLight id), s)
      | true, some place => (.ok none, { s with lights := s.lights.modify place fun l => { l with color } }) := by
  rw [← Color.isFit_eq]
  exact settle_modify s id _ _ _

theorem request_intensity (s : Store) (id : LightId) (intensity : Binary32) :
    s.request (.intensity id intensity) =
      match intensity.isFit, s.place? id with
      | false, _ => (.error (.invalidIntensity intensity), s)
      | true, none => (.error (.unknownLight id), s)
      | true, some place => (.ok none, { s with lights := s.lights.modify place fun l => { l with intensity } }) := by
  rw [← Binary.isFit_eq]
  exact settle_modify s id _ _ _

/-- The index has the names of the lights and no others, each once; the values of the lights are fit. -/
structure Sound (s : Store) : Prop where
  room : s.size < UInt32.size
  indexed : ∀ name id, (name, id) ∈ s.names ↔ (s.light? id).bind Light.name = some name
  distinct : (s.names.map Prod.fst).Nodup
  fit : ∀ light ∈ s.lights, Light.isFit light

theorem Sound.empty : empty.Sound where
  room := by decide
  indexed := by simp [Store.empty, light?]
  distinct := by simp [Store.empty]
  fit := by simp [Store.empty]

theorem Sound.find?_eq_some_iff (sound : s.Sound) : s.find? name = some id ↔ (name, id) ∈ s.names := by
  simp only [find?, List.lookup_eq_some_iff]
  constructor
  · rintro ⟨before, after, split, -⟩
    simp [split]
  · intro present
    obtain ⟨before, after, split⟩ := List.append_of_mem present
    refine ⟨before, after, split, fun entry earlier => ?_⟩
    have distinct := sound.distinct
    rw [split, List.map_append, List.nodup_append] at distinct
    have apart := distinct.2.2 entry.1 (List.mem_map_of_mem earlier) name (by simp)
    simpa using Ne.symm apart

/-- One light more, at the next id and under a name that none has. -/
theorem Sound.add (sound : s.Sound) (next : id.raw.toNat = s.size + 1)
    (fresh : ∀ name, light.name = some name → s.find? name = none) (fit : light.isFit) :
    (s.add id light).Sound where
  room := by
    have bound := id.raw.toNat_lt
    simp only [size, Store.add, Array.size_push, UInt32.size] at *
    omega
  indexed name other := by
    have old := sound.indexed name other
    have absent : s.light? id = none := by
      rw [← Option.not_isSome_iff_eq_none, light?_isSome_iff]
      omega
    rw [light?_add next]
    by_cases same : other = id
    · subst same
      rw [absent] at old
      simp only [Option.bind_none, reduceCtorEq, iff_false] at old
      cases named : light.name <;> simp [Store.add, named, old, eq_comm]
    · cases named : light.name <;> simp [Store.add, named, old, same]
  distinct := by
    cases named : light.name with
    | none => simpa only [Store.add, named] using sound.distinct
    | some name =>
      have absent := fresh name named
      simp only [find?, List.lookup_eq_none_iff, bne_iff_ne] at absent
      simp only [Store.add, named, List.map_cons, List.nodup_cons, List.mem_map, not_exists, not_and]
      exact ⟨fun entry present same => absent entry present same.symm, sound.distinct⟩
  fit other present := by
    rcases Array.mem_push.mp present with old | rfl
    · exact sound.fit other old
    · exact fit

/-- Other values for a light, which keeps its name. -/
theorem Sound.modify (sound : s.Sound) (found : s.place? id = some place) {change : Light → Light}
    (named : ∀ light, (change light).name = light.name) (fit : ∀ light, light.isFit → (change light).isFit) :
    Sound { s with lights := s.lights.modify place change } where
  room := by simpa only [size, Array.size_modify] using sound.room
  indexed name other := by
    rw [sound.indexed name other, light?_modify found, Option.bind_map]
    refine Iff.of_eq (congrArg (· = some name) (Option.bind_congr fun light _ => ?_))
    simp only [Function.comp_apply]
    split
    · exact (named light).symm
    · rfl
  distinct := sound.distinct
  fit other present := by
    obtain ⟨place, here⟩ := Array.mem_iff_getElem?.mp present
    rw [Array.getElem?_modify] at here
    split at here
    · obtain ⟨old, old_here, rfl⟩ := Option.map_eq_some_iff.mp here
      exact fit old (sound.fit old (Array.mem_of_getElem? old_here))
    · exact sound.fit other (Array.mem_of_getElem? here)

theorem Sound.settle_modify (sound : s.Sound) (id : LightId) (misfit : SceneFault) {fits : Bool}
    {change : Light → Light} (named : ∀ light, (change light).name = light.name)
    (fit : fits → ∀ light, light.isFit → (change light).isFit) :
    (s.settle ((s.modify id fits misfit change).map fun s => (none, s))).2.Sound := by
  rw [Store.settle_modify]
  split
  · exact sound
  · exact sound
  · rename_i place found
    exact sound.modify found named (fit rfl)

theorem Sound.request (sound : s.Sound) (c : Change) : (s.request c).2.Sound := by
  cases c with
  | create kind name =>
    rw [request_create]
    split
    · exact sound
    · exact sound
    · rename_i id free next
      refine sound.add (idAt?_eq_some_iff.mp next) (fun n given => ?_) ?_
      · subst given
        simpa using free
      · simp [Light.isFit, Light.new, Color.white_isFit, Binary32.one_isFit]
  | color id color =>
    refine sound.settle_modify id _ (fun light => rfl) fun fits light was => ?_
    rw [Color.isFit_eq] at fits
    simp only [Light.isFit, Bool.and_eq_true] at was ⊢
    exact ⟨fits, was.2⟩
  | intensity id intensity =>
    refine sound.settle_modify id _ (fun light => rfl) fun fits light was => ?_
    rw [Binary.isFit_eq] at fits
    simp only [Light.isFit, Bool.and_eq_true] at was ⊢
    exact ⟨was.1, fits⟩

/-- The store after requests in a row, the refused ones with the others. -/
def after (changes : List Change) : Store := changes.foldl (fun s c => (s.request c).2) empty

theorem after_snoc (changes : List Change) (c : Change) :
    after (changes ++ [c]) = ((after changes).request c).2 := by
  simp only [after, List.foldl_append, List.foldl_cons, List.foldl_nil]

theorem after_sound (changes : List Change) : (after changes).Sound := by
  induction changes using List.reverseRecOn with
  | nil => exact Sound.empty
  | append_singleton changes c sound =>
    rw [after_snoc]
    exact sound.request c

theorem mem_entries_iff : (id, light) ∈ s.entries ↔ s.light? id = some light := by
  simp only [entries, List.mem_filterMap, Option.map_eq_some_iff, idAt?_eq_some_iff, light?_eq_some_iff]
  constructor
  · rintro ⟨⟨other, place⟩, member, found, next, same⟩
    obtain ⟨rfl, rfl⟩ := Prod.mk.inj same
    exact ⟨place, next, by simpa using List.mem_zipIdx_iff_getElem?.mp member⟩
  · rintro ⟨place, next, present⟩
    exact ⟨(light, place), List.mem_zipIdx_iff_getElem?.mpr (by simpa using present), id, next, rfl⟩

/-- No light is left out, as long as there are ids for all of them. -/
theorem Sound.entries_eq (sound : s.Sound) :
    s.entries.map (fun (id, light) => (light, id.raw.toNat)) = s.lights.toList.zipIdx 1 := by
  have numbered : ∀ entry ∈ s.lights.toList.zipIdx,
      ((idAt? entry.2).map fun id => (id, entry.1)).map (fun (id, light) => (light, id.raw.toNat)) =
        some (entry.1, entry.2 + 1) := by
    rintro ⟨light, place⟩ member
    have inside := List.snd_lt_of_mem_zipIdx member
    have room := sound.room
    simp only [size, Array.length_toList] at inside room
    cases found : idAt? place with
    | none =>
      have := idAt?_eq_none_iff.mp found
      omega
    | some id => simp [idAt?_eq_some_iff.mp found]
  rw [entries, List.map_filterMap, List.filterMap_congr numbered, List.zipIdx_succ]
  exact congrFun List.filterMap_eq_map' _

/-- Searching the entries from the first on finds what the index finds. -/
theorem Sound.find?_eq_search (sound : s.Sound) (name : String) :
    s.find? name = (s.entries.find? fun entry => entry.2.name = some name).map Prod.fst := by
  cases found : s.entries.find? fun entry => entry.2.name = some name with
  | none =>
    rw [List.find?_eq_none] at found
    rw [Option.map_none, Option.eq_none_iff_forall_not_mem]
    intro id indexed
    obtain ⟨light, present, named⟩ :=
      Option.bind_eq_some_iff.mp ((sound.indexed name id).mp (sound.find?_eq_some_iff.mp indexed))
    exact found (id, light) (mem_entries_iff.mpr present) (by simpa using named)
  | some entry =>
    have named := List.find?_some found
    have present := mem_entries_iff.mp (List.mem_of_find?_eq_some found)
    rw [Option.map_some, sound.find?_eq_some_iff, sound.indexed, present]
    simpa using named

/-- Index, values and entries after any requests. The index leads from each name to the one light that has it, as a
search from the first light on would; no entry of it is without its light and no name is left out. The entries are all
lights, under the ids that count from one. -/
theorem after_consistent (changes : List Change) :
    let s := after changes
    (∀ name id, (name, id) ∈ s.names ↔
      1 ≤ id.raw.toNat ∧ id.raw.toNat ≤ s.size ∧ (s.lights[id.raw.toNat - 1]?).bind Light.name = some name) ∧
    (s.names.map Prod.fst).Nodup ∧
    (∀ name id, s.find? name = some id ↔ (name, id) ∈ s.names) ∧
    (∀ name, s.find? name = (s.entries.find? fun entry => entry.2.name = some name).map Prod.fst) ∧
    (∀ light ∈ s.lights, ∀ value ∈ light.intensity :: light.color.components,
      value.isFinite ∧ ¬ value.lt (.zero false)) ∧
    s.entries.map (fun entry => entry.1.raw.toNat) = List.range' 1 s.size ∧
    s.entries.map Prod.snd = s.lights.toList ∧
    ∀ entry ∈ s.entries, s.light entry.1 = .ok entry.2 := by
  intro s
  have sound : s.Sound := after_sound changes
  have numbered := congrArg (List.map Prod.snd) sound.entries_eq
  have listed := congrArg (List.map Prod.fst) sound.entries_eq
  rw [List.map_map, List.zipIdx_map_snd] at numbered
  rw [List.map_map, List.zipIdx_map_fst] at listed
  refine ⟨fun name id => ?_, sound.distinct, fun name id => sound.find?_eq_some_iff, sound.find?_eq_search, ?_,
    numbered, listed, fun entry member => light_eq_ok_iff.mpr (mem_entries_iff.mp member)⟩
  · rw [sound.indexed, light?, place?]
    split
    · rename_i inside
      simp only [Bool.and_eq_true, decide_eq_true_eq] at inside
      simp [inside]
    · rename_i outside
      simp only [Bool.and_eq_true, decide_eq_true_eq, not_and] at outside
      simp only [Option.bind_none, reduceCtorEq, false_iff, not_and]
      intro first last
      exact absurd last (outside first)
  · intro light present value among
    have fit := sound.fit light present
    simp only [Light.isFit, Color.isFit, Bool.and_eq_true, List.all_eq_true] at fit
    rw [← Binary.isFit_iff]
    rcases List.mem_cons.mp among with rfl | component
    · exact fit.2
    · exact fit.1 value component

end Store
end ScriptedScene
