import ScriptedScene.Proofs.Scene.Index

/-! A store is told by its history: by what was asked of it and what was answered. A history says of every id which
light has it, of every name which id goes with it, and of every request how it has to be answered; no store is looked
at for any of this. A store that starts without lights answers and looks as its history says. -/
namespace ScriptedScene
open Store (Change Answer)

/-- Requests with their answers, the oldest first. -/
abbrev History := List (Change × Answer)

namespace History
variable {past : History} {s : Store}

/-- One request more, with its answer. -/
def also (past : History) (c : Change) (answer : Answer) : History := past ++ [(c, answer)]

/-- Kinds and names of the lights made, in the order of their making. -/
def made (past : History) : List (LightKind × Option String) :=
  past.filterMap fun
    | (.create kind name, .ok _) => some (kind, name)
    | _ => none

/-- The ids of the lights made under a name. -/
def named (past : History) (name : String) : List LightId :=
  past.filterMap fun
    | (.create _ given, .ok id) => if given = some name then id else none
    | _ => none

/-- The colours given to a light. -/
def colors (past : History) (id : LightId) : List Color :=
  past.filterMap fun
    | (.color target color, .ok _) => if target = id then some color else none
    | _ => none

/-- The intensities given to a light. -/
def intensities (past : History) (id : LightId) : List Binary32 :=
  past.filterMap fun
    | (.intensity target intensity, .ok _) => if target = id then some intensity else none
    | _ => none

/-- The light with an id: of the kind and the name that it was made with, of the colour and the intensity that it was
given last. -/
def light? (past : History) (id : LightId) : Option Light :=
  if id.raw.toNat = 0 then none
  else past.made[id.raw.toNat - 1]?.map fun (kind, name) =>
    { name, kind
      color := (past.colors id).getLast?.getD .white
      intensity := (past.intensities id).getLast?.getD .one }

/-- The id of the next light, as long as there is one. -/
def next (past : History) : Answer :=
  if past.made.length + 1 < UInt32.size then .ok (some ⟨.ofNat (past.made.length + 1)⟩) else .error .full

/-- Whether an id counts one of the lights made. -/
def counts (past : History) (id : LightId) : Bool := 1 ≤ id.raw.toNat && id.raw.toNat ≤ past.made.length

/-- How a request has to be answered. Of a value that is not fit and an id that is not known, the value is told. -/
def answer (past : History) : Change → Answer
  | .create _ none => past.next
  | .create _ (some name) => if past.named name = [] then past.next else .error (.duplicateName name)
  | .color id color =>
    if !color.isFit then .error .invalidColor
    else if past.counts id then .ok none
    else .error (.unknownLight id)
  | .intensity id intensity =>
    if !intensity.isFit then .error (.invalidIntensity intensity)
    else if past.counts id then .ok none
    else .error (.unknownLight id)

/-- Requests with the answers that they have to be given. -/
def told (changes : List Change) : History :=
  changes.foldl (fun past c => past.also c (past.answer c)) []

/-- A request with the answer that a store gives, put down behind those before it. -/
def record (run : History × Store) (c : Change) : History × Store :=
  (run.1.also c (run.2.request c).1, (run.2.request c).2)

/-- Requests with the answers that they are given, one after the other, by a store without lights. -/
def kept (changes : List Change) : History := (changes.foldl record ([], .empty)).1

theorem foldl_record (changes : List Change) :
    changes.foldl record ([], .empty) = (kept changes, Store.after changes) := by
  induction changes using List.reverseRecOn with
  | nil => rfl
  | append_singleton changes c ih =>
    rw [Store.after_snoc, kept, List.foldl_append, ih]
    rfl

theorem kept_snoc (changes : List Change) (c : Change) :
    kept (changes ++ [c]) = (kept changes).also c ((Store.after changes).request c).1 := by
  rw [kept, List.foldl_append, foldl_record]
  rfl

theorem told_snoc (changes : List Change) (c : Change) :
    told (changes ++ [c]) = (told changes).also c ((told changes).answer c) := by
  rw [told, List.foldl_append]
  rfl

/-- A store and a history that tell the same. Values are given to known lights only. -/
structure Agrees (past : History) (s : Store) : Prop where
  sound : s.Sound
  size : s.size = past.made.length
  light : ∀ id, s.light? id = past.light? id
  named : ∀ name, past.named name = (s.find? name).toList
  given : ∀ id, s.light? id = none → past.colors id = [] ∧ past.intensities id = []

theorem Agrees.nil : Agrees [] .empty where
  sound := .empty
  size := rfl
  light id := by simp [Store.light?, Store.empty, light?, made]
  named name := rfl
  given id _ := ⟨rfl, rfl⟩

theorem Agrees.next_eq (agrees : past.Agrees s) :
    past.next = match Store.idAt? s.size with
      | some id => .ok (some id)
      | none => .error .full := by
  rw [next, Store.idAt?, agrees.size]
  split <;> rfl

theorem Agrees.counts_eq (agrees : past.Agrees s) (id : LightId) : past.counts id = (s.place? id).isSome := by
  rw [counts, Store.place?, agrees.size]
  split <;> simp_all

/-- The store answers as the history says. -/
theorem Agrees.answer (agrees : past.Agrees s) (c : Change) : (s.request c).1 = past.answer c := by
  cases c with
  | create kind name =>
    rw [Store.request_create]
    cases name with
    | none =>
      simp only [Option.filter_none, History.answer, agrees.next_eq]
      cases Store.idAt? s.size <;> rfl
    | some name =>
      simp only [History.answer, agrees.named, Option.toList_eq_nil_iff]
      cases found : s.find? name with
      | some id =>
        have taken : (some name).filter (fun name => (s.find? name).isSome) = some name := by simp [found]
        rw [taken]
        rfl
      | none =>
        have free : (some name).filter (fun name => (s.find? name).isSome) = none := by simp [found]
        rw [free, if_pos rfl, agrees.next_eq]
        cases Store.idAt? s.size <;> rfl
  | color id color =>
    simp only [Store.request_color, History.answer, agrees.counts_eq]
    cases color.isFit <;> cases s.place? id <;> rfl
  | intensity id intensity =>
    simp only [Store.request_intensity, History.answer, agrees.counts_eq]
    cases intensity.isFit <;> cases s.place? id <;> rfl

section also
variable {id other : LightId}

/-- What is refused tells nothing. -/
theorem also_refused (past : History) (c : Change) (fault : SceneFault) :
    (past.also c (.error fault)).made = past.made ∧
    (∀ name, (past.also c (.error fault)).named name = past.named name) ∧
    (∀ id, (past.also c (.error fault)).colors id = past.colors id) ∧
    ∀ id, (past.also c (.error fault)).intensities id = past.intensities id := by
  simp [also, made, named, colors, intensities]

theorem also_created (past : History) (kind : LightKind) (name : Option String) (id : LightId) :
    (past.also (.create kind name) (.ok (some id))).made = past.made ++ [(kind, name)] ∧
    (∀ other, (past.also (.create kind name) (.ok (some id))).named other =
      past.named other ++ if name = some other then [id] else []) ∧
    (∀ other, (past.also (.create kind name) (.ok (some id))).colors other = past.colors other) ∧
    ∀ other, (past.also (.create kind name) (.ok (some id))).intensities other = past.intensities other := by
  refine ⟨?_, fun other => ?_, fun other => ?_, fun other => ?_⟩
  · simp [also, made]
  · by_cases same : name = some other <;> simp [also, named, same]
  · simp [also, colors]
  · simp [also, intensities]

theorem also_colored (past : History) (id : LightId) (color : Color) :
    (past.also (.color id color) (.ok none)).made = past.made ∧
    (∀ name, (past.also (.color id color) (.ok none)).named name = past.named name) ∧
    (∀ other, (past.also (.color id color) (.ok none)).colors other =
      past.colors other ++ if id = other then [color] else []) ∧
    ∀ other, (past.also (.color id color) (.ok none)).intensities other = past.intensities other := by
  refine ⟨?_, fun name => ?_, fun other => ?_, fun other => ?_⟩
  · simp [also, made]
  · simp [also, named]
  · by_cases same : id = other <;> simp [also, colors, same]
  · simp [also, intensities]

theorem also_dimmed (past : History) (id : LightId) (intensity : Binary32) :
    (past.also (.intensity id intensity) (.ok none)).made = past.made ∧
    (∀ name, (past.also (.intensity id intensity) (.ok none)).named name = past.named name) ∧
    (∀ other, (past.also (.intensity id intensity) (.ok none)).colors other = past.colors other) ∧
    ∀ other, (past.also (.intensity id intensity) (.ok none)).intensities other =
      past.intensities other ++ if id = other then [intensity] else [] := by
  refine ⟨?_, fun name => ?_, fun other => ?_, fun other => ?_⟩
  · simp [also, made]
  · simp [also, named]
  · simp [also, colors]
  · by_cases same : id = other <;> simp [also, intensities, same]

theorem light?_created (kind : LightKind) (name : Option String) (count : id.raw.toNat = past.made.length + 1)
    (unused : past.colors id = [] ∧ past.intensities id = []) :
    (past.also (.create kind name) (.ok (some id))).light? other =
      if other = id then some { Light.new kind with name } else past.light? other := by
  obtain ⟨made, -, colors, intensities⟩ := also_created past kind name id
  simp only [light?, made, colors, intensities]
  split
  · rename_i zero
    rw [if_neg]
    rintro rfl
    omega
  · by_cases same : other = id
    · subst same
      simp [count, unused.1, unused.2, Light.new]
    · have differ : other.raw.toNat - 1 ≠ past.made.length := fun last => same (LightId.eq_of_toNat_eq (by omega))
      rw [if_neg same, List.getElem?_append]
      split
      · rfl
      · rw [List.getElem?_eq_none (by simp only [List.length_singleton]; omega), List.getElem?_eq_none (by omega)]

theorem light?_colored (color : Color) : (past.also (.color id color) (.ok none)).light? other =
    (past.light? other).map fun light => if other = id then { light with color } else light := by
  obtain ⟨made, -, colors, intensities⟩ := also_colored past id color
  simp only [light?, made, colors, intensities]
  split
  · rfl
  · rw [Option.map_map]
    congr 1
    funext ⟨kind, name⟩
    by_cases same : id = other
    · simp [same]
    · simp [same, Ne.symm same]

theorem light?_dimmed (intensity : Binary32) : (past.also (.intensity id intensity) (.ok none)).light? other =
    (past.light? other).map fun light => if other = id then { light with intensity } else light := by
  obtain ⟨made, -, colors, intensities⟩ := also_dimmed past id intensity
  simp only [light?, made, colors, intensities]
  split
  · rfl
  · rw [Option.map_map]
    congr 1
    funext ⟨kind, name⟩
    by_cases same : id = other
    · simp [same]
    · simp [same, Ne.symm same]

end also

section steps
variable {id : LightId} {place : Nat} {kind : LightKind} {name : Option String}

theorem Agrees.refused (agrees : past.Agrees s) (c : Change) (fault : SceneFault) :
    Agrees (past.also c (.error fault)) s := by
  obtain ⟨made, named, colors, intensities⟩ := also_refused past c fault
  constructor
  · exact agrees.sound
  · rw [made, agrees.size]
  · intro id
    rw [agrees.light, light?, light?, made, colors, intensities]
  · intro name
    rw [named, agrees.named]
  · intro id unknown
    rw [colors, intensities]
    exact agrees.given id unknown

theorem Agrees.created (agrees : past.Agrees s) (next : id.raw.toNat = s.size + 1)
    (free : ∀ given, name = some given → s.find? given = none)
    (sound : (s.add id { Light.new kind with name }).Sound) :
    Agrees (past.also (.create kind name) (.ok (some id))) (s.add id { Light.new kind with name }) := by
  obtain ⟨made, named, colors, intensities⟩ := also_created past kind name id
  constructor
  · exact sound
  · rw [made, List.length_append, ← agrees.size]
    simp [Store.size, Store.add]
  · intro other
    have unknown : s.light? id = none := by
      rw [← Option.not_isSome_iff_eq_none, Store.light?_isSome_iff]
      omega
    rw [Store.light?_add next, agrees.light,
      light?_created kind name (by rw [next, agrees.size]) (agrees.given id unknown)]
  · intro other
    rw [named, agrees.named]
    cases name with
    | none => simp [Store.find?, Store.add]
    | some given =>
      by_cases same : given = other
      · subst same
        rw [free given rfl]
        simp [Store.find?, Store.add]
      · have differ : (other == given) = false := by simpa using Ne.symm same
        simp [Store.find?, Store.add, List.lookup_cons, same, differ]
  · intro other unknown
    rw [Store.light?_add next] at unknown
    rw [colors, intensities]
    split at unknown
    · cases unknown
    · exact agrees.given other unknown

/-- Another value for a light. Of the other lights nothing is told. -/
theorem Agrees.modified (agrees : past.Agrees s) {c : Change} {change : Light → Light}
    (found : s.place? id = some place) (sound : Store.Sound { s with lights := s.lights.modify place change })
    (made : (past.also c (.ok none)).made = past.made)
    (named : ∀ name, (past.also c (.ok none)).named name = past.named name)
    (light : ∀ other, (past.also c (.ok none)).light? other =
      (past.light? other).map fun light => if other = id then change light else light)
    (given : ∀ other, id ≠ other → (past.also c (.ok none)).colors other = past.colors other ∧
      (past.also c (.ok none)).intensities other = past.intensities other) :
    Agrees (past.also c (.ok none)) { s with lights := s.lights.modify place change } where
  sound := sound
  size := by rw [made, ← agrees.size, Store.size, Store.size, Array.size_modify]
  light other := by rw [Store.light?_modify found, light, agrees.light]
  named name := by rw [named, agrees.named]; rfl
  given other unknown := by
    rw [Store.light?_modify found, Option.map_eq_none_iff] at unknown
    have differ : id ≠ other := by
      rintro rfl
      obtain ⟨next, inside⟩ := Store.place?_eq_some_iff.mp found
      rw [← Option.not_isSome_iff_eq_none, Store.light?_isSome_iff] at unknown
      omega
    rw [(given other differ).1, (given other differ).2]
    exact agrees.given other unknown

end steps

/-- A request keeps a store and its history together. -/
theorem Agrees.also (agrees : past.Agrees s) (c : Change) :
    Agrees (past.also c (s.request c).1) (s.request c).2 := by
  have sound := agrees.sound.request c
  cases c with
  | create kind name =>
    rw [Store.request_create] at sound ⊢
    split at sound <;> rename_i free next
    · exact agrees.refused _ _
    · exact agrees.refused _ _
    · refine agrees.created (Store.idAt?_eq_some_iff.mp next) (fun given named => ?_) sound
      subst named
      simpa using free
  | color id color =>
    rw [Store.request_color] at sound ⊢
    split at sound
    · exact agrees.refused _ _
    · exact agrees.refused _ _
    · obtain ⟨made, named, colors, intensities⟩ := also_colored past id color
      refine agrees.modified ‹_› sound made named (fun other => light?_colored color) fun other differ => ?_
      rw [colors, if_neg differ, List.append_nil]
      exact ⟨rfl, intensities other⟩
  | intensity id intensity =>
    rw [Store.request_intensity] at sound ⊢
    split at sound
    · exact agrees.refused _ _
    · exact agrees.refused _ _
    · obtain ⟨made, named, colors, intensities⟩ := also_dimmed past id intensity
      refine agrees.modified ‹_› sound made named (fun other => light?_dimmed intensity) fun other differ => ?_
      rw [intensities, if_neg differ, List.append_nil]
      exact ⟨colors other, rfl⟩

theorem kept_agrees (changes : List Change) : (kept changes).Agrees (Store.after changes) := by
  induction changes using List.reverseRecOn with
  | nil => exact Agrees.nil
  | append_singleton changes c agrees =>
    rw [kept_snoc, Store.after_snoc]
    exact agrees.also c

theorem kept_eq_told (changes : List Change) : kept changes = told changes := by
  induction changes using List.reverseRecOn with
  | nil => rfl
  | append_singleton changes c ih => rw [kept_snoc, told_snoc, (kept_agrees changes).answer, ih]

/-- A request that is refused changes nothing. -/
theorem request_refused (s : Store) (c : Change) : (s.request c).1.isOk ∨ (s.request c).2 = s := by
  cases c with
  | create kind name =>
    rw [Store.request_create]
    split <;> simp [Except.isOk, Except.toBool]
  | color id color =>
    rw [Store.request_color]
    split <;> simp [Except.isOk, Except.toBool]
  | intensity id intensity =>
    rw [Store.request_intensity]
    split <;> simp [Except.isOk, Except.toBool]

/-- A store without lights, whatever is asked of it, answers as the requests before tell. It then has as many lights
as were made, under every id and every name the light that the history tells, and no name was used twice. -/
theorem kept_tells (changes : List Change) :
    let past := kept changes
    let s := Store.after changes
    past = told changes ∧
    s.size = past.made.length ∧
    (∀ id, s.light id = (past.light? id).elim (.error (.unknownLight id)) .ok) ∧
    (∀ id, (past.light? id).isSome ↔ 1 ≤ id.raw.toNat ∧ id.raw.toNat ≤ s.size) ∧
    (∀ name, s.find? name = (past.named name).head? ∧ (past.named name).length ≤ 1) ∧
    ∀ c, (s.request c).1 = past.answer c ∧ ((s.request c).1.isOk ∨ (s.request c).2 = s) := by
  intro past s
  have agrees : past.Agrees s := kept_agrees changes
  refine ⟨kept_eq_told changes, agrees.size, fun id => ?_, fun id => ?_, fun name => ?_,
    fun c => ⟨agrees.answer c, request_refused s c⟩⟩
  · rw [Store.light_eq, agrees.light]
  · rw [← agrees.light, Store.light?_isSome_iff]
  · rw [agrees.named]
    cases s.find? name <;> simp

end History
end ScriptedScene
