import ScriptedScene.Proofs.Json.Unambiguous
import ScriptedScene.Proofs.Scene.Format
import ScriptedScene.Scene.Fault

/-! Lights written and read back. The order of the members does not matter, nor what else the object holds. A number that JSON
has no word for is written all the same, but not as a number. -/
namespace ScriptedScene

open Json Json.Reader

/-! ## What is read of a text -/

theorem LightKind.Written.isValue {k : LightKind} {cs : List Char} (form : k.Written cs) : IsValue cs := by
  rcases form with text | object
  · exact text.isValue
  · exact object.isValue (by simpa using IsValue.null)

theorem Color.Written.isValue {c : Color} {cs : List Char} (form : c.Written cs) : IsValue cs := by
  obtain ⟨vs, list, numbers⟩ := form
  exact .array list (isValue_of_floats numbers)

namespace Light

theorem Members.isValue {ms : List (String × List Char)} {l : Light} (members : Members ms l) : ∀ m ∈ ms, IsValue m.2 := by
  rintro ⟨key, v⟩ member
  have listed (name : String) (same : key = name) : v ∈ valuesOf name ms := by
    simpa [valuesOf, ← same] using member
  by_cases known : key ∈ fieldNames
  · obtain ⟨name, kind, color, intensity, -⟩ := members
    simp only [fieldNames, List.mem_cons, List.not_mem_nil, or_false] at known
    rcases known with same | same | same | same
    · have given := listed _ same
      generalize valuesOf "name" ms = vs at name given
      generalize l.name = o at name
      cases name with
      | absent => cases given
      | present form => exact List.mem_singleton.mp given ▸ isValue_of_isOptional (fun _ => IsText.isValue) form
    · obtain ⟨w, values, form⟩ := kind
      exact List.mem_singleton.mp (values ▸ listed _ same) ▸ form.isValue
    · obtain ⟨w, values, form⟩ := color
      exact List.mem_singleton.mp (values ▸ listed _ same) ▸ form.isValue
    · obtain ⟨w, values, form⟩ := intensity
      exact List.mem_singleton.mp (values ▸ listed _ same) ▸ .number form.1
  · exact members.others _ member known

theorem Elements.isValue {vs : List (List Char)} {l : Light} (elements : Elements vs l) : ∀ v ∈ vs, IsValue v := by
  obtain ⟨⟩ | ⟨name, _ | ⟨kind, _ | ⟨color, _ | ⟨intensity, ⟨⟩⟩⟩⟩⟩ := elements
  simp only [List.forall_mem_cons, List.not_mem_nil, false_implies, implies_true, and_true]
  exact ⟨isValue_of_isOptional (fun _ => IsText.isValue) name, kind.isValue, color.isValue, .number intensity.1⟩

variable {text : String} {l : Light}

theorem run_object {ms : List (String × List Char)} (holds : Holds (IsObject ms) text) (values : ∀ m ∈ ms, IsValue m.2) :
    run reader text = .ok l ↔ Members ms l :=
  reads_reader.reads.run_object Members.isValue holds values

theorem run_array {vs : List (List Char)} (holds : Holds (IsArray vs) text) (values : ∀ v ∈ vs, IsValue v) :
    run reader text = .ok l ↔ Elements vs l :=
  reads_reader.reads.run_array Elements.isValue holds values

/-! ## Written lights -/

/-- The members of a light as they are written. -/
def members (l : Light) : List (String × List Char) :=
  [("name", (optional quote l.name).toList), ("kind", l.kind.toJson.toList), ("color", l.color.toJson.toList),
    ("intensity", (number32 l.intensity).toList)]

/-- The numbers in a light. -/
def numbers (l : Light) : List Binary32 := l.color.components ++ [l.intensity]

/-- A text that shows a light: an object with its members among others, in any order, or the list of what they hold. A name
that is none need not be among them. -/
inductive ShownIn (l : Light) : List Char → Prop
  | object {cs : List Char} {ms : List (String × List Char)} (object : IsObject ms cs)
    (known : (ms.filter (·.1 ∈ fieldNames)).Perm l.members ∨
      l.name = none ∧ (ms.filter (·.1 ∈ fieldNames)).Perm l.members.tail)
    (others : ∀ m ∈ ms, m.1 ∉ fieldNames → IsValue m.2) : ShownIn l cs
  | list {cs : List Char} (list : IsArray (l.members.map Prod.snd) cs) : ShownIn l cs

theorem shownIn_toJson : l.ShownIn l.toJson.toList := by
  refine .object (isObject_object _) (.inl ?_) (by simp [fieldNames])
  simp [fieldNames, members]

/-- Every number in the light is read back from its own text, if there is one of it. -/
def Exact (l : Light) : Prop := ∀ x ∈ l.numbers, x.isFinite → ReadsBack x

end Light

namespace Color
variable {c d : Color}

theorem isArray_toJson (c : Color) : IsArray (c.components.map fun x => (number32 x).toList) c.toJson.toList := by
  simpa [toJson, Function.comp_def] using isArray_list (c.components.map number32)

theorem written_toJson (exact : ∀ x ∈ c.components, x.isFinite → ReadsBack x) (finite : ∀ x ∈ c.components, x.isFinite) :
    c.Written c.toJson.toList := by
  refine ⟨_, c.isArray_toJson, ?_⟩
  rw [List.forall₂_map_right_iff, List.forall₂_same]
  exact fun x member => (exact x member (finite x member)).isFloat (finite x member)

theorem isValue_toJson (exact : ∀ x ∈ c.components, x.isFinite → ReadsBack x) : IsValue c.toJson.toList :=
  .array c.isArray_toJson (List.forall_mem_map.mpr fun x member => isValue_number32 (exact x member))

/-- Where something is written that is no number, no colour is read. -/
theorem not_written_toJson (exact : ∀ x ∈ c.components, x.isFinite → ReadsBack x) {x : Binary32} (member : x ∈ c.components)
    (infinite : ¬ x.isFinite) : ¬ d.Written c.toJson.toList := by
  rintro ⟨vs, list, numbers⟩
  have values : ∀ v ∈ c.components.map fun x => (number32 x).toList, IsValue v :=
    List.forall_mem_map.mpr fun x member => isValue_number32 (exact x member)
  have same : c.toJson.toList ++ [] = c.toJson.toList ++ [] := rfl
  obtain ⟨rfl, -⟩ := list.unique c.isArray_toJson (isValue_of_floats numbers) values same
  obtain ⟨y, number⟩ := exists_isFloat numbers _ (List.mem_map_of_mem member)
  rw [number32_of_not_finite infinite] at number
  exact not_isFloat_null number

end Color

namespace LightKind

theorem variant_eq_name (k : LightKind) : k.variant = k.name := by cases k <;> rfl

theorem written_toJson (k : LightKind) : k.Written k.toJson.toList := .inl (isText_quote _)

theorem parse_eq_ok_iff {name : String} {k : LightKind} : parse name = .ok k ↔ k.name = name := by
  have listed : k ∈ all := by cases k <;> decide
  unfold parse ofName?
  cases found : all.find? fun kind => kind.name = name with
  | some kind =>
    have spelled : kind.name = name := by simpa using List.find?_some found
    simp only [Except.ok.injEq, ← spelled, ← variant_eq_name, variant_injective.eq_iff, eq_comm]
  | none =>
    have absent : ¬ k.name = name := by simpa using List.find?_eq_none.mp found k listed
    simp [absent]

/-- The text of a written kind is its name. -/
theorem run_text_toJson {expected s : String} {k : LightKind} : run (text expected) k.toJson = .ok s ↔ k.name = s := by
  have spelled : run (text expected) k.toJson = .ok k.variant :=
    (reads_text expected).run_eq_ok_iff.mpr ⟨[], _, [], nofun, isText_quote _, nofun, by simp [toJson]⟩
  rw [spelled, Except.ok.injEq, variant_eq_name]

/-- A string is read as the kind of which it is the name. -/
theorem run_reader_quote {s : String} {k : LightKind} : run reader (quote s) = .ok k ↔ k.name = s := by
  have read : reader (quote s).toList = ofVariant s [] := by
    obtain ⟨front, same, read⟩ := string_complete (isText_quote s) []
    rw [List.append_nil] at read
    have named : text "variant identifier" ('"' :: front) = .ok (s, []) :=
      (bind_ok (peek?_blank (w := []) nofun rfl _) _).trans read
    rw [same]
    exact (bind_ok (peek?_blank (w := []) nofun rfl _) _).trans (bind_ok named _)
  rw [← variant_eq_name, ← and_iff_left (a := k.variant = s) (rfl : ([] : List Char) = []), ← ofVariant_eq_ok_iff, run, read]
  cases known : ofVariant s [] with
  | error fault => simp
  | ok p =>
    obtain ⟨j, rest⟩ := p
    obtain ⟨-, rfl⟩ := ofVariant_eq_ok_iff.mp known
    simp

end LightKind

namespace Light
variable {l d : Light} {ms : List (String × List Char)} {text : String}

theorem Exact.color (exact : l.Exact) : ∀ x ∈ l.color.components, x.isFinite → ReadsBack x := fun x member =>
  exact x (List.mem_append_left _ member)

theorem Exact.intensity (exact : l.Exact) : l.intensity.isFinite → ReadsBack l.intensity :=
  exact _ (List.mem_append_right _ (List.mem_singleton_self _))

theorem isOptional_name (l : Light) : IsOptional IsText l.name (optional quote l.name).toList :=
  isOptional_optional fun s _ => isText_quote s

theorem isValue_of_mem_members (exact : l.Exact) : ∀ m ∈ l.members, IsValue m.2 := by
  simp only [members, List.forall_mem_cons, List.not_mem_nil, false_implies, implies_true, and_true]
  exact ⟨isValue_of_isOptional (fun _ => IsText.isValue) l.isOptional_name, l.kind.written_toJson.isValue, Color.isValue_toJson exact.color,
    isValue_number32 exact.intensity⟩

theorem written_intensity (exact : l.Exact) (finite : ∀ x ∈ l.numbers, x.isFinite) :
    IsFloat l.intensity (number32 l.intensity).toList :=
  have finite := finite _ (List.mem_append_right _ (List.mem_singleton_self _))
  (exact.intensity finite).isFloat finite

theorem written_color (exact : l.Exact) (finite : ∀ x ∈ l.numbers, x.isFinite) : l.color.Written l.color.toJson.toList :=
  Color.written_toJson exact.color fun x member => finite x (List.mem_append_left _ member)

/-- Numbers can be read only of a light of which all are finite. -/
theorem isFinite_of_written (exact : l.Exact) (color : d.color.Written l.color.toJson.toList)
    (intensity : IsFloat d.intensity (number32 l.intensity).toList) : ∀ x ∈ l.numbers, x.isFinite := by
  intro x member
  by_contra infinite
  rcases List.mem_append.mp member with component | last
  · exact Color.not_written_toJson exact.color component infinite color
  · obtain rfl := List.mem_singleton.mp last
    rw [number32_of_not_finite infinite] at intensity
    exact not_isFloat_null intensity

/-- Under each name stands what is written of the light. -/
structure Shows (l : Light) (ms : List (String × List Char)) : Prop where
  name : valuesOf "name" ms = [(optional quote l.name).toList] ∨ l.name = none ∧ valuesOf "name" ms = []
  kind : valuesOf "kind" ms = [l.kind.toJson.toList]
  color : valuesOf "color" ms = [l.color.toJson.toList]
  intensity : valuesOf "intensity" ms = [(number32 l.intensity).toList]

theorem shows_members (l : Light) : l.Shows l.members := by
  constructor <;> simp [valuesOf, members]

theorem shows_tail (unnamed : l.name = none) : l.Shows l.members.tail := by
  constructor <;> simp [valuesOf, members, unnamed]

theorem Shows.of_perm {ns : List (String × List Char)} (shows : l.Shows ns)
    (known : (ms.filter (·.1 ∈ fieldNames)).Perm ns) : l.Shows ms := by
  have under (field : String) (listed : field ∈ fieldNames) : (valuesOf field ms).Perm (valuesOf field ns) :=
    valuesOf_perm listed known
  constructor
  · rcases shows.name with given | ⟨unnamed, absent⟩
    · exact .inl (List.perm_singleton.mp (given ▸ under "name" (by decide)))
    · exact .inr ⟨unnamed, List.perm_nil.mp (absent ▸ under "name" (by decide))⟩
  · exact List.perm_singleton.mp (shows.kind ▸ under "kind" (by decide))
  · exact List.perm_singleton.mp (shows.color ▸ under "color" (by decide))
  · exact List.perm_singleton.mp (shows.intensity ▸ under "intensity" (by decide))

theorem Shows.members (shows : l.Shows ms) (exact : l.Exact) (finite : ∀ x ∈ l.numbers, x.isFinite)
    (others : ∀ m ∈ ms, m.1 ∉ fieldNames → IsValue m.2) : Members ms l where
  name := by
    rcases shows.name with given | ⟨unnamed, absent⟩
    · exact given ▸ .present l.isOptional_name
    · rw [absent, unnamed]
      exact .absent
  kind := ⟨_, shows.kind, l.kind.written_toJson⟩
  color := ⟨_, shows.color, written_color exact finite⟩
  intensity := ⟨_, shows.intensity, written_intensity exact finite⟩
  others := others

theorem Shows.isFinite (shows : l.Shows ms) (exact : l.Exact) (read : Members ms d) : ∀ x ∈ l.numbers, x.isFinite := by
  obtain ⟨v, values, color⟩ := read.color
  obtain ⟨w, others, intensity⟩ := read.intensity
  obtain rfl := List.singleton_inj.mp (shows.color.symm.trans values)
  obtain rfl := List.singleton_inj.mp (shows.intensity.symm.trans others)
  exact isFinite_of_written exact color intensity

theorem elements_iff : Elements (l.members.map Prod.snd) d ↔ IsOptional IsText d.name (optional quote l.name).toList ∧
    d.kind.Written l.kind.toJson.toList ∧ d.color.Written l.color.toJson.toList ∧
    IsFloat d.intensity (number32 l.intensity).toList := by
  simp only [Elements, members, List.map_cons, List.map_nil, List.forall₂_cons, List.forall₂_nil_left_iff, and_true]

/-- From a text that shows a light it is read if its numbers are finite, and nothing is read if one is not. -/
theorem run_of_shownIn (exact : l.Exact) (shown : Holds l.ShownIn text) :
    ((∀ x ∈ l.numbers, x.isFinite) → run reader text = .ok l) ∧
      ∀ d, run reader text = .ok d → ∀ x ∈ l.numbers, x.isFinite := by
  obtain ⟨w, v, x, before, form, after, whole⟩ := shown
  cases form with
  | @object ms object known others =>
    have shows : l.Shows ms := by
      rcases known with whole | ⟨unnamed, rest⟩
      · exact l.shows_members.of_perm whole
      · exact (shows_tail unnamed).of_perm rest
    have values : ∀ m ∈ ms, IsValue m.2 := by
      intro m member
      by_cases listed : m.1 ∈ fieldNames
      · have kept : m ∈ ms.filter (·.1 ∈ fieldNames) := by simp [member, listed]
        refine isValue_of_mem_members exact m ?_
        rcases known with whole | ⟨-, rest⟩
        · exact whole.mem_iff.mp kept
        · exact List.mem_of_mem_tail (rest.mem_iff.mp kept)
      · exact others m member listed
    have read {d : Light} := run_object (l := d) ⟨w, v, x, before, object, after, whole⟩ values
    exact ⟨fun finite => read.mpr (shows.members exact finite others), fun d given => shows.isFinite exact (read.mp given)⟩
  | list list =>
    have read {d : Light} := run_array (l := d) ⟨w, v, x, before, list, after, whole⟩
      (List.forall_mem_map.mpr (isValue_of_mem_members exact))
    refine ⟨fun finite => ?_, fun d given => ?_⟩
    · exact read.mpr (elements_iff.mpr
        ⟨l.isOptional_name, l.kind.written_toJson, written_color exact finite, written_intensity exact finite⟩)
    · obtain ⟨-, -, color, intensity⟩ := elements_iff.mp (read.mp given)
      exact isFinite_of_written exact color intensity

/-- An object in which a field is missing or stands twice is no light. -/
theorem not_members (wrong : (∃ field ∈ fieldNames.tail, valuesOf field ms = []) ∨
    ∃ field ∈ fieldNames, 2 ≤ (valuesOf field ms).length) : ¬ Members ms l := by
  rintro ⟨name, ⟨kind, kinds, -⟩, ⟨color, colors, -⟩, ⟨intensity, intensities, -⟩, -⟩
  rcases wrong with ⟨field, listed, absent⟩ | ⟨field, listed, twice⟩
  · simp only [fieldNames, List.tail_cons, List.mem_cons, List.not_mem_nil, or_false] at listed
    rcases listed with rfl | rfl | rfl <;> simp_all
  · simp only [fieldNames, List.mem_cons, List.not_mem_nil, or_false] at listed
    rcases listed with rfl | rfl | rfl | rfl
    · generalize valuesOf "name" ms = vs at name twice
      generalize l.name = o at name
      cases name <;> simp at twice
    all_goals simp_all

/-- A light is read back from every text that shows it, its own among them, or from none if JSON has no word for one of its
numbers. Nothing is read of an object in which a field is missing, the name apart, or stands twice. The three ways to spell a
kind are one. -/
theorem run_reader_shown (exact : l.Exact) :
    Holds l.ShownIn l.toJson ∧
      (∀ text, Holds l.ShownIn text → ((∀ x ∈ l.numbers, x.isFinite) → run reader text = .ok l) ∧
        ((∃ x ∈ l.numbers, ¬ x.isFinite) → ∃ fault, run reader text = .error fault)) ∧
      (∀ x ∈ l.numbers, ¬ x.isFinite → number32 x = "null") ∧ (∀ m ∈ l.members, IsValue m.2) ∧
      (∀ text ms, Holds (IsObject ms) text → (∀ m ∈ ms, IsValue m.2) →
        (∃ field ∈ ["kind", "color", "intensity"], valuesOf field ms = []) ∨
          (∃ field ∈ fieldNames, 2 ≤ (valuesOf field ms).length) → ∃ fault, run reader text = .error fault) ∧
      ∀ k : LightKind, k.toJson = "\"" ++ k.name ++ "\"" ∧ ∀ s,
        (LightKind.parse s = .ok k ↔ run (Reader.text "a string") k.toJson = .ok s) ∧
        (LightKind.parse s = .ok k ↔ run LightKind.reader (quote s) = .ok k) := by
  refine ⟨⟨[], _, [], nofun, shownIn_toJson, nofun, by simp⟩, fun text shown => ?_, fun x _ => number32_of_not_finite, isValue_of_mem_members exact,
    fun text ms holds values wrong => ?_, fun k => ⟨by cases k <;> rfl, fun s => ?_⟩⟩
  · obtain ⟨whole, only⟩ := run_of_shownIn exact shown
    refine ⟨whole, fun ⟨x, member, infinite⟩ => exists_error_of_unread fun d read => ?_⟩
    exact infinite (only d read x member)
  · refine exists_error_of_unread fun d read => ?_
    exact not_members wrong ((run_object holds values).mp read)
  · rw [LightKind.run_text_toJson, LightKind.run_reader_quote, LightKind.parse_eq_ok_iff]
    exact ⟨Iff.rfl, Iff.rfl⟩

/-- A light without a name, shown by three members in another order and with one that no light has between them. -/
theorem run_reader_shown_lamp :
    run reader "\x7b\"color\":[0.1,1e-45,-0.0],\"note\":\"\",\"intensity\":3.4028235e+38,\"kind\":\"spot\"\x7d" =
      .ok ⟨none, .spot, ⟨⟨0x3dcccccd#32⟩, ⟨1#32⟩, .zero true⟩, ⟨0x7f7fffff#32⟩⟩ := by
  have exact : Exact ⟨none, .spot, ⟨⟨0x3dcccccd#32⟩, ⟨1#32⟩, .zero true⟩, ⟨0x7f7fffff#32⟩⟩ := by
    unfold Exact
    decide +kernel
  have finite : ∀ x ∈ numbers ⟨none, .spot, ⟨⟨0x3dcccccd#32⟩, ⟨1#32⟩, .zero true⟩, ⟨0x7f7fffff#32⟩⟩, x.isFinite := by
    decide
  have written := isObject_object [("color", "[0.1,1e-45,-0.0]"), ("note", quote ""), ("intensity", "3.4028235e+38"),
    ("kind", quote "spot")]
  refine ((run_reader_shown exact).2.1 _ ⟨[], _, [], nofun, .object written (.inr ⟨rfl, ?_⟩) ?_, nofun, ?_⟩).1 finite
  · decide +kernel
  · simpa [fieldNames] using (isText_quote "").isValue
  · decide +kernel

end Light

end ScriptedScene
