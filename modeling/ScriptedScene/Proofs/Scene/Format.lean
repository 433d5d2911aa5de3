import ScriptedScene.Proofs.Json.Floats
import ScriptedScene.Scene.Codec

/-! The format of lights. A light is an object with members in any order, of which only the name may be left out, or a list of
its four fields; a colour is a list of three numbers; a kind is its name, or an object that has it as its one key. -/
namespace ScriptedScene

open Json Json.Reader

namespace LightKind

/-- The text of a kind. -/
def Written (k : LightKind) (cs : List Char) : Prop := IsText k.variant cs ∨ IsObject [(k.variant, "null".toList)] cs

theorem variant_injective : Function.Injective variant := by
  intro j k same
  cases j <;> cases k <;> simp_all [variant]

theorem ofVariant_eq_ok_iff {name : String} {k : LightKind} {cs rest : List Char} :
    ofVariant name cs = .ok (k, rest) ↔ k.variant = name ∧ cs = rest := by
  have listed : k ∈ all := by cases k <;> decide
  unfold ofVariant
  cases found : all.find? fun kind => kind.variant = name with
  | some kind =>
    have spelled : kind.variant = name := by simpa using List.find?_some found
    dsimp only
    rw [pure_eq_ok_iff, ← spelled, variant_injective.eq_iff, eq_comm]
  | none =>
    refine ⟨fun read => absurd read mismatch_ne_ok, fun ⟨spelled, _⟩ => ?_⟩
    exact absurd (decide_eq_true spelled) (List.find?_eq_none.mp found k listed)

/-- What is read after the key of a kind that is written as an object. -/
def closeMember (kind : LightKind) : Reader LightKind := do
  colon
  match ← peek? with
  | some 'n' =>
    advance
    ident "ull".toList
  | _ => unexpected "unit"
  match ← peek? with
  | some '\x7d' => advance
  | some _ => malformed .expectedValue
  | none => unfinished .object
  return kind

theorem closeMember_eq_ok_iff {kind k : LightKind} {cs rest : List Char} :
    closeMember kind cs = .ok (k, rest) ↔ kind = k ∧ ∃ w x y, Blank w ∧ Blank x ∧ Blank y ∧
      cs = w ++ ':' :: x ++ "null".toList ++ y ++ '\x7d' :: rest := by
  constructor
  · intro read
    obtain ⟨⟨⟩, mid, mark, further⟩ := bind_eq_ok_iff.mp read
    obtain ⟨w, before, rfl⟩ := colon_sound mark
    obtain ⟨next, tail, look, further⟩ := bind_eq_ok_iff.mp further
    obtain ⟨x, after, rfl, rfl⟩ := peek?_sound look
    generalize head : tail.head? = next at further
    split at further
    · obtain ⟨tail, rfl⟩ := List.head?_eq_some_iff.mp head
      rw [bind_ok (advance_cons ..)] at further
      obtain ⟨⟨⟩, mid, named, last⟩ := bind_eq_ok_iff.mp further
      obtain rfl := ident_eq_ok_iff.mp named
      obtain ⟨next, tail, look, last⟩ := bind_eq_ok_iff.mp last
      obtain ⟨y, blank, rfl, rfl⟩ := peek?_sound look
      generalize head : tail.head? = next at last
      split at last
      · obtain ⟨tail, rfl⟩ := List.head?_eq_some_iff.mp head
        rw [bind_ok (advance_cons ..)] at last
        obtain ⟨rfl, rfl⟩ := pure_eq_ok_iff.mp last
        exact ⟨rfl, w, x, y, before, after, blank, by simp⟩
      · exact nomatch last
      · exact nomatch last
    · obtain ⟨_, _, wrong, -⟩ := bind_eq_ok_iff.mp further
      exact absurd wrong unexpected_ne_ok
  · rintro ⟨rfl, w, x, y, before, after, blank, rfl⟩
    have named : ident "ull".toList ("ull".toList ++ (y ++ '\x7d' :: rest)) = .ok ((), y ++ '\x7d' :: rest) :=
      ident_eq_ok_iff.mpr rfl
    simp only [List.append_assoc, List.cons_append]
    refine (bind_ok (colon_complete before _) _).trans ?_
    refine (bind_ok (peek?_blank (c := 'n') after rfl _) _).trans ((bind_ok (advance_cons ..) _).trans ?_)
    refine (bind_ok named _).trans ?_
    exact (bind_ok (peek?_blank blank rfl _) _).trans rfl

theorem reads_reader : Reads reader Written where
  sound {cs rest k} read := by
    obtain ⟨next, tail, look, further⟩ := bind_eq_ok_iff.mp read
    obtain ⟨w, blank, rfl, rfl⟩ := peek?_sound look
    generalize head : tail.head? = next at further
    split at further
    · exact nomatch further
    · obtain ⟨s, mid, name, known⟩ := bind_eq_ok_iff.mp further
      obtain ⟨rfl, rfl⟩ := ofVariant_eq_ok_iff.mp known
      obtain ⟨u, v, more, text, rfl⟩ := (reads_text _).sound name
      exact ⟨w ++ u, v, blank.append more, .inl text, by simp⟩
    · obtain ⟨tail, rfl⟩ := List.head?_eq_some_iff.mp head
      rw [bind_ok (advance_cons ..)] at further
      obtain ⟨next, inner, look, keyed⟩ := bind_eq_ok_iff.mp further
      obtain ⟨before, void, rfl, rfl⟩ := peek?_sound look
      generalize inner.head? = next at keyed
      split at keyed
      · exact nomatch keyed
      · exact nomatch keyed
      · obtain ⟨s, mid, name, keyed⟩ := bind_eq_ok_iff.mp keyed
        obtain ⟨kind, mid', known, closed⟩ := bind_eq_ok_iff.mp keyed
        obtain ⟨rfl, rfl⟩ := ofVariant_eq_ok_iff.mp known
        obtain ⟨u, key, more, text, rfl⟩ := (reads_text _).sound name
        obtain ⟨rfl, x, y, z, first, second, third, rfl⟩ := closeMember_eq_ok_iff.mp closed
        have item : NamedMember (kind.variant, "null".toList) (before ++ u ++ key ++ x ++ ':' :: y ++ "null".toList) :=
          ⟨key, text, before ++ u, x, y, void.append more, first, second, rfl⟩
        exact ⟨w, _, blank, .inr ⟨_, .first item (.done third), rfl⟩, by simp⟩
      · exact nomatch keyed
    · exact nomatch further
  complete {w v rest k} blank form ends := by
    rcases form with spelled | ⟨body, items, rfl⟩
    · obtain ⟨front, rfl, read⟩ := string_complete spelled rest
      have named : text "variant identifier" ('"' :: (front ++ rest)) = .ok (k.variant, rest) :=
        (bind_ok (peek?_blank (w := []) nofun rfl _) _).trans read
      rw [List.append_assoc, List.cons_append]
      refine (bind_ok (peek?_blank blank rfl _) _).trans ((bind_ok named _).trans ?_)
      exact ofVariant_eq_ok_iff.mpr ⟨rfl, rfl⟩
    · obtain _ | ⟨item, _ | after⟩ := items
      rename_i z third
      obtain ⟨key, spelled, u, x, y, before, first, second, rfl⟩ := item
      obtain ⟨tail, taken⟩ : ∃ tail, tail = x ++ ':' :: y ++ "null".toList ++ z ++ '\x7d' :: rest := ⟨_, rfl⟩
      have closed : closeMember k tail = .ok (k, rest) :=
        closeMember_eq_ok_iff.mpr ⟨rfl, x, y, z, first, second, third, taken⟩
      obtain ⟨front, rfl, read⟩ := string_complete spelled tail
      have named : text "variant identifier" ('"' :: (front ++ tail)) = .ok (k.variant, tail) :=
        (bind_ok (peek?_blank (w := []) nofun rfl _) _).trans read
      have same : w ++ '\x7b' :: (u ++ '"' :: front ++ x ++ ':' :: y ++ "null".toList ++ (z ++ ['\x7d'])) ++ rest =
          w ++ '\x7b' :: (u ++ '"' :: (front ++ tail)) := by simp [taken]
      rw [same]
      refine (bind_ok (peek?_blank blank rfl _) _).trans ((bind_ok (advance_cons ..) _).trans ?_)
      refine (bind_ok (peek?_blank before rfl _) _).trans ((bind_ok named _).trans ?_)
      exact (bind_ok (ofVariant_eq_ok_iff.mpr ⟨rfl, rfl⟩) _).trans closed
  visible form := by
    rcases form with text | ⟨body, items, rfl⟩
    · simpa using text.visible []
    · exact ⟨'\x7b', body, rfl, rfl, by decide⟩

end LightKind

namespace Color

/-- The text of a colour. -/
def Written (c : Color) (cs : List Char) : Prop := ∃ vs, IsArray vs cs ∧ List.Forall₂ IsFloat c.components vs

theorem readsItems_components : ReadsItems ']' Element true (component 0 >>= fun red => component 1 >>= fun green =>
    component 2 >>= fun blue => listEnd >>= fun _ => pure (⟨red, green, blue⟩ : Color))
    fun vs c => List.Forall₂ IsFloat c.components vs := by
  have third (red green : Binary32) : ReadsItems ']' Element false (component 2 >>= fun blue =>
      listEnd >>= fun _ => pure (⟨red, green, blue⟩ : Color)) fun vs c =>
      c.red = red ∧ c.green = green ∧ List.Forall₂ IsFloat [c.blue] vs :=
    .required reads_binary32 (fun _ => rfl) rfl (fun _ => readsItems_listEnd false _) false (fun ⟨_, _, _⟩ => by simp)
      (fun _ _ ⟨_, _, _⟩ => by simp [and_assoc, and_comm, and_left_comm])
  have second (red : Binary32) : ReadsItems ']' Element false (component 1 >>= fun green => component 2 >>= fun blue =>
      listEnd >>= fun _ => pure (⟨red, green, blue⟩ : Color)) fun vs c =>
      c.red = red ∧ List.Forall₂ IsFloat [c.green, c.blue] vs :=
    .required reads_binary32 (fun _ => rfl) rfl (third red) false (fun ⟨_, _, _⟩ => by simp)
      (fun _ _ ⟨_, _, _⟩ => by simp [and_left_comm])
  exact .required reads_binary32 (fun _ => rfl) rfl second true (fun ⟨_, _, _⟩ => by simp [components])
    (fun _ _ ⟨_, _, _⟩ => by simp [components])

theorem reads_reader : Reads reader Written where
  sound {cs rest c} read := by
    obtain ⟨next, tail, look, further⟩ := bind_eq_ok_iff.mp read
    obtain ⟨w, blank, rfl, rfl⟩ := peek?_sound look
    generalize head : tail.head? = next at further
    split at further
    · obtain ⟨tail, rfl⟩ := List.head?_eq_some_iff.mp head
      rw [bind_ok (advance_cons ..)] at further
      obtain ⟨vs, body, items, form, rfl⟩ := readsItems_components.sound further
      exact ⟨w, '[' :: body, blank, ⟨vs, ⟨body, items, rfl⟩, form⟩, by simp⟩
    · exact absurd further unexpected_ne_ok
  complete {w v rest c} blank form ends := by
    obtain ⟨vs, ⟨body, items, rfl⟩, form⟩ := form
    rw [List.append_assoc]
    refine (bind_ok (peek?_blank blank rfl _) _).trans ((bind_ok (advance_cons ..) _).trans ?_)
    exact readsItems_components.complete items form
  visible form := by
    obtain ⟨vs, ⟨body, items, rfl⟩, form⟩ := form
    exact ⟨'[', body, rfl, rfl, by decide⟩

end Color

namespace Light

/-- The names of the fields, in order. -/
def fieldNames : List String := ["name", "kind", "color", "intensity"]

/-- What the members of an object say of a light. Only its name may be left out, and then it has none. -/
structure Members (ms : List (String × List Char)) (l : Light) : Prop where
  name : Given (IsOptional IsText) none (valuesOf "name" ms) l.name
  kind : Required LightKind.Written (valuesOf "kind" ms) l.kind
  color : Required Color.Written (valuesOf "color" ms) l.color
  intensity : Required IsFloat (valuesOf "intensity" ms) l.intensity
  others : ∀ m ∈ ms, m.1 ∉ fieldNames → IsValue m.2

/-- What the elements of a list say of a light. -/
def Elements (vs : List (List Char)) (l : Light) : Prop :=
  List.Forall₂ (fun (Form : List Char → Prop) v => Form v)
    [IsOptional IsText l.name, l.kind.Written, l.color.Written, IsFloat l.intensity] vs

/-- The text of a light. -/
def Written (l : Light) (cs : List Char) : Prop :=
  (∃ ms, IsObject ms cs ∧ Members ms l) ∨ ∃ vs, IsArray vs cs ∧ Elements vs l

theorem reads_name : Reads (Reader.optional (text "a string")) (IsOptional IsText) :=
  (reads_text _).optional fun s v form => by
    obtain ⟨pieces, -, rfl⟩ := form
    simp

/-- What a member adds to the fields read so far. -/
def Fields.Step (key : String) (fields : Fields) (v : List Char) (next : Fields) : Prop :=
  FieldStep "name" (IsOptional IsText) key v fields.name next.name ∧
    FieldStep "kind" LightKind.Written key v fields.kind next.kind ∧
    FieldStep "color" Color.Written key v fields.color next.color ∧
    FieldStep "intensity" IsFloat key v fields.intensity next.intensity ∧ (key ∉ fieldNames → IsValue v)

theorem Fields.reads_read (key : String) (fields : Fields) : ReadsMember (Fields.read key fields) (Fields.Step key fields) := by
  unfold Fields.read
  split_ifs with name kind color intensity
  · subst name
    refine (readsMember_fieldValue reads_name _ _ fun o => { fields with name := o }).congr fun v ⟨_, _, _, _⟩ => ?_
    simp only [Step, fieldStep_self, fieldStep_other, fieldNames, ne_eq, String.reduceEq, not_false_eq_true]
    grind
  · subst kind
    refine (readsMember_fieldValue LightKind.reads_reader _ _ fun o => { fields with kind := o }).congr fun v ⟨_, _, _, _⟩ => ?_
    simp only [Step, fieldStep_self, fieldStep_other, fieldNames, ne_eq, String.reduceEq, not_false_eq_true]
    grind
  · subst color
    refine (readsMember_fieldValue Color.reads_reader _ _ fun o => { fields with color := o }).congr fun v ⟨_, _, _, _⟩ => ?_
    simp only [Step, fieldStep_self, fieldStep_other, fieldNames, ne_eq, String.reduceEq, not_false_eq_true]
    grind
  · subst intensity
    refine (readsMember_fieldValue reads_binary32 _ _ fun o => { fields with intensity := o }).congr fun v ⟨_, _, _, _⟩ => ?_
    simp only [Step, fieldStep_self, fieldStep_other, fieldNames, ne_eq, String.reduceEq, not_false_eq_true]
    grind
  · refine (readsMember_skipField fields).congr fun v ⟨_, _, _, _⟩ => ?_
    obtain ⟨_, _, _, _⟩ := fields
    simp only [Step, fieldStep_other, fieldNames, ne_eq, name, kind, color, intensity, not_false_eq_true]
    grind

theorem Fields.steps_iff {ms : List (String × List Char)} {s t : Fields} : Steps Fields.Step ms s t ↔
    Filled (IsOptional IsText) "name" ms s.name t.name ∧ Filled LightKind.Written "kind" ms s.kind t.kind ∧
      Filled Color.Written "color" ms s.color t.color ∧ Filled IsFloat "intensity" ms s.intensity t.intensity ∧
      ∀ m ∈ ms, m.1 ∉ fieldNames → IsValue m.2 := by
  induction ms generalizing s with
  | nil =>
    obtain ⟨name, kind, color, intensity⟩ := s
    obtain ⟨name', kind', color', intensity'⟩ := t
    simp [steps_nil_iff, filled_nil, eq_comm]
  | cons m ms ih =>
    obtain ⟨key, v⟩ := m
    simp only [steps_cons_iff, ih, filled_cons, List.forall_mem_cons]
    constructor
    · rintro ⟨mid, ⟨name, kind, color, intensity, value⟩, names, kinds, colors, intensities, others⟩
      exact ⟨⟨_, name, names⟩, ⟨_, kind, kinds⟩, ⟨_, color, colors⟩, ⟨_, intensity, intensities⟩, value, others⟩
    · rintro ⟨⟨_, name, names⟩, ⟨_, kind, kinds⟩, ⟨_, color, colors⟩, ⟨_, intensity, intensities⟩, value, others⟩
      exact ⟨⟨_, _, _, _⟩, ⟨name, kind, color, intensity, value⟩, names, kinds, colors, intensities, others⟩

theorem required_eq_ok_iff {α : Type} {name : String} {o : Option α} {cs rest : List Char} {a : α} :
    required name o cs = .ok (a, rest) ↔ o = some a ∧ cs = rest := by
  cases o with
  | none => exact ⟨fun read => absurd read mismatch_ne_ok, nofun⟩
  | some b => rw [Option.some.injEq]; exact pure_eq_ok_iff

/-- What has been read is a light. -/
def Fields.Complete (fields : Fields) (l : Light) : Prop :=
  l.name = fields.name.getD none ∧ fields.kind = some l.kind ∧ fields.color = some l.color ∧ fields.intensity = some l.intensity

theorem Fields.finish_eq_ok_iff {fields : Fields} {cs rest : List Char} {l : Light} :
    fields.finish cs = .ok (l, rest) ↔ fields.Complete l ∧ cs = rest := by
  obtain ⟨name, kind, color, intensity⟩ := l
  have same : fields.name.join = fields.name.getD none := by cases fields.name <;> rfl
  simp only [finish, bind_eq_ok_iff, required_eq_ok_iff, pure_eq_ok_iff, same, Light.mk.injEq, Complete]
  grind

theorem Fields.finished_iff {ms : List (String × List Char)} {l : Light} :
    (∃ fields, Steps Fields.Step ms ⟨none, none, none, none⟩ fields ∧ fields.Complete l) ↔ Members ms l := by
  simp only [Fields.steps_iff]
  constructor
  · rintro ⟨⟨_, _, _, _⟩, ⟨name, kind, color, intensity, others⟩, same, rfl, rfl, rfl⟩
    exact ⟨filled_given.mp ⟨_, name, same⟩, filled_required.mp kind, filled_required.mp color,
      filled_required.mp intensity, others⟩
  · rintro ⟨name, kind, color, intensity, others⟩
    obtain ⟨final, filled, same⟩ := filled_given.mpr name
    exact ⟨⟨final, some l.kind, some l.color, some l.intensity⟩, ⟨filled, filled_required.mpr kind, filled_required.mpr color,
      filled_required.mpr intensity, others⟩, same, rfl, rfl, rfl⟩

theorem reads_reader : ReadsDelimited reader Written := by
  have members := readsItems_finished Fields.reads_read ⟨none, none, none, none⟩ Fields.finish Fields.Complete
    Fields.finish_eq_ok_iff
  simp only [Fields.finished_iff] at members
  have fourth (name : Option String) (kind : LightKind) (color : Color) : ReadsItems ']' Element false
      (element 3 binary32 >>= fun intensity => listEnd >>= fun _ => pure (⟨name, kind, color, intensity⟩ : Light)) fun vs l =>
      l.name = name ∧ l.kind = kind ∧ l.color = color ∧
        List.Forall₂ (fun (Form : List Char → Prop) v => Form v) [IsFloat l.intensity] vs :=
    .required reads_binary32 (fun _ => rfl) rfl (fun _ => readsItems_listEnd false _) false (fun ⟨_, _, _, _⟩ => by simp)
      (fun _ _ ⟨_, _, _, _⟩ => by simp [and_assoc, and_comm, and_left_comm])
  have third (name : Option String) (kind : LightKind) : ReadsItems ']' Element false (element 2 Color.reader >>= fun color =>
      element 3 binary32 >>= fun intensity => listEnd >>= fun _ => pure (⟨name, kind, color, intensity⟩ : Light)) fun vs l =>
      l.name = name ∧ l.kind = kind ∧
        List.Forall₂ (fun (Form : List Char → Prop) v => Form v) [l.color.Written, IsFloat l.intensity] vs :=
    .required Color.reads_reader (fun _ => rfl) rfl (fourth name kind) false (fun ⟨_, _, _, _⟩ => by simp)
      (fun _ _ ⟨_, _, _, _⟩ => by simp [and_left_comm])
  have second (name : Option String) : ReadsItems ']' Element false (element 1 LightKind.reader >>= fun kind =>
      element 2 Color.reader >>= fun color => element 3 binary32 >>= fun intensity =>
      listEnd >>= fun _ => pure (⟨name, kind, color, intensity⟩ : Light)) fun vs l =>
      l.name = name ∧ List.Forall₂ (fun (Form : List Char → Prop) v => Form v)
        [l.kind.Written, l.color.Written, IsFloat l.intensity] vs :=
    .required LightKind.reads_reader (fun _ => rfl) rfl (third name) false (fun ⟨_, _, _, _⟩ => by simp)
      (fun _ _ ⟨_, _, _, _⟩ => by simp [and_left_comm])
  have elements : ReadsItems ']' Element true (element 0 (Reader.optional (text "a string")) >>= fun name =>
      element 1 LightKind.reader >>= fun kind => element 2 Color.reader >>= fun color =>
      element 3 binary32 >>= fun intensity => listEnd >>= fun _ => pure (⟨name, kind, color, intensity⟩ : Light)) Elements :=
    .required reads_name (fun _ => rfl) rfl second true (fun ⟨_, _, _, _⟩ => by simp [Elements])
      (fun _ _ ⟨_, _, _, _⟩ => by simp [Elements])
  exact reads_record members (by simpa only [bind_assoc, pure_bind] using elements) _

end Light
end ScriptedScene
