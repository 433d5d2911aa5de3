import ScriptedScene.Json.Writer
import ScriptedScene.Proofs.Json.Scalars

/-! Written text is text of the grammar, and says what was written. -/
namespace ScriptedScene.Json
variable {α : Type}

theorem hexDigit_lowerHexDigit {n : Nat} (small : n < 16) : HexDigit n (lowerHexDigit n) := by
  have table : ∀ n < 16, "0123456789abcdef".toList[n]? = some (lowerHexDigit n) := by decide
  exact .inl (table n small)

theorem spells_escapedChar (c : Char) : Spells c (escapedChar c) := by
  unfold escapedChar
  split_ifs with self back page line return_ tab control
  · rw [Bool.or_eq_true, beq_iff_eq, beq_iff_eq] at self
    rcases self with rfl | rfl <;> exact .short (by decide)
  · exact eq_of_beq back ▸ .short (by decide)
  · exact eq_of_beq page ▸ .short (by decide)
  · exact eq_of_beq line ▸ .short (by decide)
  · exact eq_of_beq return_ ▸ .short (by decide)
  · exact eq_of_beq tab ▸ .short (by decide)
  · have small : c.toNat < 32 := control
    have hex := Hex.digits (hexDigit_lowerHexDigit (n := 0) (by decide)) (hexDigit_lowerHexDigit (n := 0) (by decide))
      (hexDigit_lowerHexDigit (n := c.toNat / 16) (by omega)) (hexDigit_lowerHexDigit (n := c.toNat % 16) (by omega))
    have value : ((0 * 16 + 0) * 16 + c.toNat / 16) * 16 + c.toNat % 16 = c.toNat := by omega
    have spelled := Spells.unit hex (.inl (by omega))
    rw [value, Char.ofNat_toNat] at spelled
    exact spelled
  · simp only [Bool.or_eq_true, beq_iff_eq, not_or] at self
    exact .plain ⟨Char.not_lt.mp control, self⟩

/-- A written string has the text that was written. -/
theorem isText_quote (s : String) : IsText s (quote s).toList := by
  refine ⟨s.toList.map escapedChar, ?_, by simp [quote, List.flatMap_def]⟩
  rw [List.forall₂_map_right_iff, List.forall₂_same]
  exact fun c _ => spells_escapedChar c

theorem isBoolean_boolean (b : Bool) : IsBoolean b (boolean b).toList := by cases b <;> rfl

theorem isOptional_optional {Form : α → List Char → Prop} {write : α → String} {o : Option α}
    (each : ∀ a ∈ o, Form a (write a).toList) : IsOptional Form o (optional write o).toList := by
  cases o with
  | none => rfl
  | some a => exact each a rfl

/-! ## Items -/

theorem items_rest {closer : Char} {Item : α → List Char → Prop} {items : List α} {written : List (List Char)}
    (each : List.Forall₂ Item items written) : Items closer Item false items (written.flatMap (',' :: ·) ++ [closer]) := by
  induction each with
  | nil => exact .done (w := []) nofun
  | cons item others ih =>
    rw [List.flatMap_cons, List.append_assoc]
    exact .more (w := []) nofun item ih

theorem intercalate_cons (cs : List Char) (written : List (List Char)) :
    [','].intercalate (cs :: written) = cs ++ written.flatMap (',' :: ·) := by
  induction written generalizing cs with
  | nil => simp
  | cons other written ih =>
    rw [List.intercalate_cons_cons, ih]
    simp

theorem items_intercalate {closer : Char} {Item : α → List Char → Prop} {items : List α} {written : List (List Char)}
    (each : List.Forall₂ Item items written) : Items closer Item true items ([','].intercalate written ++ [closer]) := by
  cases each with
  | nil => exact .done (w := []) nofun
  | cons item others =>
    rw [intercalate_cons, List.append_assoc]
    exact .first item (items_rest others)

/-- A written object has the members that were written. -/
theorem isObject_object (members : List (String × String)) :
    IsObject (members.map fun m => (m.1, m.2.toList)) (object members).toList := by
  have each : List.Forall₂ NamedMember (members.map fun m => (m.1, m.2.toList))
      (members.map fun m => (quote m.1).toList ++ ':' :: m.2.toList) := by
    rw [List.forall₂_map_left_iff, List.forall₂_map_right_iff, List.forall₂_same]
    exact fun m _ => ⟨_, isText_quote m.1, [], [], [], nofun, nofun, nofun, by simp⟩
  refine ⟨_, items_intercalate each, ?_⟩
  simp [object, String.toList_intercalate, Function.comp_def]

/-- A written list has the elements that were written. -/
theorem isArray_list (elements : List String) : IsArray (elements.map String.toList) (list elements).toList := by
  have each : List.Forall₂ Element (elements.map String.toList) (elements.map String.toList) := by
    rw [List.forall₂_same]
    exact fun v _ => ⟨[], nofun, rfl⟩
  refine ⟨_, items_intercalate each, ?_⟩
  simp [list, String.toList_intercalate]

end ScriptedScene.Json
