import ScriptedScene.Proofs.Json.Records

/-! No text is of the grammar in two ways: what an object or a list holds is settled by its text, and so is where it ends.
Strings and values are settled by their readers, which take one text of any given one; what is built from them is settled
item by item. -/
namespace ScriptedScene.Json
variable {v w u rest more : List Char}

theorem Visible.dropWhile (visible : Visible v) (rest : List Char) : (v ++ rest).dropWhile Reader.isSpace = v ++ rest := by
  obtain ⟨c, v, rfl, seen, -⟩ := visible
  exact List.dropWhile_cons_of_neg (by simp [seen])

/-- Blanks end where something is seen. -/
theorem Blank.unique {x : List Char} (one : Blank w) (other : Blank u) (seen : Visible v) (second : Visible x)
    (same : w ++ (v ++ rest) = u ++ (x ++ more)) : v ++ rest = x ++ more := by
  have left := congrArg (List.dropWhile Reader.isSpace) same
  rwa [Reader.dropWhile_blank one, Reader.dropWhile_blank other, seen.dropWhile, second.dropWhile] at left

theorem visible_mark {c : Char} (mark : c ∈ [',', ':']) (cs : List Char) : Visible (c :: cs) := by
  have table : ∀ c ∈ [',', ':'], Reader.isSpace c = false ∧ c ∉ [']', '\x7d'] := by simp [Reader.isSpace]
  exact ⟨c, cs, rfl, table c mark⟩

theorem IsText.unique {s t : String} {key other : List Char} (one : IsText s key) (second : IsText t other)
    (same : key ++ rest = other ++ more) : s = t ∧ rest = more := by
  obtain ⟨front, rfl, read⟩ := Reader.string_complete one rest
  obtain ⟨back, rfl, again⟩ := Reader.string_complete second more
  have tail : front ++ rest = back ++ more := (List.cons.inj same).2
  rw [tail, again] at read
  cases read
  exact ⟨rfl, rfl⟩

theorem IsValue.unique {x : List Char} (one : IsValue v) (second : IsValue x) (ends : Ends rest) (stops : Ends more)
    (same : v ++ rest = x ++ more) : v = x ∧ rest = more := by
  have read := Reader.skipValue_complete (w := []) one nofun ends
  have again := Reader.skipValue_complete (w := []) second nofun stops
  simp only [List.nil_append] at read again
  rw [same, again] at read
  cases read
  exact ⟨List.append_cancel_right same, rfl⟩

/-! ## Items -/

/-- Items that can be told apart, and what follows each from it. -/
structure Settled {α : Type} (Item : α → List Char → Prop) (Proper : α → Prop) : Prop where
  shown : ∀ {a cs}, Item a cs → Proper a → ∃ w inner, Blank w ∧ cs = w ++ inner ∧ Visible inner
  unique : ∀ {a b cs ds rest more}, Item a cs → Item b ds → Proper a → Proper b → Ends rest → Ends more →
    cs ++ rest = ds ++ more → a = b ∧ rest = more

section
variable {α : Type} {Item : α → List Char → Prop} {Proper : α → Prop} {closer : Char} {as bs : List α}
  {body other : List Char} {first : Bool}

theorem isSpace_closer (bracket : closer ∈ [']', '\x7d']) : Reader.isSpace closer = false := by
  have table : ∀ c ∈ [']', '\x7d'], Reader.isSpace c = false := by simp [Reader.isSpace]
  exact table closer bracket

/-- Where something else is seen no bracket closes. -/
theorem Blank.not_closed {inner : List Char} (bracket : closer ∈ [']', '\x7d']) (one : Blank w) (second : Blank u)
    (visible : Visible inner) : w ++ closer :: rest ≠ u ++ (inner ++ more) := by
  have seen := isSpace_closer bracket
  obtain ⟨c, inner, rfl, shown, inside⟩ := visible
  intro same
  have left := congrArg (List.dropWhile Reader.isSpace) same
  rw [Reader.dropWhile_blank one, Reader.dropWhile_blank second, List.cons_append,
    List.dropWhile_cons_of_neg (by simp [seen]), List.dropWhile_cons_of_neg (by simp [shown])] at left
  exact inside ((List.cons.inj left).1 ▸ bracket)

theorem Items.unique (settled : Settled Item Proper) (bracket : closer ∈ [']', '\x7d'])
    (one : Items closer Item first as body) (second : Items closer Item first bs other) (proper : ∀ a ∈ as, Proper a)
    (decent : ∀ b ∈ bs, Proper b) (same : body ++ rest = other ++ more) : as = bs ∧ rest = more := by
  have seen := isSpace_closer bracket
  induction one generalizing bs other with
  | @done first w blank =>
    rw [List.append_assoc, List.singleton_append] at same
    cases second with
    | @done _ u void =>
      rw [List.append_assoc, List.singleton_append] at same
      have left := congrArg (List.dropWhile Reader.isSpace) same
      rw [Reader.dropWhile_blank blank, Reader.dropWhile_blank void, List.dropWhile_cons_of_neg (by simp [seen]),
        List.dropWhile_cons_of_neg (by simp [seen])] at left
      exact ⟨rfl, (List.cons.inj left).2⟩
    | first item others =>
      obtain ⟨u, inner, void, rfl, visible⟩ := settled.shown item (decent _ List.mem_cons_self)
      simp only [List.append_assoc] at same
      exact absurd same (blank.not_closed bracket void visible)
    | more void item others =>
      simp only [List.append_assoc] at same
      exact absurd same (blank.not_closed bracket void (visible_mark (by simp) _))
  | @first cs tail a as item others ih =>
    rw [List.forall_mem_cons] at proper
    cases second with
    | done void =>
      obtain ⟨u, inner, blank, rfl, visible⟩ := settled.shown item proper.1
      simp only [List.append_assoc, List.singleton_append] at same
      exact absurd same.symm (void.not_closed bracket blank visible)
    | first twin further =>
      rw [List.forall_mem_cons] at decent
      rw [List.append_assoc, List.append_assoc] at same
      obtain ⟨rfl, left⟩ := settled.unique item twin proper.1 decent.1 (others.ends bracket _) (further.ends bracket _) same
      obtain ⟨rfl, last⟩ := ih further proper.2 decent.2 left
      exact ⟨rfl, last⟩
  | @more w cs tail a as blank item others ih =>
    rw [List.forall_mem_cons] at proper
    cases second with
    | done void =>
      simp only [List.append_assoc, List.singleton_append] at same
      exact absurd same.symm (void.not_closed bracket blank (visible_mark (by simp) _))
    | more void twin further =>
      rw [List.forall_mem_cons] at decent
      simp only [List.append_assoc] at same
      have left := blank.unique void (visible_mark (by simp) _) (visible_mark (by simp) _) same
      obtain ⟨rfl, left⟩ := settled.unique item twin proper.1 decent.1 (others.ends bracket _) (further.ends bracket _)
        (List.cons.inj left).2
      obtain ⟨rfl, last⟩ := ih further proper.2 decent.2 left
      exact ⟨rfl, last⟩

end

theorem settled_element : Settled Element IsValue where
  shown item value := by
    obtain ⟨w, blank, rfl⟩ := item
    exact ⟨w, _, blank, rfl, value.visible⟩
  unique item twin value second ends stops same := by
    obtain ⟨w, blank, rfl⟩ := item
    obtain ⟨u, void, rfl⟩ := twin
    rw [List.append_assoc, List.append_assoc] at same
    exact value.unique second ends stops (blank.unique void value.visible second.visible same)

theorem settled_member : Settled NamedMember fun m => IsValue m.2 where
  shown {m cs} item value := by
    obtain ⟨key, text, u, w, x, blank, -, -, rfl⟩ := item
    exact ⟨u, key ++ (w ++ ':' :: x ++ m.2), blank, by simp, text.visible _⟩
  unique {m n cs ds rest more} item twin value second ends stops same := by
    obtain ⟨key, text, u, w, x, before, between, after, rfl⟩ := item
    obtain ⟨twin, spelled, u', w', x', first, middle, last, rfl⟩ := twin
    simp only [List.append_assoc, List.cons_append] at same
    obtain ⟨name, same⟩ := text.unique spelled (before.unique first (by simpa using text.visible [])
      (by simpa using spelled.visible []) same)
    have left := (List.cons.inj (between.unique middle (visible_mark (c := ':') (by simp) [])
      (visible_mark (c := ':') (by simp) []) same)).2
    obtain ⟨same, rest⟩ := value.unique second ends stops (after.unique last value.visible second.visible left)
    exact ⟨Prod.ext name same, rest⟩

/-- A list has the elements that its text says. -/
theorem IsArray.unique {vs us : List (List Char)} {cs ds : List Char} (one : IsArray vs cs) (second : IsArray us ds)
    (values : ∀ v ∈ vs, IsValue v) (others : ∀ v ∈ us, IsValue v) (same : cs ++ rest = ds ++ more) : vs = us ∧ rest = more := by
  obtain ⟨body, items, rfl⟩ := one
  obtain ⟨other, twins, rfl⟩ := second
  exact items.unique settled_element (by simp) twins values others (List.cons.inj same).2

/-- An object has the members that its text says. -/
theorem IsObject.unique {ms ns : List (String × List Char)} {cs ds : List Char} (one : IsObject ms cs)
    (second : IsObject ns ds) (values : ∀ m ∈ ms, IsValue m.2) (others : ∀ m ∈ ns, IsValue m.2)
    (same : cs ++ rest = ds ++ more) : ms = ns ∧ rest = more := by
  obtain ⟨body, items, rfl⟩ := one
  obtain ⟨other, twins, rfl⟩ := second
  exact items.unique settled_member (by simp) twins values others (List.cons.inj same).2

/-- An object and a list start with other brackets. -/
theorem IsObject.not_array {ms : List (String × List Char)} {vs : List (List Char)} {cs ds : List Char} (object : IsObject ms cs)
    (list : IsArray vs ds) : cs ++ rest ≠ ds ++ more := by
  obtain ⟨body, -, rfl⟩ := object
  obtain ⟨other, -, rfl⟩ := list
  intro same
  exact absurd (List.cons.inj same).1 (by decide)

theorem IsObject.visible {ms : List (String × List Char)} {cs : List Char} (object : IsObject ms cs) : Visible cs := by
  obtain ⟨body, -, rfl⟩ := object
  exact ⟨'\x7b', body, rfl, rfl, by decide⟩

theorem IsArray.visible {vs : List (List Char)} {cs : List Char} (list : IsArray vs cs) : Visible cs := by
  obtain ⟨body, -, rfl⟩ := list
  exact ⟨'[', body, rfl, rfl, by decide⟩

section
variable {α : Type} {value : Reader α} {Members : List (String × List Char) → α → Prop}
  {Elements : List (List Char) → α → Prop} {text : String} {a : α}

/-- Of an object that is read, the members say what is read. -/
theorem Reader.Reads.run_object
    (reads : Reads value fun a cs => (∃ ms, IsObject ms cs ∧ Members ms a) ∨ ∃ vs, IsArray vs cs ∧ Elements vs a)
    (proper : ∀ {ms a}, Members ms a → ∀ m ∈ ms, IsValue m.2) {ms : List (String × List Char)}
    (holds : Holds (IsObject ms) text) (values : ∀ m ∈ ms, IsValue m.2) : run value text = .ok a ↔ Members ms a := by
  obtain ⟨w, v, x, before, object, after, whole⟩ := holds
  rw [reads.run_eq_ok_iff]
  constructor
  · rintro ⟨u, v', y, first, ⟨ms', other, members⟩ | ⟨vs, list, -⟩, last, same⟩
    · rw [whole, List.append_assoc, List.append_assoc] at same
      have left := before.unique first object.visible other.visible same
      obtain ⟨rfl, -⟩ := object.unique other values (proper members) left
      exact members
    · rw [whole, List.append_assoc, List.append_assoc] at same
      exact absurd (before.unique first object.visible list.visible same) (object.not_array list)
  · exact fun members => ⟨w, v, x, before, .inl ⟨ms, object, members⟩, after, whole⟩

/-- Of a list that is read, the elements say what is read. -/
theorem Reader.Reads.run_array
    (reads : Reads value fun a cs => (∃ ms, IsObject ms cs ∧ Members ms a) ∨ ∃ vs, IsArray vs cs ∧ Elements vs a)
    (proper : ∀ {vs a}, Elements vs a → ∀ v ∈ vs, IsValue v) {vs : List (List Char)}
    (holds : Holds (IsArray vs) text) (values : ∀ v ∈ vs, IsValue v) : run value text = .ok a ↔ Elements vs a := by
  obtain ⟨w, v, x, before, list, after, whole⟩ := holds
  rw [reads.run_eq_ok_iff]
  constructor
  · rintro ⟨u, v', y, first, ⟨ms, object, -⟩ | ⟨vs', other, elements⟩, last, same⟩
    · rw [whole, List.append_assoc, List.append_assoc] at same
      exact absurd (before.unique first list.visible object.visible same).symm (object.not_array list)
    · rw [whole, List.append_assoc, List.append_assoc] at same
      have left := before.unique first list.visible other.visible same
      obtain ⟨rfl, -⟩ := list.unique other values (proper elements) left
      exact elements
  · exact fun elements => ⟨w, v, x, before, .inr ⟨vs, list, elements⟩, after, whole⟩

end

end ScriptedScene.Json
