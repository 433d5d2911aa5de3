import ScriptedScene.Proofs.Json.Tokens

/-! Strings and numbers that nobody asked for: what is skipped is one of the grammar, and every such one is skipped whole,
if nothing follows a number that would go on with it. -/
namespace ScriptedScene.Json

/-! ## What stands after a value -/

/-- What stands there does not go on with a number. -/
def Ends (cs : List Char) : Prop := ∀ c ∈ cs.head?, c.isDigit = false ∧ c ∉ ['.', 'e', 'E']

theorem ends_nil : Ends [] := nofun

theorem ends_cons {c : Char} {cs : List Char} (apart : c.isDigit = false ∧ c ∉ ['.', 'e', 'E']) : Ends (c :: cs) := by
  intro d head
  obtain rfl := Option.some.inj head
  exact apart

theorem Blank.ends_append {w cs : List Char} (blank : Blank w) (ends : Ends cs) : Ends (w ++ cs) := by
  cases w with
  | nil => exact ends
  | cons c w =>
    have apart : ∀ c ∈ [' ', '\n', '\t', '\r'], c.isDigit = false ∧ c ∉ ['.', 'e', 'E'] := by simp
    exact ends_cons (apart c (blank c List.mem_cons_self))

theorem Items.ends {α : Type} {closer : Char} {Item : α → List Char → Prop} {items : List α} {cs : List Char}
    (others : Items closer Item false items cs) (bracket : closer ∈ [']', '\x7d']) (rest : List Char) : Ends (cs ++ rest) := by
  cases others with
  | done blank =>
    have apart : ∀ c ∈ [']', '\x7d'], c.isDigit = false ∧ c ∉ ['.', 'e', 'E'] := by simp
    rw [List.append_assoc]
    exact blank.ends_append (ends_cons (apart closer bracket))
  | more blank item others =>
    simp only [List.append_assoc, List.cons_append]
    exact blank.ends_append (ends_cons (by decide))

theorem Items.closed {α : Type} {closer : Char} {Item : α → List Char → Prop} {first : Bool} {items : List α} {cs : List Char}
    (body : Items closer Item first items cs) : ∃ front, cs = front ++ [closer] := by
  induction body with
  | @done _ w blank => exact ⟨w, rfl⟩
  | @first cs _ _ _ item others ih =>
    obtain ⟨front, rfl⟩ := ih
    exact ⟨cs ++ front, by simp⟩
  | @more w cs _ _ _ blank item others ih =>
    obtain ⟨front, rfl⟩ := ih
    exact ⟨w ++ ',' :: cs ++ front, by simp⟩

/-- A text of which the first character is seen, and no bracket that closes. -/
def Visible (v : List Char) : Prop := ∃ c cs, v = c :: cs ∧ Reader.isSpace c = false ∧ c ∉ [']', '\x7d']

theorem isSpace_of_isDigit {d : Char} (digit : d.isDigit) : Reader.isSpace d = false := by
  have apart : ∀ c ∈ [' ', '\n', '\t', '\r'], ¬ c.isDigit := by simp
  rw [← Bool.not_eq_true, Reader.isSpace_iff]
  exact fun space => apart d space digit

theorem IsDigits.visible {ds : List Char} (run : IsDigits ds) (rest : List Char) : Visible (ds ++ rest) := by
  obtain ⟨d, ds, rfl⟩ := List.exists_cons_of_ne_nil run.1
  have digit : d.isDigit := run.2 d List.mem_cons_self
  have apart : ∀ c ∈ [']', '\x7d'], ¬ c.isDigit := by simp
  exact ⟨d, ds ++ rest, rfl, isSpace_of_isDigit digit, fun closing => apart d closing digit⟩

theorem IsString.visible {cs : List Char} (string : IsString cs) (rest : List Char) : Visible (cs ++ rest) := by
  obtain ⟨pieces, spelled, rfl⟩ := string
  exact ⟨'"', _, rfl, rfl, by decide⟩

namespace Reader

/-! ## Strings -/

theorem discard_eq_ok_iff {α : Type} {x : Reader α} {cs rest : List Char} :
    discard x cs = .ok ((), rest) ↔ ∃ a, x cs = .ok (a, rest) := by
  have same : discard x = x >>= fun _ => Pure.pure () := rfl
  simp only [same, bind_eq_ok_iff, pure_eq_ok_iff, true_and, exists_eq_right]

theorem skipEscape_eq_ok_iff {cs rest : List Char} :
    skipEscape cs = .ok ((), rest) ↔ ∃ front, Piece ('\\' :: front) ∧ cs = front ++ rest := by
  rw [skipEscape, bind_eq_ok_iff]
  constructor
  · rintro ⟨letter, mid, taken, read⟩
    obtain rfl := take_eq_ok_iff.mp taken
    split at read
    · next hexadecimal =>
      obtain rfl := eq_of_beq hexadecimal
      obtain ⟨n, digits⟩ := discard_eq_ok_iff.mp read
      obtain ⟨ds, hex, rfl⟩ := hexEscape_eq_ok_iff.mp digits
      exact ⟨'u' :: ds, .unit hex, rfl⟩
    · obtain ⟨known, same⟩ := unless_eq_ok_iff.mp read
      obtain ⟨-, rfl⟩ := pure_eq_ok_iff.mp same
      obtain ⟨c, short⟩ := Option.ne_none_iff_exists'.mp (mt Option.isNone_iff_eq_none.mpr known)
      exact ⟨[letter], .short (shortEscape?_eq_some_iff.mp short), rfl⟩
  · rintro ⟨front, spelled, rfl⟩
    generalize piece : '\\' :: front = cs at spelled
    cases spelled with
    | plain plain =>
      obtain ⟨rfl, -⟩ := List.cons.inj piece
      exact absurd rfl plain.2.2
    | @short letter _ listed =>
      obtain ⟨-, rfl⟩ := List.cons.inj piece
      have other : ∀ p ∈ shortEscapes, (p.1 == 'u') = false := by decide
      refine ⟨letter, rest, take_cons .., ?_⟩
      rw [other _ listed, shortEscape?_eq_some_iff.mpr listed]
      rfl
    | unit hex =>
      obtain ⟨-, rfl⟩ := List.cons.inj piece
      exact ⟨'u', _, take_cons .., discard_eq_ok_iff.mpr ⟨_, hexEscape_eq_ok_iff.mpr ⟨_, hex, rfl⟩⟩⟩

theorem skipStringBody_sound {fuel : Nat} {cs rest : List Char} (body : skipStringBody fuel cs = .ok ((), rest)) :
    ∃ pieces : List (List Char), (∀ piece ∈ pieces, Piece piece) ∧ cs = pieces.flatten ++ '"' :: rest := by
  induction fuel generalizing cs with
  | zero => exact absurd body unfinished_ne_ok
  | succ fuel ih =>
    rw [skipStringBody, bind_eq_ok_iff] at body
    obtain ⟨c, mid, taken, body⟩ := body
    obtain rfl := take_eq_ok_iff.mp taken
    split at body
    · next closing =>
      obtain ⟨-, rfl⟩ := pure_eq_ok_iff.mp body
      rw [eq_of_beq closing]
      exact ⟨[], nofun, rfl⟩
    · next inside =>
      split at body
      · next escaped =>
        rw [eq_of_beq escaped]
        obtain ⟨⟨⟩, mid, taken, next⟩ := bind_eq_ok_iff.mp body
        obtain ⟨front, piece, rfl⟩ := skipEscape_eq_ok_iff.mp taken
        obtain ⟨pieces, spelled, rfl⟩ := ih next
        exact ⟨('\\' :: front) :: pieces, List.forall_mem_cons.mpr ⟨piece, spelled⟩, by simp⟩
      · next unescaped =>
        obtain ⟨visible, body⟩ := unless_eq_ok_iff.mp body
        obtain ⟨pieces, spelled, rfl⟩ := ih body
        exact ⟨[c] :: pieces, List.forall_mem_cons.mpr ⟨.plain (plain_of_tests inside unescaped visible), spelled⟩, by simp⟩

theorem skipStringBody_piece {piece : List Char} (spelled : Piece piece) (fuel : Nat) (cs : List Char) :
    skipStringBody (fuel + 1) (piece ++ cs) = skipStringBody fuel cs := by
  have escaped {front : List Char} (spelled : Piece ('\\' :: front)) :
      skipStringBody (fuel + 1) ('\\' :: front ++ cs) = skipStringBody fuel cs := by
    rw [List.cons_append, skipStringBody, bind_ok (take_cons ..), if_neg (by decide), if_pos (by decide),
      bind_ok (skipEscape_eq_ok_iff.mpr ⟨front, spelled, rfl⟩)]
  cases spelled with
  | @plain c plain =>
    obtain ⟨visible, inside, unescaped⟩ := plain
    rw [List.singleton_append, skipStringBody, bind_ok (take_cons ..), if_neg (by simpa using inside),
      if_neg (by simpa using unescaped), if_neg (Char.not_lt.mpr visible)]
  | short listed => exact escaped (.short listed)
  | unit hex => exact escaped (.unit hex)

theorem skipStringBody_complete {pieces : List (List Char)} (spelled : ∀ piece ∈ pieces, Piece piece) (rest : List Char)
    {fuel : Nat} (enough : pieces.flatten.length < fuel) :
    skipStringBody fuel (pieces.flatten ++ '"' :: rest) = .ok ((), rest) := by
  induction pieces generalizing fuel with
  | nil =>
    obtain ⟨fuel, rfl⟩ := Nat.exists_eq_add_one_of_ne_zero (Nat.ne_zero_of_lt enough)
    rfl
  | cons piece pieces ih =>
    obtain ⟨fuel, rfl⟩ := Nat.exists_eq_add_one_of_ne_zero (Nat.ne_zero_of_lt enough)
    rw [List.forall_mem_cons] at spelled
    have pos : 0 < piece.length := by cases spelled.1 <;> exact Nat.succ_pos _
    rw [List.flatten_cons, List.length_append] at enough
    rw [List.flatten_cons, List.append_assoc, skipStringBody_piece spelled.1]
    exact ih spelled.2 (by omega)

theorem skipString_eq_ok_iff {cs rest : List Char} :
    skipString cs = .ok ((), rest) ↔ ∃ front, IsString ('"' :: front) ∧ cs = front ++ rest := by
  constructor
  · intro read
    obtain ⟨pieces, spelled, rfl⟩ := skipStringBody_sound read
    exact ⟨pieces.flatten ++ ['"'], ⟨pieces, spelled, rfl⟩, by simp⟩
  · rintro ⟨front, ⟨pieces, spelled, same⟩, rfl⟩
    obtain ⟨-, rfl⟩ := List.cons.inj same
    have enough : pieces.flatten.length < (pieces.flatten ++ ['"'] ++ rest).length + 1 := by
      simp only [List.length_append]
      omega
    simpa [skipString] using skipStringBody_complete spelled rest enough

/-! ## Numbers -/

theorem digits_sound {cs ds rest : List Char} (read : digits cs = .ok (ds, rest)) :
    (∀ d ∈ ds, d.isDigit) ∧ cs = ds ++ rest := by
  simp only [digits, Except.ok.injEq, Prod.mk.injEq] at read
  obtain ⟨rfl, rfl⟩ := read
  exact ⟨fun _ => List.mem_takeWhile_imp, List.takeWhile_append_dropWhile.symm⟩

theorem digits_complete {ds rest : List Char} (all : ∀ d ∈ ds, d.isDigit) (stops : ∀ c ∈ rest.head?, c.isDigit = false) :
    digits (ds ++ rest) = .ok (ds, rest) := by
  have front : rest.takeWhile Char.isDigit = [] := by cases rest <;> simp_all
  have back : rest.dropWhile Char.isDigit = rest := by cases rest <;> simp_all
  rw [digits, List.takeWhile_append_of_pos all, List.dropWhile_append_of_pos all, front, back, List.append_nil]

theorem next?_eq (cs : List Char) : next? cs = .ok (cs.head?, cs) := rfl

theorem digits_nonempty_sound {m : Malformed} {cs rest : List Char}
    (read : (digits >>= fun ds => if ds.isEmpty then malformed m else pure ()) cs = .ok ((), rest)) :
    ∃ ds, IsDigits ds ∧ cs = ds ++ rest := by
  obtain ⟨ds, mid, run, checked⟩ := bind_eq_ok_iff.mp read
  obtain ⟨all, rfl⟩ := digits_sound run
  obtain ⟨nonempty, same⟩ := unless_eq_ok_iff.mp checked
  obtain ⟨-, rfl⟩ := pure_eq_ok_iff.mp same
  exact ⟨ds, ⟨fun empty => nonempty (List.isEmpty_iff.mpr empty), all⟩, rfl⟩

theorem digits_nonempty_complete {m : Malformed} {ds rest : List Char} (run : IsDigits ds) (ends : Ends rest) :
    (digits >>= fun ds => if ds.isEmpty then malformed m else pure ()) (ds ++ rest) = .ok ((), rest) := by
  rw [bind_ok (digits_complete run.2 fun c head => (ends c head).1), if_neg (mt List.isEmpty_iff.mp run.1)]
  rfl

theorem skipExponent_sound {letter : Char} {cs rest : List Char} (read : skipExponent (letter :: cs) = .ok ((), rest)) :
    ∃ sign ds, sign ∈ [[], ['+'], ['-']] ∧ IsDigits ds ∧ cs = sign ++ ds ++ rest := by
  rw [skipExponent, bind_ok (advance_cons ..), bind_ok (next?_eq cs)] at read
  generalize head : cs.head? = next at read
  split at read
  · obtain ⟨more, rfl⟩ := List.head?_eq_some_iff.mp head
    obtain ⟨ds, run, rfl⟩ := digits_nonempty_sound read
    exact ⟨['+'], ds, by simp, run, rfl⟩
  · obtain ⟨more, rfl⟩ := List.head?_eq_some_iff.mp head
    obtain ⟨ds, run, rfl⟩ := digits_nonempty_sound read
    exact ⟨['-'], ds, by simp, run, rfl⟩
  · obtain ⟨ds, run, rfl⟩ := digits_nonempty_sound read
    exact ⟨[], ds, by simp, run, rfl⟩

theorem skipExponent_complete {letter : Char} {sign ds rest : List Char} (signed : sign ∈ [[], ['+'], ['-']])
    (run : IsDigits ds) (ends : Ends rest) : skipExponent (letter :: sign ++ ds ++ rest) = .ok ((), rest) := by
  simp only [List.mem_cons, List.not_mem_nil, or_false] at signed
  rw [skipExponent]
  rcases signed with rfl | rfl | rfl
  · obtain ⟨nonempty, all⟩ := run
    obtain ⟨d, ds, rfl⟩ := List.exists_cons_of_ne_nil nonempty
    rw [List.append_assoc, List.cons_append, bind_ok (advance_cons ..), bind_ok (next?_eq _)]
    have digit : ∀ c ∈ ([] ++ (d :: ds ++ rest)).head?, c.isDigit := by simpa using all d List.mem_cons_self
    generalize ([] ++ (d :: ds ++ rest)).head? = next at digit
    split
    · exact absurd (digit _ rfl) (by decide)
    · exact absurd (digit _ rfl) (by decide)
    · exact digits_nonempty_complete ⟨nonempty, all⟩ ends
  · exact digits_nonempty_complete run ends
  · exact digits_nonempty_complete run ends

theorem skipExponentPart_sound {cs rest : List Char} (read : skipExponentPart cs = .ok ((), rest)) :
    ∃ exponent, (exponent = [] ∨ IsExponent exponent) ∧ cs = exponent ++ rest := by
  have marked {letter : Char} (mark : letter ∈ ['e', 'E']) (head : cs.head? = some letter)
      (read : skipExponent cs = .ok ((), rest)) : ∃ exponent, (exponent = [] ∨ IsExponent exponent) ∧ cs = exponent ++ rest := by
    obtain ⟨more, rfl⟩ := List.head?_eq_some_iff.mp head
    obtain ⟨sign, ds, signed, run, rfl⟩ := skipExponent_sound read
    exact ⟨letter :: sign ++ ds, .inr ⟨letter, sign, ds, mark, signed, run, rfl⟩, by simp⟩
  rw [skipExponentPart, bind_ok (next?_eq cs)] at read
  generalize head : cs.head? = next at read
  split at read
  · exact marked (by simp) head read
  · exact marked (by simp) head read
  · exact ⟨[], .inl rfl, (pure_eq_ok_iff.mp read).2⟩

theorem skipExponentPart_complete {exponent rest : List Char} (form : exponent = [] ∨ IsExponent exponent)
    (ends : Ends rest) : skipExponentPart (exponent ++ rest) = .ok ((), rest) := by
  rcases form with rfl | ⟨letter, sign, ds, mark, signed, run, rfl⟩
  · rw [List.nil_append, skipExponentPart, bind_ok (next?_eq rest)]
    unfold Ends at ends
    generalize rest.head? = next at ends
    split
    · exact absurd (by simp) (ends _ rfl).2
    · exact absurd (by simp) (ends _ rfl).2
    · rfl
  · rw [← skipExponent_complete signed run ends]
    simp only [List.mem_cons, List.not_mem_nil, or_false] at mark
    rcases mark with rfl | rfl <;> rfl

/-- A run of digits that is checked for a zero in front. -/
theorem whole_eq_ok_iff {α : Type} {ds cs : List Char} (all : ∀ d ∈ ds, d.isDigit) {next : Unit → Reader α}
    {p : α × List Char} :
    (match ds with
      | [] => malformed .invalidNumber >>= next
      | '0' :: _ :: _ => malformed .invalidNumber >>= next
      | _ => next ()) cs = .ok p ↔ IsWhole ds ∧ next () cs = .ok p := by
  split
  · exact ⟨nofun, fun ⟨whole, _⟩ => absurd rfl whole.1.1⟩
  · exact ⟨nofun, fun ⟨whole, _⟩ => nomatch whole.2 rfl⟩
  · next nonempty single =>
    have whole : IsWhole ds := by
      refine ⟨⟨nonempty, all⟩, fun zero => ?_⟩
      obtain ⟨more, rfl⟩ := List.head?_eq_some_iff.mp zero
      cases more with
      | nil => rfl
      | cons d more => exact absurd rfl (single d more)
    exact ⟨fun read => ⟨whole, read⟩, fun ⟨_, read⟩ => read⟩

theorem skipNumber_sound {cs rest : List Char} (read : skipNumber cs = .ok ((), rest)) :
    ∃ whole fraction exponent, IsWhole whole ∧ (fraction = [] ∨ IsFraction fraction) ∧
      (exponent = [] ∨ IsExponent exponent) ∧ cs = whole ++ fraction ++ exponent ++ rest := by
  obtain ⟨whole, mid, run, checked⟩ := bind_eq_ok_iff.mp read
  obtain ⟨all, rfl⟩ := digits_sound run
  obtain ⟨form, further⟩ := (whole_eq_ok_iff all).mp checked
  beta_reduce at further
  rw [bind_ok (next?_eq mid)] at further
  generalize head : mid.head? = next at further
  split at further
  · obtain ⟨more, rfl⟩ := List.head?_eq_some_iff.mp head
    rw [bind_ok (advance_cons ..)] at further
    obtain ⟨ds, tail, pointed, last⟩ := bind_eq_ok_iff.mp further
    obtain ⟨decimals, rfl⟩ := digits_sound pointed
    obtain ⟨nonempty, part⟩ := guarded_eq_ok_iff.mp last
    obtain ⟨exponent, marked, rfl⟩ := skipExponentPart_sound part
    refine ⟨whole, '.' :: ds, exponent, form, .inr ⟨ds, ⟨mt List.isEmpty_iff.mpr nonempty, decimals⟩, rfl⟩, marked, ?_⟩
    simp
  · obtain ⟨exponent, marked, rfl⟩ := skipExponentPart_sound further
    exact ⟨whole, [], exponent, form, .inl rfl, marked, by simp⟩

/-- What stands after the digits of a number, before and after its point, goes on with no digit. -/
theorem exponent_stops {exponent rest : List Char} (marked : exponent = [] ∨ IsExponent exponent) (ends : Ends rest) :
    ∀ c ∈ (exponent ++ rest).head?, c.isDigit = false ∧ c ≠ '.' := by
  rcases marked with rfl | ⟨letter, sign, ds, mark, signed, run, rfl⟩
  · exact fun c head => ⟨(ends c head).1, fun point => (ends c head).2 (by simp [point])⟩
  · have apart : ∀ c ∈ ['e', 'E'], c.isDigit = false ∧ c ≠ '.' := by simp
    simpa using apart letter mark

theorem skipNumber_complete {whole fraction exponent rest : List Char} (form : IsWhole whole)
    (pointed : fraction = [] ∨ IsFraction fraction) (marked : exponent = [] ∨ IsExponent exponent) (ends : Ends rest) :
    skipNumber (whole ++ fraction ++ exponent ++ rest) = .ok ((), rest) := by
  have stops := exponent_stops marked ends
  have last := skipExponentPart_complete marked ends
  simp only [List.append_assoc]
  rcases pointed with rfl | ⟨ds, run, rfl⟩
  · rw [List.nil_append, skipNumber, bind_ok (digits_complete form.1.2 fun c head => (stops c head).1)]
    refine (whole_eq_ok_iff form.1.2).mpr ⟨form, ?_⟩
    beta_reduce
    rw [bind_ok (next?_eq _)]
    generalize (exponent ++ rest).head? = next at stops
    split
    · exact absurd rfl (stops _ rfl).2
    · exact last
  · rw [skipNumber, bind_ok (digits_complete form.1.2 (by simp))]
    refine (whole_eq_ok_iff form.1.2).mpr ⟨form, ?_⟩
    have more := digits_complete run.2 fun c head => (stops c head).1
    refine (bind_ok (next?_eq _) _).trans ((bind_ok (advance_cons ..) _).trans ((bind_ok more _).trans ?_))
    exact guarded_eq_ok_iff.mpr ⟨mt List.isEmpty_iff.mp run.1, last⟩

end Reader

end ScriptedScene.Json
