import Mathlib
import ScriptedScene.Proofs.Json.Values

/-! Names, truth values and whole numbers, read wherever they are wanted. A whole number is read from its one numeral and from
nothing else: a sign, a point or an exponent makes another number of it. -/
namespace ScriptedScene.Json
variable {α : Type}

def IsBoolean : Bool → List Char → Prop
  | true, cs => cs = "true".toList
  | false, cs => cs = "false".toList

/-- A number below the bound, in decimal. -/
def IsNatural (bound n : Nat) (cs : List Char) : Prop := n < bound ∧ cs = (toString n).toList

/-- Nothing, written as such, or a value. -/
def IsOptional (Form : α → List Char → Prop) : Option α → List Char → Prop
  | none, cs => cs = "null".toList
  | some a, cs => Form a cs

theorem isValue_of_isOptional {Form : α → List Char → Prop} {o : Option α} {cs : List Char}
    (each : ∀ a, Form a cs → IsValue cs) (form : IsOptional Form o cs) : IsValue cs := by
  cases o with
  | none => exact form ▸ .null
  | some a => exact each a form

/-! ## Numerals -/

theorem digitChar_toNat_sub {d : Char} (digit : d.isDigit) : Nat.digitChar (d.toNat - '0'.toNat) = d := by
  obtain ⟨low, high⟩ := Char.isDigit_iff_toNat.mp digit
  have table : ∀ k < 58, '0'.toNat ≤ k → Nat.digitChar (k - '0'.toNat) = Char.ofNat k := by decide
  rw [table d.toNat (by simpa using Nat.lt_succ_of_le high) low, Char.ofNat_toNat]

theorem sub_lt_ten {d : Char} (digit : d.isDigit) : d.toNat - '0'.toNat < 10 := by
  have bounds := Char.isDigit_iff_toNat.mp digit
  simp only [Char.reduceToNat] at bounds ⊢
  omega

theorem toDigits_append_of_pos {n : Nat} (pos : 0 < n) {ds : List Char} (all : ∀ d ∈ ds, d.isDigit) :
    Nat.toDigits 10 n ++ ds = Nat.toDigits 10 (Nat.ofDigitChars 10 ds n) := by
  induction ds generalizing n with
  | nil => simp
  | cons d ds ih =>
    rw [List.forall_mem_cons] at all
    have step := Nat.toDigits_append_toDigits (b := 10) (by decide) pos (sub_lt_ten all.1)
    rw [Nat.toDigits_of_lt_base (sub_lt_ten all.1), digitChar_toNat_sub all.1] at step
    rw [Nat.ofDigitChars_cons, ← ih (by omega) all.2, ← step]
    simp

/-- Digits without a needless zero are the numeral of their number. -/
theorem IsWhole.eq_toDigits {ds : List Char} (whole : IsWhole ds) : ds = Nat.toDigits 10 (Nat.ofDigitChars 10 ds 0) := by
  obtain ⟨⟨nonempty, all⟩, single⟩ := whole
  obtain ⟨d, ds, rfl⟩ := List.exists_cons_of_ne_nil nonempty
  by_cases zero : d = '0'
  · rw [single (congrArg some zero)]
    rfl
  · rw [List.forall_mem_cons] at all
    have pos : 0 < d.toNat - '0'.toNat := by
      have bounds := Char.isDigit_iff_toNat.mp all.1
      have apart : d.toNat ≠ '0'.toNat := fun same => zero (Char.toNat_inj.mp same)
      simp only [Char.reduceToNat] at bounds apart ⊢
      omega
    rw [Nat.ofDigitChars_cons, Nat.mul_zero, Nat.zero_add, ← toDigits_append_of_pos pos all.2,
      Nat.toDigits_of_lt_base (sub_lt_ten all.1), digitChar_toNat_sub all.1]
    rfl

theorem isWhole_toDigits (n : Nat) : IsWhole (Nat.toDigits 10 n) := by
  refine ⟨⟨Nat.toDigits_ne_nil, fun d member => Nat.isDigit_of_mem_toDigits (by decide) (by decide) member⟩, ?_⟩
  induction n using Nat.strongRecOn with
  | ind n ih =>
    intro head
    rcases Nat.lt_or_ge n 10 with small | large
    · rw [Nat.toDigits_of_lt_base small] at head ⊢
      simpa using head
    · have front : (Nat.toDigits 10 (n / 10)).head? = some '0' := by
        rw [Nat.toDigits_of_base_le (by decide) large, List.head?_append_of_ne_nil _ Nat.toDigits_ne_nil] at head
        exact head
      have zero : n / 10 = 0 := by
        rw [← Nat.ofDigitChars_ten_toDigits (n := n / 10), ih (n / 10) (by omega) front]
        rfl
      omega

theorem IsText.visible {s : String} {cs : List Char} (text : IsText s cs) (rest : List Char) : Visible (cs ++ rest) := by
  obtain ⟨pieces, spells, rfl⟩ := text
  exact ⟨'"', _, rfl, rfl, by decide⟩

namespace Reader

theorem le_ofDigitChars (n : Nat) (ds : List Char) : n ≤ Nat.ofDigitChars 10 ds n := by
  rw [Nat.ofDigitChars_eq_ofDigitChars_zero]
  have := Nat.le_mul_of_pos_left n (Nat.pow_pos (n := ds.length) (show 0 < 10 by decide))
  omega

/-- All digits are taken exactly if their number fits. -/
theorem absorb_eq_iff {ds : List Char} {n m : Nat} (fits : n < Number.wholeBound) :
    Number.absorb n ds = (m, []) ↔ Nat.ofDigitChars 10 ds n = m ∧ m < Number.wholeBound := by
  induction ds generalizing n with
  | nil =>
    simp only [Number.absorb, Prod.mk.injEq, and_true, Nat.ofDigitChars_nil]
    exact ⟨fun same => ⟨same, same ▸ fits⟩, And.left⟩
  | cons d ds ih =>
    rw [Number.absorb, Nat.ofDigitChars_cons, Nat.mul_comm 10 n]
    split
    · next fits => exact ih fits
    · next large =>
      have more := le_ofDigitChars (n * 10 + (d.toNat - '0'.toNat)) ds
      constructor
      · intro same
        exact nomatch (Prod.mk.inj same).2
      · rintro ⟨rfl, small⟩
        omega

/-- A reader that gives no whole number. -/
def Inexact (r : Reader Number) : Prop := ∀ cs i rest, r cs ≠ .ok (.whole i, rest)

theorem Inexact.bind {x : Reader α} {f : α → Reader Number} (each : ∀ a, Inexact (f a)) : Inexact (x >>= f) := by
  intro cs i rest read
  obtain ⟨a, mid, -, next⟩ := bind_eq_ok_iff.mp read
  exact each a mid i rest next

theorem inexact_malformed (m : Malformed) : Inexact (malformed m) := fun _ _ _ => malformed_ne_ok

theorem inexact_unfinished (u : Unfinished) : Inexact (unfinished u) := fun _ _ _ => unfinished_ne_ok

theorem inexact_binary (x : Binary64) : Inexact (pure (.binary x)) := fun _ _ _ read =>
  nomatch (pure_eq_ok_iff.mp read).1

theorem inexact_ofParts (negative : Bool) (significand : Nat) (shift : Int) :
    Inexact (ofParts negative significand shift) := by
  unfold ofParts
  split
  · exact inexact_binary _
  · exact inexact_malformed _

theorem inexact_exponent (negative : Bool) (significand : Nat) (shift : Int) :
    Inexact (exponent negative significand shift) := by
  have value (negativeExponent : Bool) (size : Nat) : Inexact
      (if Number.exponentLimit < size then
        if significand != 0 && !negativeExponent then malformed .numberOutOfRange else pure (.binary (.zero negative))
      else ofParts negative significand (if negativeExponent then shift - size else shift + size)) := by
    split
    · split
      · exact inexact_malformed _
      · exact inexact_binary _
    · exact inexact_ofParts _ _ _
  have checked {next : Option Char → Reader Number} {last : Unit → Reader Number}
      (ended : next none = unfinished .value >>= last)
      (going : ∀ c, next (some c) = if !c.isDigit then malformed .invalidNumber >>= last else last ())
      (each : ∀ u, Inexact (last u)) : Inexact (next? >>= next) := by
    refine .bind fun o => ?_
    cases o with
    | none =>
      rw [ended]
      exact .bind each
    | some c =>
      rw [going]
      split
      · exact .bind each
      · exact each ()
  have size (negativeExponent : Bool) (_ : Unit) :=
    Inexact.bind (x := digits) fun ds => value negativeExponent (Decimal.ofDigits ds)
  refine .bind fun _ => .bind fun sign => ?_
  split
  · exact .bind fun _ => .bind fun _ => checked rfl (fun _ => rfl) (size _)
  · exact .bind fun _ => .bind fun _ => checked rfl (fun _ => rfl) (size _)
  · exact .bind fun _ => checked rfl (fun _ => rfl) (size _)

theorem inexact_exponentPart (negative : Bool) (significand : Nat) (shift : Int) :
    Inexact (exponentPart negative significand shift) := by
  refine .bind fun next => ?_
  split
  · exact inexact_exponent _ _ _
  · exact inexact_exponent _ _ _
  · exact inexact_ofParts _ _ _

theorem inexact_fraction (negative : Bool) (significand : Nat) (shift : Int) :
    Inexact (fraction negative significand shift) := by
  refine .bind fun _ => .bind fun ds => ?_
  split
  · refine .bind fun next => ?_
    split
    · exact inexact_unfinished _
    · exact inexact_malformed _
  · exact inexact_exponentPart _ _ _

/-- What is read of a number after the digits before its point. -/
def afterWhole (negative : Bool) (significand : Nat) (left : List Char) : Reader Number := do
  match ← next? with
  | some '.' => fraction negative significand left.length
  | some 'e' | some 'E' => exponent negative significand left.length
  | _ =>
    if !left.isEmpty then ofParts negative significand left.length
    else if !negative then return .whole significand
    else if significand = 0 || twoTo 63 < significand then return .binary (-(Binary.ofNat significand))
    else return .whole (-(significand : Int))

theorem number_sound {negative : Bool} {cs rest : List Char} {n : Number} (read : number negative cs = .ok (n, rest)) :
    ∃ ds mid, IsWhole ds ∧ cs = ds ++ mid ∧
      afterWhole negative (Number.absorb 0 ds).1 (Number.absorb 0 ds).2 mid = .ok (n, rest) := by
  rw [number, bind_ok (next?_eq cs)] at read
  beta_reduce at read
  split at read
  · exact nomatch read
  obtain ⟨ds, mid, run, further⟩ := bind_eq_ok_iff.mp read
  obtain ⟨all, rfl⟩ := digits_sound run
  obtain ⟨form, value⟩ := (whole_eq_ok_iff all).mp further
  exact ⟨ds, mid, form, rfl, value⟩

theorem number_complete {negative : Bool} {ds cs : List Char} (form : IsWhole ds)
    (stops : ∀ c ∈ cs.head?, c.isDigit = false) {p : Number × List Char}
    (read : afterWhole negative (Number.absorb 0 ds).1 (Number.absorb 0 ds).2 cs = .ok p) :
    number negative (ds ++ cs) = .ok p := by
  have nonempty : ¬ (ds ++ cs).head?.isNone := by simp [form.1.1]
  rw [number, bind_ok (next?_eq _), if_neg nonempty]
  refine (bind_ok (digits_complete form.1.2 stops) _).trans ?_
  exact (whole_eq_ok_iff form.1.2).mpr ⟨form, read⟩

/-- A whole number is read from a numeral that fits, and it is below zero if there is a minus before it. -/
theorem number_whole_sound {negative : Bool} {cs rest : List Char} {i : Int}
    (read : number negative cs = .ok (.whole i, rest)) :
    if negative then i < 0 else ∃ n : Nat, i = n ∧ n < Number.wholeBound ∧ cs = Nat.toDigits 10 n ++ rest := by
  obtain ⟨ds, mid, form, rfl, value⟩ := number_sound read
  obtain ⟨⟨significand, left⟩, taken⟩ : ∃ p, Number.absorb 0 ds = p := ⟨_, rfl⟩
  rw [taken, afterWhole, bind_ok (next?_eq mid)] at value
  generalize mid.head? = next at value
  split at value
  · exact absurd value (inexact_fraction _ _ _ _ _ _)
  · exact absurd value (inexact_exponent _ _ _ _ _ _)
  · exact absurd value (inexact_exponent _ _ _ _ _ _)
  · split at value
    · exact absurd value (inexact_ofParts _ _ _ _ _ _)
    · next exact =>
      obtain rfl : left = [] := by simpa using exact
      obtain ⟨same, fits⟩ := (absorb_eq_iff (by decide)).mp taken
      cases negative with
      | false =>
        obtain ⟨⟨⟩, rfl⟩ := pure_eq_ok_iff.mp value
        rw [if_neg Bool.false_ne_true]
        exact ⟨significand, rfl, fits, by rw [← same, ← form.eq_toDigits]⟩
      | true =>
        rw [if_neg (by simp)] at value
        split at value
        · exact absurd value (inexact_binary _ _ _ _)
        · next nonzero =>
          obtain ⟨⟨⟩, rfl⟩ := pure_eq_ok_iff.mp value
          simp only [Bool.or_eq_true, decide_eq_true_eq, not_or] at nonzero
          rw [if_pos rfl]
          omega

theorem number_whole_complete {n : Nat} (fits : n < Number.wholeBound) {rest : List Char} (ends : Ends rest) :
    number false (Nat.toDigits 10 n ++ rest) = .ok (.whole n, rest) := by
  have taken : Number.absorb 0 (Nat.toDigits 10 n) = (n, []) :=
    (absorb_eq_iff (by decide)).mpr ⟨Nat.ofDigitChars_ten_toDigits, fits⟩
  refine number_complete (isWhole_toDigits n) (fun c head => (ends c head).1) ?_
  rw [taken, afterWhole, bind_ok (next?_eq rest)]
  unfold Ends at ends
  generalize rest.head? = next at ends
  split
  · exact absurd (by simp) (ends _ rfl).2
  · exact absurd (by simp) (ends _ rfl).2
  · exact absurd (by simp) (ends _ rfl).2
  · rfl

/-! ## Readers of wanted values -/

/-- A reader takes the texts of a form and no others, wherever they stand. -/
structure Reads (value : Reader α) (Form : α → List Char → Prop) : Prop where
  sound : ∀ {cs rest a}, value cs = .ok (a, rest) → ∃ w v, Blank w ∧ Form a v ∧ cs = w ++ v ++ rest
  complete : ∀ {w v rest a}, Blank w → Form a v → Ends rest → value (w ++ v ++ rest) = .ok (a, rest)
  visible : ∀ {a v}, Form a v → Visible v

theorem unexpected_ne_ok {expected : String} {cs : List Char} {p : α × List Char} : unexpected expected cs ≠ .ok p := by
  obtain ⟨a, rest⟩ := p
  intro read
  obtain ⟨what, mid, -, wrong⟩ := bind_eq_ok_iff.mp read
  exact mismatch_ne_ok wrong

theorem reads_skipValue : Reads skipValue fun _ => IsValue where
  sound := skipValue_sound
  complete blank value ends := skipValue_complete value blank ends
  visible := IsValue.visible

theorem string_complete {s : String} {cs : List Char} (text : IsText s cs) (rest : List Char) :
    ∃ front, cs = '"' :: front ∧ string (front ++ rest) = .ok (s, rest) := by
  obtain ⟨pieces, spells, rfl⟩ := text
  exact ⟨_, rfl, string_eq_ok_iff.mpr ⟨_, ⟨pieces, spells, rfl⟩, rfl⟩⟩

theorem reads_text (expected : String) : Reads (text expected) IsText where
  sound {cs rest s} read := by
    obtain ⟨next, tail, look, further⟩ := bind_eq_ok_iff.mp read
    obtain ⟨w, blank, rfl, rfl⟩ := peek?_sound look
    generalize head : tail.head? = next at further
    split at further
    · obtain ⟨more, rfl⟩ := List.head?_eq_some_iff.mp head
      obtain ⟨front, form, rfl⟩ := string_eq_ok_iff.mp further
      exact ⟨w, '"' :: front, blank, form, by simp⟩
    · exact absurd further unexpected_ne_ok
  complete {w v rest s} blank form ends := by
    obtain ⟨front, rfl, read⟩ := string_complete form rest
    rw [List.append_assoc, List.cons_append]
    exact (bind_ok (peek?_blank blank rfl _) _).trans read
  visible form := by simpa using form.visible []

theorem reads_boolean : Reads boolean IsBoolean where
  sound {cs rest b} read := by
    obtain ⟨next, tail, look, further⟩ := bind_eq_ok_iff.mp read
    obtain ⟨w, blank, rfl, rfl⟩ := peek?_sound look
    generalize head : tail.head? = next at further
    split at further
    · obtain ⟨more, rfl⟩ := List.head?_eq_some_iff.mp head
      obtain ⟨rfl, rfl⟩ := name_eq_ok_iff.mp further
      exact ⟨w, 't' :: "rue".toList, blank, rfl, by simp⟩
    · obtain ⟨more, rfl⟩ := List.head?_eq_some_iff.mp head
      obtain ⟨rfl, rfl⟩ := name_eq_ok_iff.mp further
      exact ⟨w, 'f' :: "alse".toList, blank, rfl, by simp⟩
    · exact absurd further unexpected_ne_ok
  complete {w v rest b} blank form ends := by
    rw [List.append_assoc]
    cases b with
    | true =>
      obtain rfl : v = 't' :: "rue".toList := form
      exact (bind_ok (peek?_blank blank rfl _) _).trans (name_eq_ok_iff.mpr ⟨rfl, rfl⟩)
    | false =>
      obtain rfl : v = 'f' :: "alse".toList := form
      exact (bind_ok (peek?_blank blank rfl _) _).trans (name_eq_ok_iff.mpr ⟨rfl, rfl⟩)
  visible {b v} form := by
    cases b
    · exact form ▸ ⟨'f', _, rfl, rfl, by decide⟩
    · exact form ▸ ⟨'t', _, rfl, rfl, by decide⟩

theorem numeral_whole_sound {expected : String} {cs rest : List Char} {i : Int} (natural : 0 ≤ i)
    (read : numeral expected cs = .ok (.whole i, rest)) :
    ∃ (n : Nat) (w : List Char), i = n ∧ Blank w ∧ cs = w ++ Nat.toDigits 10 n ++ rest := by
  obtain ⟨next, tail, look, further⟩ := bind_eq_ok_iff.mp read
  obtain ⟨w, blank, rfl, rfl⟩ := peek?_sound look
  cases tail with
  | nil => exact nomatch further
  | cons c tail =>
    simp only [List.head?_cons] at further
    split at further
    · rw [bind_ok (advance_cons ..)] at further
      have negative : i < 0 := number_whole_sound further
      omega
    split at further
    · obtain ⟨n, rfl, -, same⟩ := number_whole_sound further
      exact ⟨n, w, rfl, blank, by rw [List.append_assoc, same]⟩
    · exact absurd further unexpected_ne_ok

theorem numeral_whole_complete {expected : String} {n : Nat} (fits : n < Number.wholeBound) {w rest : List Char}
    (blank : Blank w) (ends : Ends rest) :
    numeral expected (w ++ Nat.toDigits 10 n ++ rest) = .ok (.whole n, rest) := by
  have read := number_whole_complete fits ends
  have form := (isWhole_toDigits n).1
  obtain ⟨d, ds, digits⟩ := List.exists_cons_of_ne_nil form.1
  have digit : d.isDigit := form.2 d (by simp [digits])
  have unsigned : (d == '-') = false := by
    rw [← Bool.not_eq_true]
    intro same
    rw [eq_of_beq same] at digit
    exact nomatch digit
  rw [← read, digits, List.append_assoc, List.cons_append, numeral, bind_ok (peek?_blank blank (isSpace_of_isDigit digit) _)]
  simp only [unsigned, digit, Bool.false_eq_true, if_false, if_true]

theorem reads_natural {bound : Nat} (fits : bound ≤ Number.wholeBound) (expected : String) :
    Reads (natural bound expected) (IsNatural bound) where
  sound {cs rest n} read := by
    obtain ⟨number, mid, numeral, further⟩ := bind_eq_ok_iff.mp read
    cases number with
    | binary x => exact absurd further mismatch_ne_ok
    | whole i =>
      dsimp only at further
      split at further
      · next range =>
        rw [Bool.and_eq_true, decide_eq_true_eq, decide_eq_true_eq] at range
        obtain ⟨rfl, rfl⟩ := pure_eq_ok_iff.mp further
        obtain ⟨n, w, rfl, blank, rfl⟩ := numeral_whole_sound range.1 numeral
        refine ⟨w, _, blank, ⟨?_, rfl⟩, ?_⟩
        · simpa using range.2
        · simp
      · exact absurd further mismatch_ne_ok
  complete {w v rest n} blank form ends := by
    obtain ⟨small, rfl⟩ := form
    rw [Nat.toString_eq_ofList_toDigits, String.toList_ofList, natural,
      bind_ok (numeral_whole_complete (Nat.lt_of_lt_of_le small fits) blank ends)]
    simp [small]
    rfl
  visible {n v} form := by
    obtain ⟨-, rfl⟩ := form
    rw [Nat.toString_eq_ofList_toDigits, String.toList_ofList]
    simpa using (isWhole_toDigits n).1.visible []

theorem Reads.optional {value : Reader α} {Form : α → List Char → Prop} (reads : Reads value Form)
    (apart : ∀ a v, Form a v → v.head? ≠ some 'n') : Reads (optional value) (IsOptional Form) where
  sound {cs rest o} read := by
    obtain ⟨next, tail, look, further⟩ := bind_eq_ok_iff.mp read
    obtain ⟨w, blank, rfl, rfl⟩ := peek?_sound look
    generalize head : tail.head? = next at further
    split at further
    · obtain ⟨more, rfl⟩ := List.head?_eq_some_iff.mp head
      obtain ⟨rfl, rfl⟩ := name_eq_ok_iff.mp further
      exact ⟨w, 'n' :: "ull".toList, blank, rfl, by simp⟩
    · obtain ⟨a, mid, inner, done⟩ := bind_eq_ok_iff.mp further
      obtain ⟨rfl, rfl⟩ := pure_eq_ok_iff.mp done
      obtain ⟨u, v, more, form, rfl⟩ := reads.sound inner
      exact ⟨w ++ u, v, blank.append more, form, by simp⟩
  complete {w v rest o} blank form ends := by
    cases o with
    | none =>
      obtain rfl : v = 'n' :: "ull".toList := form
      rw [List.append_assoc]
      exact (bind_ok (peek?_blank blank rfl _) _).trans (name_eq_ok_iff.mpr ⟨rfl, rfl⟩)
    | some a =>
      obtain ⟨c, cs, rfl, seen, -⟩ := reads.visible form
      have other : c ≠ 'n' := fun same => apart a _ form (congrArg some same)
      have read : value (c :: (cs ++ rest)) = .ok (a, rest) := reads.complete (w := []) nofun form ends
      rw [List.append_assoc, List.cons_append, Reader.optional, bind_ok (peek?_blank blank seen _)]
      generalize same : some c = next
      split
      · exact absurd (Option.some.inj same) other
      · exact (bind_ok read _).trans rfl
  visible {o v} form := by
    cases o with
    | none => exact form ▸ ⟨'n', _, rfl, rfl, by decide⟩
    | some a => exact reads.visible form

end Reader

end ScriptedScene.Json
