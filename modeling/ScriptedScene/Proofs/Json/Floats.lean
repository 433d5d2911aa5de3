import ScriptedScene.Proofs.Json.Records
import ScriptedScene.Proofs.Json.Writing
import ScriptedScene.Proofs.Scene.Values

/-! Numbers that need not be whole. Which value a numeral has is left to its reader, which settles it by the numeral alone:
what stands after it does not matter, if it does not go on with a number. -/
namespace ScriptedScene.Json

/-- A numeral of which the given value is read. -/
def IsFloat (x : Binary32) (v : List Char) : Prop := IsNumber v ∧ Reader.binary32 v = .ok (x, [])

namespace Reader
variable {α : Type} {negative : Bool} {significand : Nat} {shift : Int} {n : Number} {cs rest : List Char}

/-! ## Readers that take nothing -/

/-- What is read does not depend on the text, and nothing of it is taken. -/
def Idle (r : Reader α) : Prop := ∀ {cs rest a}, r cs = .ok (a, rest) → rest = cs ∧ ∀ more, r more = .ok (a, more)

theorem idle_pure (a : α) : Idle (pure a : Reader α) := by
  intro cs rest b read
  obtain ⟨rfl, rfl⟩ := pure_eq_ok_iff.mp read
  exact ⟨rfl, fun _ => rfl⟩

theorem idle_malformed (m : Malformed) : Idle (malformed m : Reader α) := fun read => absurd read malformed_ne_ok

theorem idle_ofParts (negative : Bool) (significand : Nat) (shift : Int) : Idle (ofParts negative significand shift) := by
  unfold ofParts
  split
  · exact idle_pure _
  · exact idle_malformed _

/-! ## Parts of a number -/

/-- The text gives the value wherever it stands. -/
def Settles (r : Reader α) (v : List Char) (a : α) : Prop := ∀ {rest}, Ends rest → r (v ++ rest) = .ok (a, rest)

/-- The digits of an exponent, and with them the number. -/
def scaled (negative : Bool) (significand : Nat) (shift : Int) (negativeExponent : Bool) : Reader Number := do
  match ← next? with
  | none => unfinished .value
  | some c => if !c.isDigit then malformed .invalidNumber
  let size := Decimal.ofDigits (← digits)
  if Number.exponentLimit < size then
    if significand != 0 && !negativeExponent then malformed .numberOutOfRange
    else return .binary (.zero negative)
  else ofParts negative significand (if negativeExponent then shift - size else shift + size)

theorem idle_scaled (negative negativeExponent : Bool) (significand size : Nat) (shift : Int) : Idle
    (if Number.exponentLimit < size then
      if significand != 0 && !negativeExponent then malformed .numberOutOfRange else pure (.binary (.zero negative))
    else ofParts negative significand (if negativeExponent then shift - size else shift + size)) := by
  split
  · split
    · exact idle_malformed _
    · exact idle_pure _
  · exact idle_ofParts _ _ _

theorem scaled_digit {negativeExponent : Bool} {d : Char} (digit : d.isDigit) :
    scaled negative significand shift negativeExponent (d :: cs) = (digits >>= fun ds =>
      if Number.exponentLimit < Decimal.ofDigits ds then
        if significand != 0 && !negativeExponent then malformed .numberOutOfRange else pure (.binary (.zero negative))
      else ofParts negative significand
        (if negativeExponent then shift - Decimal.ofDigits ds else shift + Decimal.ofDigits ds)) (d :: cs) := by
  rw [scaled, bind_ok (next?_eq _)]
  dsimp only [List.head?_cons]
  rw [if_neg (by simp [digit])]

theorem scaled_sound {negativeExponent : Bool} (read : scaled negative significand shift negativeExponent cs = .ok (n, rest)) :
    ∃ ds, IsDigits ds ∧ cs = ds ++ rest ∧ Settles (scaled negative significand shift negativeExponent) ds n := by
  cases cs with
  | nil => cases read
  | cons c cs =>
    by_cases digit : c.isDigit
    · rw [scaled_digit digit] at read
      obtain ⟨ds, mid, run, value⟩ := bind_eq_ok_iff.mp read
      have front : ds = c :: cs.takeWhile Char.isDigit := by
        simp only [digits, Except.ok.injEq, Prod.mk.injEq, List.takeWhile_cons_of_pos digit] at run
        exact run.1.symm
      obtain ⟨all, same⟩ := digits_sound run
      obtain ⟨rfl, settled⟩ := idle_scaled _ _ _ _ _ value
      refine ⟨ds, ⟨by simp [front], all⟩, same, fun {rest} ends => ?_⟩
      have again : (ds ++ rest) = c :: (cs.takeWhile Char.isDigit ++ rest) := by rw [front, List.cons_append]
      rw [again, scaled_digit digit, ← again, bind_ok (digits_complete all fun c head => (ends c head).1)]
      exact settled rest
    · rw [scaled, bind_ok (next?_eq _)] at read
      dsimp only [List.head?_cons] at read
      rw [if_pos (by simpa using digit)] at read
      cases read

theorem exponent_unsigned {letter : Char} (unsigned : ∀ c ∈ cs.head?, c ∉ ['+', '-']) :
    exponent negative significand shift (letter :: cs) = scaled negative significand shift false cs := by
  rw [exponent, bind_ok (advance_cons ..), bind_ok (next?_eq cs)]
  generalize cs.head? = next at unsigned
  split
  · exact absurd (by simp) (unsigned _ rfl)
  · exact absurd (by simp) (unsigned _ rfl)
  · rfl

theorem exponent_sound {letter : Char} (read : exponent negative significand shift (letter :: cs) = .ok (n, rest)) :
    ∃ sign ds, sign ∈ [[], ['+'], ['-']] ∧ IsDigits ds ∧ cs = sign ++ ds ++ rest ∧
      Settles (exponent negative significand shift) (letter :: sign ++ ds) n := by
  by_cases plus : cs.head? = some '+'
  · obtain ⟨cs, rfl⟩ := List.head?_eq_some_iff.mp plus
    have follows : scaled negative significand shift false cs = .ok (n, rest) := read
    obtain ⟨ds, run, rfl, settled⟩ := scaled_sound follows
    exact ⟨['+'], ds, by simp, run, rfl, fun ends => settled ends⟩
  by_cases minus : cs.head? = some '-'
  · obtain ⟨cs, rfl⟩ := List.head?_eq_some_iff.mp minus
    have follows : scaled negative significand shift true cs = .ok (n, rest) := read
    obtain ⟨ds, run, rfl, settled⟩ := scaled_sound follows
    exact ⟨['-'], ds, by simp, run, rfl, fun ends => settled ends⟩
  · have unsigned : ∀ c ∈ cs.head?, c ∉ ['+', '-'] := by
      rintro c head (_ | ⟨_, _ | ⟨_, ⟨⟩⟩⟩)
      · exact plus head
      · exact minus head
    rw [exponent_unsigned unsigned] at read
    obtain ⟨ds, run, rfl, settled⟩ := scaled_sound read
    refine ⟨[], ds, by simp, run, rfl, fun {rest} ends => ?_⟩
    have digit : ∀ c ∈ (ds ++ rest).head?, c ∉ ['+', '-'] := by
      obtain ⟨d, ds, rfl⟩ := List.exists_cons_of_ne_nil run.1
      have apart : ∀ c ∈ ['+', '-'], ¬ c.isDigit := by simp
      rintro c head sign
      obtain rfl := Option.some.inj head
      exact apart _ sign (run.2 _ List.mem_cons_self)
    exact (exponent_unsigned digit).trans (settled ends)

/-- What goes on to an exponent at a letter takes that exponent. -/
theorem exponent_taken (taker : Reader Number) {letter : Char} (mark : letter ∈ ['e', 'E']) (head : cs.head? = some letter)
    (same : ∀ cs, taker (letter :: cs) = exponent negative significand shift (letter :: cs))
    (read : exponent negative significand shift cs = .ok (n, rest)) :
    ∃ part, IsExponent part ∧ cs = part ++ rest ∧ Settles taker part n := by
  obtain ⟨more, rfl⟩ := List.head?_eq_some_iff.mp head
  obtain ⟨sign, ds, signed, run, rfl, settled⟩ := exponent_sound read
  exact ⟨letter :: sign ++ ds, ⟨letter, sign, ds, mark, signed, run, rfl⟩, by simp, fun ends => (same _).trans (settled ends)⟩

theorem exponentPart_sound (read : exponentPart negative significand shift cs = .ok (n, rest)) :
    ∃ part, (part = [] ∨ IsExponent part) ∧ cs = part ++ rest ∧
      Settles (exponentPart negative significand shift) part n := by
  rw [exponentPart, bind_ok (next?_eq cs)] at read
  generalize head : cs.head? = next at read
  split at read
  · obtain ⟨part, form, same, settled⟩ := exponent_taken (exponentPart negative significand shift) (by simp) head
      (fun _ => rfl) read
    exact ⟨part, .inr form, same, settled⟩
  · obtain ⟨part, form, same, settled⟩ := exponent_taken (exponentPart negative significand shift) (by simp) head
      (fun _ => rfl) read
    exact ⟨part, .inr form, same, settled⟩
  · obtain ⟨rfl, settled⟩ := idle_ofParts _ _ _ read
    refine ⟨[], .inl rfl, rfl, fun {rest} ends => ?_⟩
    rw [List.nil_append, exponentPart, bind_ok (next?_eq rest)]
    unfold Ends at ends
    generalize rest.head? = next at ends
    split
    · exact absurd (by simp) (ends _ rfl).2
    · exact absurd (by simp) (ends _ rfl).2
    · exact settled rest

theorem fraction_sound (read : fraction negative significand shift ('.' :: cs) = .ok (n, rest)) :
    ∃ ds part, IsDigits ds ∧ (part = [] ∨ IsExponent part) ∧ cs = ds ++ part ++ rest ∧
      Settles (fraction negative significand shift) ('.' :: ds ++ part) n := by
  rw [fraction, bind_ok (advance_cons ..)] at read
  obtain ⟨ds, mid, run, further⟩ := bind_eq_ok_iff.mp read
  obtain ⟨all, rfl⟩ := digits_sound run
  split at further
  · rw [bind_ok (next?_eq mid)] at further
    cases mid <;> exact nomatch further
  · next nonempty =>
    obtain ⟨part, marked, rfl, settled⟩ := exponentPart_sound further
    refine ⟨ds, part, ⟨mt List.isEmpty_iff.mpr nonempty, all⟩, marked, by simp, fun {rest} ends => ?_⟩
    have stops := exponent_stops marked ends
    rw [List.append_assoc, List.cons_append, fraction, bind_ok (advance_cons ..),
      bind_ok (digits_complete all fun c head => (stops c head).1), if_neg nonempty]
    exact settled ends

theorem afterWhole_sound {left : List Char} (read : afterWhole negative significand left cs = .ok (n, rest)) :
    ∃ fraction part, (fraction = [] ∨ IsFraction fraction) ∧ (part = [] ∨ IsExponent part) ∧
      cs = fraction ++ part ++ rest ∧ Settles (afterWhole negative significand left) (fraction ++ part) n := by
  rw [afterWhole, bind_ok (next?_eq cs)] at read
  generalize head : cs.head? = next at read
  split at read
  · obtain ⟨more, rfl⟩ := List.head?_eq_some_iff.mp head
    obtain ⟨ds, part, run, form, rfl, settled⟩ := fraction_sound read
    exact ⟨'.' :: ds, part, .inr ⟨ds, run, rfl⟩, form, by simp, fun ends => settled ends⟩
  · obtain ⟨part, form, same, settled⟩ := exponent_taken (afterWhole negative significand left) (by simp) head
      (fun _ => rfl) read
    exact ⟨[], part, .inl rfl, .inr form, same, settled⟩
  · obtain ⟨part, form, same, settled⟩ := exponent_taken (afterWhole negative significand left) (by simp) head
      (fun _ => rfl) read
    exact ⟨[], part, .inl rfl, .inr form, same, settled⟩
  · next point lower upper =>
    -- A number that ends with its digits is read without a look at what follows.
    have idle : Idle (if !left.isEmpty then ofParts negative significand left.length
        else if !negative then pure (.whole significand)
        else if significand = 0 || twoTo 63 < significand then pure (.binary (-(Binary.ofNat significand)))
        else pure (.whole (-(significand : Int)))) := by
      split_ifs
      · exact idle_ofParts _ _ _
      all_goals exact idle_pure _
    obtain ⟨rfl, settled⟩ := idle read
    refine ⟨[], [], .inl rfl, .inl rfl, rfl, fun {rest} ends => ?_⟩
    rw [List.append_nil, List.nil_append, afterWhole, bind_ok (next?_eq rest)]
    unfold Ends at ends
    generalize rest.head? = next at ends
    split
    · exact absurd (by simp) (ends _ rfl).2
    · exact absurd (by simp) (ends _ rfl).2
    · exact absurd (by simp) (ends _ rfl).2
    · exact settled rest

theorem number_settles (read : number negative cs = .ok (n, rest)) :
    ∃ whole fraction part, IsWhole whole ∧ (fraction = [] ∨ IsFraction fraction) ∧ (part = [] ∨ IsExponent part) ∧
      cs = whole ++ fraction ++ part ++ rest ∧ Settles (number negative) (whole ++ fraction ++ part) n := by
  obtain ⟨whole, mid, form, rfl, further⟩ := number_sound read
  obtain ⟨fraction, part, pointed, marked, rfl, settled⟩ := afterWhole_sound further
  refine ⟨whole, fraction, part, form, pointed, marked, by simp, fun {rest} ends => ?_⟩
  have stops : ∀ c ∈ (fraction ++ part ++ rest).head?, c.isDigit = false := by
    rcases pointed with rfl | ⟨ds, run, rfl⟩
    · exact fun c head => (exponent_stops marked ends c (by simpa using head)).1
    · simp
  have read := number_complete form stops (settled ends)
  simpa only [List.append_assoc] using read

/-! ## Numerals -/

theorem numeral_sound {expected : String} (read : numeral expected cs = .ok (n, rest)) :
    ∃ w v, Blank w ∧ IsNumber v ∧ cs = w ++ v ++ rest ∧
      ∀ {u more}, Blank u → Ends more → numeral expected (u ++ v ++ more) = .ok (n, more) := by
  obtain ⟨next, tail, look, further⟩ := bind_eq_ok_iff.mp read
  obtain ⟨w, blank, rfl, rfl⟩ := peek?_sound look
  cases tail with
  | nil => exact nomatch further
  | cons c tail =>
    simp only [List.head?_cons] at further
    split at further
    · next minus =>
      obtain rfl := eq_of_beq minus
      rw [bind_ok (advance_cons ..)] at further
      obtain ⟨whole, fraction, part, form, pointed, marked, rfl, settled⟩ := number_settles further
      refine ⟨w, '-' :: (whole ++ fraction ++ part), blank,
        ⟨['-'], whole, fraction, part, by simp, form, pointed, marked, by simp⟩, by simp, fun before ends => ?_⟩
      rw [List.append_assoc, List.cons_append, numeral, bind_ok (peek?_blank before rfl _)]
      exact settled ends
    split at further
    · next unsigned digit =>
      obtain ⟨whole, fraction, part, form, pointed, marked, same, settled⟩ := number_settles further
      refine ⟨w, whole ++ fraction ++ part, blank, ⟨[], whole, fraction, part, by simp, form, pointed, marked, by simp⟩,
        by simp [same], fun {u more} before ends => ?_⟩
      obtain ⟨d, ds, rfl⟩ := List.exists_cons_of_ne_nil form.1.1
      obtain rfl : c = d := (List.cons.inj same).1
      have read := settled ends
      simp only [List.append_assoc, List.cons_append] at read ⊢
      rw [numeral, bind_ok (peek?_blank before (isSpace_of_isDigit digit) _)]
      dsimp only
      rw [if_neg unsigned, if_pos digit]
      exact read
    · exact absurd further unexpected_ne_ok

theorem binary32_sound {x : Binary32} (read : binary32 cs = .ok (x, rest)) :
    ∃ w v, Blank w ∧ IsNumber v ∧ cs = w ++ v ++ rest ∧
      ∀ {u more}, Blank u → Ends more → binary32 (u ++ v ++ more) = .ok (x, more) := by
  obtain ⟨n, mid, numeral, value⟩ := bind_eq_ok_iff.mp read
  obtain ⟨w, v, blank, form, rfl, settled⟩ := numeral_sound numeral
  cases n <;>
  · obtain ⟨rfl, rfl⟩ := pure_eq_ok_iff.mp value
    exact ⟨w, v, blank, form, rfl, fun before ends => (bind_ok (settled before ends) _).trans rfl⟩

end Reader

theorem IsNumber.visible {v : List Char} (number : IsNumber v) : Visible v := (IsValue.number number).visible

theorem Reader.reads_binary32 : Reads binary32 IsFloat where
  sound read := by
    obtain ⟨w, v, blank, form, rfl, settled⟩ := binary32_sound read
    exact ⟨w, v, blank, ⟨form, by simpa using settled (u := []) nofun ends_nil⟩, rfl⟩
  complete {w v rest x} blank form ends := by
    obtain ⟨number, read⟩ := form
    obtain ⟨u, other, before, -, same, settled⟩ := binary32_sound read
    -- A numeral has no blanks in front.
    have whole : v = other := by
      obtain ⟨c, cs, rfl, seen, -⟩ := number.visible
      cases u with
      | nil => simpa using same
      | cons d u =>
        obtain rfl : c = d := (List.cons.inj same).1
        rw [isSpace_iff.mpr (before c List.mem_cons_self)] at seen
        cases seen
    exact whole ▸ settled blank ends
  visible form := form.1.visible

/-! ## Written numbers -/

/-- The text is of digits and of what stands between and before them. -/
structure Figures (s : String) : Prop where
  each : ∀ c ∈ s.toList, c.isDigit ∨ c ∈ ['.', 'e', '+', '-']

namespace Figures
variable {s t : String}

theorem append (front : Figures s) (back : Figures t) : Figures (s ++ t) where
  each c member := by
    rw [String.toList_append] at member
    exact (List.mem_append.mp member).elim (front.each c) (back.each c)

theorem part {cs : List Char} (whole : Figures s) (part : ∀ c ∈ cs, c ∈ s.toList) : Figures (String.ofList cs) where
  each c member := by
    rw [String.toList_ofList] at member
    exact whole.each c (part c member)

theorem nat (n : Nat) : Figures (toString n) where
  each c member := by
    rw [Nat.toString_eq_ofList_toDigits, String.toList_ofList] at member
    exact .inl ((isWhole_toDigits n).1.2 c member)

theorem int (i : Int) : Figures (toString i) := by
  cases i with
  | ofNat n => exact nat n
  | negSucc n =>
    have minus : Figures "-" := ⟨by simp⟩
    exact minus.append (nat (n + 1))

theorem zeros (n : Nat) : Figures (NumberStyle.zeros n) where
  each c member := by
    rw [NumberStyle.zeros, String.toList_ofList] at member
    rw [List.eq_of_mem_replicate member]
    exact .inl rfl

theorem writePositional (style : NumberStyle) (d : Decimal) : Figures (style.writePositional d) := by
  have point (keep : Bool) : Figures (if keep then ".0" else "") := ⟨by cases keep <;> simp⟩
  have front : Figures "0." := ⟨by simp⟩
  have mark : Figures "." := ⟨by simp⟩
  unfold NumberStyle.writePositional
  dsimp only
  by_cases whole : 0 ≤ d.exponent
  · rw [if_pos whole]
    exact ((nat _).append (zeros _)).append (point _)
  rw [if_neg whole]
  split
  · exact (front.append (zeros _)).append (nat _)
  · exact (((nat _).part fun _ => List.mem_of_mem_take).append mark).append ((nat _).part fun _ => List.mem_of_mem_drop)

theorem writeScientific (style : NumberStyle) (d : Decimal) : Figures (style.writeScientific d) := by
  have point : Figures "." := ⟨by simp⟩
  have mark (signed : Bool) : Figures (if signed then "e+" else "e") := ⟨by cases signed <;> simp⟩
  have tail : Figures (if (toString d.digits).toList.length ≤ 1 then "" else
      "." ++ String.ofList ((toString d.digits).toList.drop 1)) := by
    split
    · exact ⟨by simp⟩
    · exact point.append ((nat _).part fun _ => List.mem_of_mem_drop)
  exact ((((nat _).part fun _ => List.mem_of_mem_take).append tail).append (mark _)).append (int _)

theorem writeDecimal (style : NumberStyle) (d : Decimal) : Figures (style.writeDecimal d) := by
  unfold NumberStyle.writeDecimal
  dsimp only
  split
  · exact writePositional style d
  · split
    · exact writePositional style d
    · exact writeScientific style d

theorem isSpace {c : Char} (figures : Figures s) (member : c ∈ s.toList) : Reader.isSpace c = false := by
  rcases figures.each c member with digit | mark
  · exact isSpace_of_isDigit digit
  · have apart : ∀ c ∈ ['.', 'e', '+', '-'], Reader.isSpace c = false := by simp [Reader.isSpace]
    exact apart c mark

end Figures

theorem figures_number32 {x : Binary32} (finite : x.isFinite) : Figures (number32 x) := by
  obtain ⟨significand, exponent, datum, -⟩ := Binary.datum_of_isFinite finite
  have sign (shown : Bool) : Figures (if shown then "-" else "") := ⟨by cases shown <;> simp⟩
  rw [number32, if_pos finite, NumberStyle.write, datum]
  exact (sign _).append (.writeDecimal ..)

theorem number32_of_not_finite {x : Binary32} (infinite : ¬ x.isFinite) : number32 x = "null" := if_neg infinite

theorem exists_isFloat {xs : List Binary32} {vs : List (List Char)} (numbers : List.Forall₂ IsFloat xs vs) :
    ∀ v ∈ vs, ∃ x, IsFloat x v := by
  induction numbers with
  | nil => exact nofun
  | cons number numbers ih => exact List.forall_mem_cons.mpr ⟨⟨_, number⟩, ih⟩

theorem isValue_of_floats {xs : List Binary32} {vs : List (List Char)} (numbers : List.Forall₂ IsFloat xs vs) :
    ∀ v ∈ vs, IsValue v := fun v member =>
  have ⟨_, number⟩ := exists_isFloat numbers v member
  .number number.1

/-- The value is read from its own text. Reading rounds more than once, so this does not follow from the digits that are
written. -/
def ReadsBack (x : Binary32) : Prop := Reader.run Reader.binary32 (number32 x) = .ok x

instance (x : Binary32) : Decidable (ReadsBack x) := inferInstanceAs (Decidable (_ = _))

theorem ReadsBack.isFloat {x : Binary32} (back : ReadsBack x) (finite : x.isFinite) : IsFloat x (number32 x).toList := by
  obtain ⟨w, v, u, before, form, after, same⟩ := Reader.reads_binary32.run_eq_ok_iff.mp back
  have shown {cs : List Char} (blank : Blank cs) (part : ∀ c ∈ cs, c ∈ (number32 x).toList) : cs = [] := by
    refine List.eq_nil_iff_forall_not_mem.mpr fun c member => ?_
    have space := Reader.isSpace_iff.mpr (blank c member)
    rw [(figures_number32 finite).isSpace (part c member)] at space
    cases space
  obtain rfl := shown before fun c member => by simp [same, member]
  obtain rfl := shown after fun c member => by simp [same, member]
  rw [same]
  simpa using form

theorem isValue_number32 {x : Binary32} (exact : x.isFinite → ReadsBack x) : IsValue (number32 x).toList := by
  by_cases finite : x.isFinite
  · exact .number ((exact finite).isFloat finite).1
  · rw [number32_of_not_finite finite]
    exact .null

theorem not_isFloat_null {x : Binary32} : ¬ IsFloat x "null".toList := fun form => nomatch form.2

end ScriptedScene.Json
