import Mathlib.Data.List.TakeWhile
import Mathlib.Tactic.SplitIfs
import ScriptedScene.Json.Typed
import ScriptedScene.Proofs.Json.Grammar

/-! Readers of blanks, names and strings, held to the grammar: what they take is what it allows, and what it allows they
take. -/
namespace ScriptedScene.Json
variable {α β : Type}

theorem Blank.append {w u : List Char} (blank : Blank w) (more : Blank u) : Blank (w ++ u) := fun c member =>
  (List.mem_append.mp member).elim (blank c) (more c)

/-- A character is spelled by itself or by an escape. -/
theorem Spells.shape {c : Char} {piece : List Char} (spelled : Spells c piece) :
    Plain c ∧ piece = [c] ∨ ∃ front, piece = '\\' :: front := by
  cases spelled with
  | plain plain => exact .inl ⟨plain, rfl⟩
  | short listed => exact .inr ⟨_, rfl⟩
  | unit hex alone => exact .inr ⟨_, rfl⟩
  | pair leading trailing high low => exact .inr ⟨_, rfl⟩

theorem Spells.length_pos {c : Char} {piece : List Char} (spelled : Spells c piece) : 0 < piece.length := by
  rcases spelled.shape with ⟨-, rfl⟩ | ⟨front, rfl⟩ <;> exact Nat.succ_pos _

/-- A character is spelled in pieces. -/
theorem Spells.pieces {c : Char} {cs : List Char} (spelled : Spells c cs) :
    ∃ pieces : List (List Char), (∀ piece ∈ pieces, Piece piece) ∧ cs = pieces.flatten := by
  cases spelled with
  | plain plain => exact ⟨[_], by simpa using .plain plain, by simp⟩
  | short listed => exact ⟨[_], by simpa using .short listed, by simp⟩
  | unit hex alone => exact ⟨[_], by simpa using .unit hex, by simp⟩
  | pair leading trailing high low => exact ⟨[_, _], by simpa using ⟨.unit leading, .unit trailing⟩, by simp⟩

theorem IsText.isString {s : String} {cs : List Char} (text : IsText s cs) : IsString cs := by
  obtain ⟨spellings, spells, rfl⟩ := text
  generalize s.toList = chars at spells
  suffices ∃ pieces : List (List Char), (∀ piece ∈ pieces, Piece piece) ∧ spellings.flatten = pieces.flatten by
    obtain ⟨pieces, each, same⟩ := this
    exact ⟨pieces, each, by rw [same]⟩
  induction spells with
  | nil => exact ⟨[], nofun, rfl⟩
  | cons spelled spells ih =>
    obtain ⟨front, each, rfl⟩ := spelled.pieces
    obtain ⟨pieces, others, same⟩ := ih
    refine ⟨front ++ pieces, fun piece member => ?_, by simp [same]⟩
    exact (List.mem_append.mp member).elim (each piece) (others piece)

namespace Reader

/-! ## Steps -/

theorem bind_ok {x : Reader α} {cs mid : List Char} {a : α} (read : x cs = .ok (a, mid)) (f : α → Reader β) :
    (x >>= f) cs = f a mid := by
  change (x cs >>= fun p => f p.1 p.2) = _
  rw [read]
  rfl

theorem bind_congr {x y : Reader α} {cs ds : List Char} (same : x cs = y ds) (f : α → Reader β) :
    (x >>= f) cs = (y >>= f) ds := by
  change (x cs >>= fun p => f p.1 p.2) = (y ds >>= fun p => f p.1 p.2)
  rw [same]

/-- Two readers in turn give a value if both do. -/
theorem bind_eq_ok_iff {x : Reader α} {f : α → Reader β} {cs rest : List Char} {b : β} :
    (x >>= f) cs = .ok (b, rest) ↔ ∃ a mid, x cs = .ok (a, mid) ∧ f a mid = .ok (b, rest) := by
  cases read : x cs with
  | error fault =>
    have failed : (x >>= f) cs = .error fault := by
      change (x cs >>= fun p => f p.1 p.2) = _
      rw [read]
      rfl
    simp [failed]
  | ok p =>
    obtain ⟨a, mid⟩ := p
    rw [bind_ok read]
    constructor
    · exact fun next => ⟨a, mid, rfl, next⟩
    · rintro ⟨_, _, ⟨⟩, next⟩
      exact next

theorem pure_eq_ok_iff {a b : α} {cs rest : List Char} :
    (Pure.pure a : Reader α) cs = .ok (b, rest) ↔ a = b ∧ cs = rest := by
  change Except.ok (a, cs) = Except.ok (b, rest) ↔ _
  simp

theorem malformed_ne_ok {m : Malformed} {cs : List Char} {p : α × List Char} : malformed m cs ≠ .ok p := nofun

theorem unfinished_ne_ok {u : Unfinished} {cs : List Char} {p : α × List Char} : unfinished u cs ≠ .ok p := nofun

theorem mismatch_ne_ok {m : Mismatch} {cs : List Char} {p : α × List Char} : mismatch m cs ≠ .ok p := nofun

/-- A reader that goes on only where nothing is wrong. -/
theorem guarded_eq_ok_iff {wrong : Prop} [Decidable wrong] {m : Malformed} {f : Unit → Reader α} {next : Reader α}
    {cs : List Char} {p : α × List Char} :
    (if wrong then malformed m >>= f else next) cs = .ok p ↔ ¬ wrong ∧ next cs = .ok p := by
  split
  · next stands =>
    simp only [stands, not_true_eq_false, false_and, iff_false]
    nofun
  · next fails => simp [fails]

theorem unless_eq_ok_iff {wrong : Prop} [Decidable wrong] {m : Malformed} {next : Reader α} {cs : List Char}
    {p : α × List Char} : (if wrong then malformed m else next) cs = .ok p ↔ ¬ wrong ∧ next cs = .ok p := by
  split
  · next stands => simp [stands, malformed_ne_ok]
  · next fails => simp [fails]

theorem take_eq_ok_iff {u : Unfinished} {cs rest : List Char} {c : Char} : take u cs = .ok (c, rest) ↔ cs = c :: rest := by
  cases cs <;> simp [take]

theorem take_cons (u : Unfinished) (c : Char) (cs : List Char) : take u (c :: cs) = .ok (c, cs) := rfl

theorem advance_cons (c : Char) (cs : List Char) : advance (c :: cs) = .ok ((), cs) := rfl

/-! ## Blanks and names -/

theorem isSpace_iff {c : Char} : isSpace c = true ↔ c ∈ [' ', '\n', '\t', '\r'] := by simp [isSpace, or_assoc]

theorem blank_takeWhile (cs : List Char) : Blank (cs.takeWhile isSpace) := fun _ member =>
  isSpace_iff.mp (List.mem_takeWhile_imp member)

theorem dropWhile_blank {w : List Char} (blank : Blank w) (cs : List Char) :
    (w ++ cs).dropWhile isSpace = cs.dropWhile isSpace :=
  List.dropWhile_append_of_pos fun c member => isSpace_iff.mpr (blank c member)

/-- What is looked at next stands after blanks, if it stands there at all. -/
theorem peek?_sound {cs mid : List Char} {next : Option Char} (read : peek? cs = .ok (next, mid)) :
    ∃ w, Blank w ∧ cs = w ++ mid ∧ next = mid.head? := by
  simp only [peek?, Except.ok.injEq, Prod.mk.injEq] at read
  obtain ⟨rfl, rfl⟩ := read
  exact ⟨cs.takeWhile isSpace, blank_takeWhile cs, List.takeWhile_append_dropWhile.symm, rfl⟩

theorem peek?_blank {w : List Char} (blank : Blank w) {c : Char} (visible : isSpace c = false) (cs : List Char) :
    peek? (w ++ c :: cs) = .ok (some c, c :: cs) := by
  have stops : (c :: cs).dropWhile isSpace = c :: cs := List.dropWhile_cons_of_neg (by simp [visible])
  simp only [peek?, dropWhile_blank blank, stops, List.head?_cons]

theorem ident_eq_ok_iff {name cs rest : List Char} : ident name cs = .ok ((), rest) ↔ cs = name ++ rest := by
  induction name generalizing cs with
  | nil => simp [ident, pure_eq_ok_iff]
  | cons expected more ih =>
    rw [ident, bind_eq_ok_iff]
    constructor
    · rintro ⟨c, mid, taken, next⟩
      obtain rfl := take_eq_ok_iff.mp taken
      split at next
      · next same =>
        rw [ih.mp next, eq_of_beq same, List.cons_append]
      · exact absurd next malformed_ne_ok
    · rintro rfl
      exact ⟨expected, more ++ rest, rfl, by simpa using ih.mpr rfl⟩

/-- A name of which the first letter was seen. -/
theorem name_eq_ok_iff {c : Char} {name cs rest : List Char} {a b : α} :
    (advance >>= fun _ => ident name >>= fun _ => (Pure.pure a : Reader α)) (c :: cs) = .ok (b, rest) ↔
      a = b ∧ cs = name ++ rest := by
  rw [bind_ok (advance_cons ..), bind_eq_ok_iff]
  constructor
  · rintro ⟨⟨⟩, mid, same, done⟩
    obtain ⟨rfl, rfl⟩ := pure_eq_ok_iff.mp done
    exact ⟨rfl, ident_eq_ok_iff.mp same⟩
  · rintro ⟨rfl, rfl⟩
    exact ⟨(), rest, ident_eq_ok_iff.mpr rfl, rfl⟩

/-! ## Strings -/

theorem toNat_of_hexDigit? {c : Char} {n : Nat} (value : hexDigit? c = some n) : c.toNat < 128 := by
  have atMost {d : Char} (le : c ≤ d) (small : d.toNat < 128) : c.toNat < 128 := Nat.lt_of_le_of_lt le small
  unfold hexDigit? at value
  split at value
  · next digit => exact atMost (Char.isDigit_iff_toNat.mp digit).2 (by decide)
  · split at value
    · next letter => exact atMost (of_decide_eq_true (Bool.and_eq_true_iff.mp letter).2) (by decide)
    · split at value
      · next letter => exact atMost (of_decide_eq_true (Bool.and_eq_true_iff.mp letter).2) (by decide)
      · cases value

theorem hexDigit?_eq_some_iff {c : Char} {n : Nat} : hexDigit? c = some n ↔ HexDigit n c := by
  constructor
  · intro value
    have table : ∀ k < 128, ∀ n ∈ hexDigit? (Char.ofNat k), HexDigit n (Char.ofNat k) := by
      unfold HexDigit
      decide
    simpa using table c.toNat (toNat_of_hexDigit? value) n (by simpa using value)
  · have lower : ∀ n < 16, "0123456789abcdef".toList[n]?.all (hexDigit? · = some n) := by decide
    have upper : ∀ n < 16, "0123456789ABCDEF".toList[n]?.all (hexDigit? · = some n) := by decide
    rintro (listed | listed)
    · have entry := lower n (List.getElem?_eq_some_iff.mp listed).1
      rw [listed] at entry
      exact of_decide_eq_true entry
    · have entry := upper n (List.getElem?_eq_some_iff.mp listed).1
      rw [listed] at entry
      exact of_decide_eq_true entry

theorem hexEscape_eq_ok_iff {cs rest : List Char} {n : Nat} :
    hexEscape cs = .ok (n, rest) ↔ ∃ ds, Hex n ds ∧ cs = ds ++ rest := by
  constructor
  · intro read
    unfold hexEscape at read
    split at read
    · cases read
    · split at read
      · split at read
        · next first second third fourth =>
          cases read
          exact ⟨_, .digits (hexDigit?_eq_some_iff.mp first) (hexDigit?_eq_some_iff.mp second)
            (hexDigit?_eq_some_iff.mp third) (hexDigit?_eq_some_iff.mp fourth), rfl⟩
        · cases read
      · cases read
  · rintro ⟨ds, hex, rfl⟩
    obtain ⟨first, second, third, fourth⟩ := hex
    rename_i i j k l a b c d
    -- Four characters take four bytes at least.
    have enough : ¬ ((([a, b, c, d] ++ rest).take 4).foldl (fun n c => n + c.utf8Size) 0 < 4) := by
      have := a.utf8Size_pos
      have := b.utf8Size_pos
      have := c.utf8Size_pos
      have := d.utf8Size_pos
      simp only [List.cons_append, List.take_succ_cons, List.take_zero, List.foldl_cons, List.foldl_nil]
      omega
    show (if _ < 4 then _ else _) = _
    rw [if_neg enough]
    simp only [List.cons_append, List.nil_append, hexDigit?_eq_some_iff.mpr first,
      hexDigit?_eq_some_iff.mpr second, hexDigit?_eq_some_iff.mpr third, hexDigit?_eq_some_iff.mpr fourth]

theorem shortEscape?_eq_some_iff {letter c : Char} : shortEscape? letter = some c ↔ (letter, c) ∈ shortEscapes := by
  constructor
  · intro value
    simp only [shortEscape?, Bool.or_eq_true, beq_iff_eq] at value
    split_ifs at value with self <;> cases value
    · rcases self with (rfl | rfl) | rfl <;> simp [shortEscapes]
    all_goals simp [shortEscapes, *]
  · intro listed
    simp only [shortEscapes, List.mem_cons, Prod.mk.injEq, List.not_mem_nil, or_false] at listed
    rcases listed with ⟨rfl, rfl⟩ | ⟨rfl, rfl⟩ | ⟨rfl, rfl⟩ | ⟨rfl, rfl⟩ | ⟨rfl, rfl⟩ | ⟨rfl, rfl⟩ | ⟨rfl, rfl⟩ | ⟨rfl, rfl⟩ <;> rfl

theorem surrogateEscape_eq_ok_iff {unit : Nat} {cs rest : List Char} {c : Char} :
    surrogateEscape unit cs = .ok (c, rest) ↔
      (unit < 0xD800 ∨ 0xDFFF < unit) ∧ Char.ofNat unit = c ∧ cs = rest ∨
      (0xD800 ≤ unit ∧ unit ≤ 0xDBFF) ∧ ∃ n ds, Hex n ds ∧ (0xDC00 ≤ n ∧ n ≤ 0xDFFF) ∧
        Char.ofNat (0x10000 + (unit - 0xD800) * 0x400 + (n - 0xDC00)) = c ∧ cs = '\\' :: 'u' :: ds ++ rest := by
  unfold surrogateEscape
  simp only [unless_eq_ok_iff, Bool.and_eq_true, Bool.or_eq_true, decide_eq_true_eq]
  split
  · next alone =>
    simp only [pure_eq_ok_iff]
    constructor
    · rintro ⟨-, rfl, rfl⟩
      exact .inl ⟨alone, rfl, rfl⟩
    · rintro (⟨-, rfl, rfl⟩ | ⟨leading, -⟩)
      · exact ⟨by omega, rfl, rfl⟩
      · omega
  · next surrogate =>
    simp only [bind_eq_ok_iff, guarded_eq_ok_iff, take_eq_ok_iff, hexEscape_eq_ok_iff, pure_eq_ok_iff, bne_iff_ne, not_not]
    constructor
    · rintro ⟨leading, _, _, rfl, rfl, _, _, rfl, rfl, n, _, ⟨ds, hex, rfl⟩, trailing, rfl, rfl⟩
      exact .inr ⟨by omega, n, ds, hex, by omega, rfl, rfl⟩
    · rintro (⟨alone, -⟩ | ⟨leading, n, ds, hex, trailing, rfl, rfl⟩)
      · exact absurd alone surrogate
      · exact ⟨by omega, _, _, rfl, rfl, _, _, rfl, rfl, n, rest, ⟨ds, hex, rfl⟩, by omega, rfl, rfl⟩

theorem escape_eq_ok_iff {cs rest : List Char} {c : Char} :
    escape cs = .ok (c, rest) ↔ ∃ front, Spells c ('\\' :: front) ∧ cs = front ++ rest := by
  rw [escape, bind_eq_ok_iff]
  constructor
  · rintro ⟨letter, mid, taken, read⟩
    obtain rfl := take_eq_ok_iff.mp taken
    split at read
    · next hexadecimal =>
      obtain rfl := eq_of_beq hexadecimal
      obtain ⟨unit, mid, digits, next⟩ := bind_eq_ok_iff.mp read
      obtain ⟨ds, hex, rfl⟩ := hexEscape_eq_ok_iff.mp digits
      rcases surrogateEscape_eq_ok_iff.mp next with ⟨alone, rfl, rfl⟩ | ⟨leading, n, es, trail, trailing, rfl, rfl⟩
      · exact ⟨'u' :: ds, .unit hex alone, rfl⟩
      · exact ⟨'u' :: ds ++ '\\' :: 'u' :: es, .pair hex trail leading trailing, by simp⟩
    · cases short : shortEscape? letter with
      | none =>
        rw [short] at read
        exact absurd read malformed_ne_ok
      | some d =>
        rw [short] at read
        obtain ⟨rfl, rfl⟩ := pure_eq_ok_iff.mp read
        exact ⟨[letter], .short (shortEscape?_eq_some_iff.mp short), rfl⟩
  · rintro ⟨front, spelled, rfl⟩
    generalize piece : '\\' :: front = cs at spelled
    cases spelled with
    | plain plain =>
      obtain ⟨rfl, -⟩ := List.cons.inj piece
      exact absurd rfl plain.2.2
    | @short letter _ listed =>
      obtain ⟨-, rfl⟩ := List.cons.inj piece
      have other : ∀ p ∈ shortEscapes, (p.1 == 'u') = false := by decide
      refine ⟨letter, rest, take_cons .., ?_⟩
      rw [other _ listed, shortEscape?_eq_some_iff.mpr listed]
      rfl
    | unit hex alone =>
      obtain ⟨-, rfl⟩ := List.cons.inj piece
      refine ⟨'u', _, take_cons .., bind_eq_ok_iff.mpr ⟨_, _, hexEscape_eq_ok_iff.mpr ⟨_, hex, rfl⟩, ?_⟩⟩
      exact surrogateEscape_eq_ok_iff.mpr (.inl ⟨alone, rfl, rfl⟩)
    | pair leading trailing high low =>
      obtain ⟨-, rfl⟩ := List.cons.inj piece
      refine ⟨'u', _, take_cons .., bind_eq_ok_iff.mpr ⟨_, _, hexEscape_eq_ok_iff.mpr ⟨_, leading, List.append_assoc ..⟩, ?_⟩⟩
      exact surrogateEscape_eq_ok_iff.mpr (.inr ⟨high, _, _, trailing, low, rfl, rfl⟩)

/-- A character that stands for itself is neither the end of a string nor the start of an escape. -/
theorem plain_of_tests {c : Char} (inside : ¬ (c == '"') = true) (unescaped : ¬ (c == '\\') = true) (visible : ¬ c < ' ') :
    Plain c :=
  ⟨Char.not_lt.mp visible, by simpa using inside, by simpa using unescaped⟩

theorem stringBody_plain {c : Char} (plain : Plain c) (fuel : Nat) (read cs : List Char) :
    stringBody (fuel + 1) read (c :: cs) = stringBody fuel (c :: read) cs := by
  obtain ⟨visible, inside, unescaped⟩ := plain
  rw [stringBody, bind_ok (take_cons ..), if_neg (by simpa using inside), if_neg (by simpa using unescaped),
    if_neg (Char.not_lt.mpr visible)]

theorem stringBody_escape {c : Char} {cs mid : List Char} (escaped : escape cs = .ok (c, mid)) (fuel : Nat)
    (read : List Char) : stringBody (fuel + 1) read ('\\' :: cs) = stringBody fuel (c :: read) mid := by
  rw [stringBody, bind_ok (take_cons ..), if_neg (by decide), if_pos (by decide), bind_ok escaped]

theorem stringBody_sound {fuel : Nat} {read cs rest : List Char} {s : String}
    (body : stringBody fuel read cs = .ok (s, rest)) :
    ∃ chars pieces, List.Forall₂ Spells chars pieces ∧ s.toList = read.reverse ++ chars ∧
      cs = pieces.flatten ++ '"' :: rest := by
  induction fuel generalizing read cs with
  | zero => exact absurd body unfinished_ne_ok
  | succ fuel ih =>
    rw [stringBody, bind_eq_ok_iff] at body
    obtain ⟨c, mid, taken, body⟩ := body
    obtain rfl := take_eq_ok_iff.mp taken
    split at body
    · next closing =>
      obtain ⟨rfl, rfl⟩ := pure_eq_ok_iff.mp body
      rw [eq_of_beq closing]
      exact ⟨[], [], .nil, by simp, rfl⟩
    · next inside =>
      split at body
      · next escaped =>
        rw [eq_of_beq escaped]
        obtain ⟨d, mid, escape, next⟩ := bind_eq_ok_iff.mp body
        obtain ⟨front, spelled, rfl⟩ := escape_eq_ok_iff.mp escape
        obtain ⟨chars, pieces, spells, same, rfl⟩ := ih next
        exact ⟨d :: chars, ('\\' :: front) :: pieces, .cons spelled spells, by simp [same], by simp⟩
      · next unescaped =>
        rw [unless_eq_ok_iff] at body
        obtain ⟨visible, body⟩ := body
        obtain ⟨chars, pieces, spells, same, rfl⟩ := ih body
        exact ⟨c :: chars, [c] :: pieces, .cons (.plain (plain_of_tests inside unescaped visible)) spells, by simp [same],
          by simp⟩

theorem stringBody_complete {chars : List Char} {pieces : List (List Char)} (spells : List.Forall₂ Spells chars pieces)
    (rest : List Char) {fuel : Nat} (enough : pieces.flatten.length < fuel) (read : List Char) :
    stringBody fuel read (pieces.flatten ++ '"' :: rest) = .ok (String.ofList (read.reverse ++ chars), rest) := by
  induction spells generalizing fuel read with
  | nil =>
    obtain ⟨fuel, rfl⟩ := Nat.exists_eq_add_one_of_ne_zero (Nat.ne_zero_of_lt enough)
    rw [List.append_nil]
    rfl
  | @cons c piece chars pieces spelled spells ih =>
    obtain ⟨fuel, rfl⟩ := Nat.exists_eq_add_one_of_ne_zero (Nat.ne_zero_of_lt enough)
    have enough : pieces.flatten.length < fuel := by
      have := spelled.length_pos
      rw [List.flatten_cons, List.length_append] at enough
      omega
    have further : stringBody fuel (c :: read) (pieces.flatten ++ '"' :: rest) =
        .ok (String.ofList (read.reverse ++ c :: chars), rest) := by
      rw [ih enough, List.reverse_cons, List.append_assoc, List.singleton_append]
    rw [List.flatten_cons, List.append_assoc, ← further]
    rcases spelled.shape with ⟨plain, rfl⟩ | ⟨front, rfl⟩
    · exact stringBody_plain plain fuel read _
    · exact stringBody_escape (escape_eq_ok_iff.mpr ⟨front, spelled, rfl⟩) fuel read

theorem string_eq_ok_iff {cs rest : List Char} {s : String} :
    string cs = .ok (s, rest) ↔ ∃ front, IsText s ('"' :: front) ∧ cs = front ++ rest := by
  constructor
  · intro read
    obtain ⟨chars, pieces, spells, same, rfl⟩ := stringBody_sound read
    rw [List.reverse_nil, List.nil_append] at same
    subst same
    exact ⟨pieces.flatten ++ ['"'], ⟨pieces, spells, rfl⟩, by simp⟩
  · rintro ⟨front, ⟨pieces, spells, same⟩, rfl⟩
    obtain ⟨-, rfl⟩ := List.cons.inj same
    have enough : pieces.flatten.length < (pieces.flatten ++ ['"'] ++ rest).length + 1 := by
      simp only [List.length_append]
      omega
    have read := stringBody_complete spells rest enough []
    rw [List.reverse_nil, List.nil_append, String.ofList_toList] at read
    simpa [string] using read

end Reader

end ScriptedScene.Json
