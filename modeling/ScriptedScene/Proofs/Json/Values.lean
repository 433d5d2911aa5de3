import ScriptedScene.Proofs.Json.Skipping

/-! Values that nobody asked for, of any depth. The reader keeps a list of the brackets that are open, so each of its steps
is told by what the open brackets still need. -/
namespace ScriptedScene.Json

theorem IsValue.visible {v : List Char} (value : IsValue v) : Visible v := by
  cases value with
  | null => exact ⟨'n', _, rfl, rfl, by decide⟩
  | true => exact ⟨'t', _, rfl, rfl, by decide⟩
  | false => exact ⟨'f', _, rfl, rfl, by decide⟩
  | number number =>
    obtain ⟨sign, whole, fraction, exponent, signed, form, -, -, rfl⟩ := number
    simp only [List.mem_cons, List.not_mem_nil, or_false] at signed
    rcases signed with rfl | rfl
    · simpa using form.1.visible (fraction ++ exponent)
    · exact ⟨'-', _, rfl, rfl, by decide⟩
  | string string => simpa using string.visible []
  | array array values =>
    obtain ⟨body, items, rfl⟩ := array
    exact ⟨'[', body, rfl, rfl, by decide⟩
  | object object values =>
    obtain ⟨body, items, rfl⟩ := object
    exact ⟨'\x7b', body, rfl, rfl, by decide⟩

theorem IsText.isValue {s : String} {cs : List Char} (text : IsText s cs) : IsValue cs := .string text.isString

theorem IsObject.isValue {ms : List (String × List Char)} {cs : List Char} (object : IsObject ms cs)
    (values : ∀ m ∈ ms, IsValue m.2) : IsValue cs := by
  have unnamed {first : Bool} {ns : List (String × List Char)} {body : List Char}
      (items : Items '\x7d' NamedMember first ns body) : Items '\x7d' AnyMember first (ns.map Prod.snd) body := by
    induction items with
    | done blank => exact .done blank
    | first item others ih =>
      obtain ⟨key, text, member⟩ := item
      exact .first ⟨key, text.isString, member⟩ ih
    | more blank item others ih =>
      obtain ⟨key, text, member⟩ := item
      exact .more blank ⟨key, text.isString, member⟩ ih
  obtain ⟨body, items, rfl⟩ := object
  exact .object ⟨body, unnamed items, rfl⟩ (List.forall_mem_map.mpr values)

namespace Reader

namespace Enclosure

def opener : Enclosure → Char
  | list => '['
  | object => '\x7b'

def closer : Enclosure → Char
  | list => ']'
  | object => '\x7d'

/-- What stands between commas, told by the text of the value in it. -/
def Item : Enclosure → List Char → List Char → Prop
  | list => Element
  | object => AnyMember

theorem isValue {e : Enclosure} {vs : List (List Char)} {body : List Char} (items : Items e.closer e.Item true vs body)
    (values : ∀ v ∈ vs, IsValue v) : IsValue (e.opener :: body) := by
  cases e with
  | list => exact .array ⟨body, items, rfl⟩ values
  | object => exact .object ⟨body, items, rfl⟩ values

theorem Item.blank {e : Enclosure} {w v item : List Char} (blank : Blank w) (form : e.Item v item) :
    e.Item v (w ++ item) := by
  cases e with
  | list =>
    obtain ⟨x, other, rfl⟩ := form
    exact ⟨w ++ x, blank.append other, by simp⟩
  | object =>
    obtain ⟨key, spelled, u, x, y, before, middle, after, rfl⟩ := form
    exact ⟨key, spelled, w ++ u, x, y, blank.append before, middle, after, by simp⟩

/-- An item may be told without the blanks before it. -/
theorem Item.visible {e : Enclosure} {v item : List Char} (form : e.Item v item) (value : IsValue v) :
    ∃ w inner, Blank w ∧ item = w ++ inner ∧ Visible inner ∧ e.Item v inner := by
  cases e with
  | list =>
    obtain ⟨w, blank, rfl⟩ := form
    exact ⟨w, v, blank, rfl, value.visible, [], nofun, rfl⟩
  | object =>
    obtain ⟨key, spelled, u, x, y, before, middle, after, rfl⟩ := form
    refine ⟨u, key ++ (x ++ ':' :: y ++ v), before, by simp, spelled.visible _, ?_⟩
    exact ⟨key, spelled, [], x, y, nofun, middle, after, by simp⟩

theorem bracket (e : Enclosure) : e.closer ∈ [']', '\x7d'] := by cases e <;> decide

end Enclosure

theorem skipKey_sound {cs mid : List Char} (read : skipKey cs = .ok ((), mid)) :
    ∃ u key w, Blank u ∧ IsString key ∧ Blank w ∧ cs = u ++ key ++ w ++ ':' :: mid := by
  obtain ⟨next, tail, look, further⟩ := bind_eq_ok_iff.mp read
  obtain ⟨u, blank, rfl, rfl⟩ := peek?_sound look
  beta_reduce at further
  generalize head : tail.head? = next at further
  split at further
  · exact nomatch further
  · obtain ⟨more, rfl⟩ := List.head?_eq_some_iff.mp head
    rw [bind_ok (advance_cons ..)] at further
    obtain ⟨⟨⟩, tail, skipped, colon⟩ := bind_eq_ok_iff.mp further
    obtain ⟨front, spelled, rfl⟩ := skipString_eq_ok_iff.mp skipped
    obtain ⟨next, tail, look, closing⟩ := bind_eq_ok_iff.mp colon
    obtain ⟨w, between, rfl, rfl⟩ := peek?_sound look
    generalize head : tail.head? = next at closing
    split at closing
    · exact nomatch closing
    · obtain ⟨more, rfl⟩ := List.head?_eq_some_iff.mp head
      obtain rfl : more = mid := by simpa [advance] using closing
      exact ⟨u, '"' :: front, w, blank, spelled, between, by simp⟩
    · exact nomatch closing
  · exact nomatch further

theorem skipKey_complete {u key w : List Char} (before : Blank u) (spelled : IsString key) (after : Blank w)
    (cs : List Char) : skipKey (u ++ key ++ w ++ ':' :: cs) = .ok ((), cs) := by
  obtain ⟨pieces, each, rfl⟩ := spelled
  have skipped : skipString (pieces.flatten ++ ['"'] ++ (w ++ ':' :: cs)) = .ok ((), w ++ ':' :: cs) :=
    skipString_eq_ok_iff.mpr ⟨pieces.flatten ++ ['"'], ⟨pieces, each, rfl⟩, rfl⟩
  simp only [List.append_assoc, List.cons_append] at skipped ⊢
  refine (bind_ok (peek?_blank before rfl _) _).trans ((bind_ok (advance_cons ..) _).trans ((bind_ok skipped _).trans ?_))
  exact bind_ok (peek?_blank after rfl _) _

theorem enter_sound {e : Enclosure} {cs mid : List Char} (read : enter e cs = .ok ((), mid)) :
    ∃ front, cs = front ++ mid ∧ ∀ w v, Blank w → e.Item v (front ++ (w ++ v)) := by
  cases e with
  | list =>
    obtain ⟨-, rfl⟩ := pure_eq_ok_iff.mp read
    exact ⟨[], rfl, fun w v blank => ⟨w, blank, rfl⟩⟩
  | object =>
    obtain ⟨u, key, x, before, spelled, after, rfl⟩ := skipKey_sound read
    exact ⟨u ++ key ++ x ++ [':'], by simp, fun w v blank => ⟨key, spelled, u, x, w, before, after, blank, by simp⟩⟩

theorem enter_complete {e : Enclosure} {v item : List Char} (form : e.Item v item) :
    ∃ u w, Blank w ∧ item = u ++ (w ++ v) ∧ ∀ cs, enter e (item ++ cs) = .ok ((), w ++ v ++ cs) := by
  cases e with
  | list =>
    obtain ⟨w, blank, rfl⟩ := form
    exact ⟨[], w, blank, rfl, fun _ => rfl⟩
  | object =>
    obtain ⟨key, spelled, u, x, w, before, after, blank, rfl⟩ := form
    refine ⟨u ++ key ++ x ++ [':'], w, blank, by simp, fun cs => ?_⟩
    have read := skipKey_complete before spelled after (w ++ v ++ cs)
    simpa [enter] using read

/-- A value that holds no others, or an opening bracket. -/
def Token : Option Enclosure → List Char → Prop
  | none, v => IsValue v
  | some e, v => v = [e.opener]

theorem skipToken_sound {cs mid : List Char} {o : Option Enclosure} (read : skipToken cs = .ok (o, mid)) :
    ∃ w v, Blank w ∧ Token o v ∧ cs = w ++ v ++ mid := by
  obtain ⟨next, tail, look, further⟩ := bind_eq_ok_iff.mp read
  obtain ⟨w, blank, rfl, rfl⟩ := peek?_sound look
  cases tail with
  | nil => exact nomatch further
  | cons c tail =>
    have named {name : List Char} (value : IsValue (c :: name))
        (rest : (advance >>= fun _ => ident name >>= fun _ => (pure none : Reader (Option Enclosure))) (c :: tail) =
          .ok (o, mid)) : ∃ u v, Blank u ∧ Token o v ∧ w ++ c :: tail = u ++ v ++ mid := by
      obtain ⟨rfl, rfl⟩ := name_eq_ok_iff.mp rest
      exact ⟨w, c :: name, blank, value, by simp⟩
    have numbered {sign digits : List Char} (signed : sign ∈ [[], ['-']]) (same : c :: tail = sign ++ digits)
        (rest : (skipNumber >>= fun _ => (pure none : Reader (Option Enclosure))) digits = .ok (o, mid)) :
        ∃ u v, Blank u ∧ Token o v ∧ w ++ c :: tail = u ++ v ++ mid := by
      obtain ⟨⟨⟩, mid, number, done⟩ := bind_eq_ok_iff.mp rest
      obtain ⟨rfl, rfl⟩ := pure_eq_ok_iff.mp done
      obtain ⟨whole, fraction, exponent, form, pointed, marked, rfl⟩ := skipNumber_sound number
      refine ⟨w, sign ++ whole ++ fraction ++ exponent, blank, ?_, by simp [same]⟩
      exact .number ⟨sign, whole, fraction, exponent, signed, form, pointed, marked, rfl⟩
    have opened {e : Enclosure} (bracket : c = e.opener)
        (rest : (advance >>= fun _ => (pure (some e) : Reader (Option Enclosure))) (c :: tail) = .ok (o, mid)) :
        ∃ u v, Blank u ∧ Token o v ∧ w ++ c :: tail = u ++ v ++ mid := by
      obtain ⟨rfl, rfl⟩ := pure_eq_ok_iff.mp rest
      exact ⟨w, [c], blank, congrArg (fun c => [c]) bracket, by simp⟩
    simp only [List.head?_cons] at further
    split at further
    · next same => exact opened (e := .list) (eq_of_beq same) further
    split at further
    · next same => exact opened (e := .object) (eq_of_beq same) further
    split at further
    · next same =>
      rw [bind_ok (advance_cons ..)] at further
      obtain ⟨⟨⟩, mid, skipped, done⟩ := bind_eq_ok_iff.mp further
      obtain ⟨rfl, rfl⟩ := pure_eq_ok_iff.mp done
      obtain ⟨front, spelled, rfl⟩ := skipString_eq_ok_iff.mp skipped
      rw [eq_of_beq same]
      exact ⟨w, '"' :: front, blank, .string spelled, by simp⟩
    split at further
    · next same => exact named (by rw [eq_of_beq same]; exact .null) further
    split at further
    · next same => exact named (by rw [eq_of_beq same]; exact .true) further
    split at further
    · next same => exact named (by rw [eq_of_beq same]; exact .false) further
    split at further
    · next same => exact numbered (show ['-'] ∈ [[], ['-']] by simp) (by rw [eq_of_beq same]; rfl) further
    split at further
    · exact numbered (show [] ∈ [[], ['-']] by simp) rfl further
    · exact nomatch further

theorem skipToken_bracket {w : List Char} (blank : Blank w) (e : Enclosure) (cs : List Char) :
    skipToken (w ++ e.opener :: cs) = .ok (some e, cs) := by
  cases e <;> exact bind_ok (peek?_blank blank rfl cs) _

theorem skipToken_name {w : List Char} (blank : Blank w) {c : Char} {name : List Char}
    (listed : c :: name ∈ ["null".toList, "true".toList, "false".toList]) (cs : List Char) :
    skipToken (w ++ (c :: name) ++ cs) = .ok (none, cs) := by
  have read : (advance >>= fun _ => ident name >>= fun _ => (pure none : Reader (Option Enclosure))) (c :: (name ++ cs)) =
      .ok (none, cs) := name_eq_ok_iff.mpr ⟨rfl, rfl⟩
  rw [List.append_assoc, List.cons_append, ← read]
  simp only [List.mem_cons, List.not_mem_nil, or_false] at listed
  rcases listed with listed | listed | listed <;> obtain ⟨rfl, rfl⟩ := List.cons.inj listed <;>
    exact bind_ok (peek?_blank blank rfl _) _

theorem skipToken_string {w front : List Char} (blank : Blank w) (spelled : IsString ('"' :: front)) (cs : List Char) :
    skipToken (w ++ ('"' :: front) ++ cs) = .ok (none, cs) := by
  have skipped : skipString (front ++ cs) = .ok ((), cs) := skipString_eq_ok_iff.mpr ⟨front, spelled, rfl⟩
  rw [List.append_assoc, List.cons_append]
  exact (bind_ok (peek?_blank blank rfl _) _).trans ((bind_ok (advance_cons ..) _).trans ((bind_ok skipped _).trans rfl))

theorem skipToken_number {w v : List Char} (blank : Blank w) (number : IsNumber v) {cs : List Char} (ends : Ends cs) :
    skipToken (w ++ v ++ cs) = .ok (none, cs) := by
  obtain ⟨sign, whole, fraction, exponent, signed, form, pointed, marked, rfl⟩ := number
  have skipped := skipNumber_complete form pointed marked ends
  have read : (skipNumber >>= fun _ => (pure none : Reader (Option Enclosure))) (whole ++ fraction ++ exponent ++ cs) =
      .ok (none, cs) := (bind_ok skipped _).trans rfl
  rw [← read]
  simp only [List.mem_cons, List.not_mem_nil, or_false] at signed
  rcases signed with rfl | rfl
  · obtain ⟨d, ds, rfl⟩ := List.exists_cons_of_ne_nil form.1.1
    have digit : d.isDigit := form.1.2 d List.mem_cons_self
    have visible := isSpace_of_isDigit digit
    have apart {c : Char} (other : c.isDigit = false) : (d == c) = false := by
      rw [← Bool.not_eq_true]
      intro same
      rw [eq_of_beq same, other] at digit
      exact nomatch digit
    simp only [List.append_assoc, List.nil_append, List.cons_append]
    rw [skipToken, bind_ok (peek?_blank blank visible _)]
    simp only [apart (c := '[') rfl, apart (c := '\x7b') rfl, apart (c := '"') rfl, apart (c := 'n') rfl,
      apart (c := 't') rfl, apart (c := 'f') rfl, apart (c := '-') rfl, digit, Bool.false_eq_true, if_true, if_false]
  · simp only [List.append_assoc, List.cons_append, List.nil_append]
    exact bind_ok (peek?_blank blank rfl _) _

/-! ## Open enclosures -/

/-- What closes the open enclosures after a value in the innermost of them. -/
def Closes : List Enclosure → List Char → Prop
  | [], t => t = []
  | e :: es, t => ∃ vs body more,
    Items e.closer e.Item false vs body ∧ (∀ v ∈ vs, IsValue v) ∧ Closes es more ∧ t = body ++ more

/-- What closes the open enclosures before another item of the innermost of them. -/
def Pending : List Enclosure → List Char → Prop
  | [], t => t = []
  | e :: es, t => ∃ v item more, e.Item v item ∧ IsValue v ∧ Closes (e :: es) more ∧ t = item ++ more

theorem closer_iff {e : Enclosure} {c : Char} :
    (c == ']' && e == .list || c == '\x7d' && e == .object) = true ↔ c = e.closer := by
  cases e <;> simp [Enclosure.closer]

/-- What is met in the innermost of the open enclosures: a comma after a value, its closing bracket, or what else can stand
before the first value. -/
theorem closeAll_cons_sound {after : Bool} {e : Enclosure} {es left : List Enclosure} {cs mid : List Char}
    (read : closeAll after (e :: es) cs = .ok (left, mid)) :
    ∃ w, Blank w ∧ (after = true ∧ left = e :: es ∧ cs = w ++ ',' :: mid ∨
      (∃ more, cs = w ++ e.closer :: more ∧ closeAll true es more = .ok (left, mid)) ∨
      after = false ∧ left = e :: es ∧ cs = w ++ mid) := by
  rw [closeAll.eq_def] at read
  obtain ⟨next, tail, look, further⟩ := bind_eq_ok_iff.mp read
  obtain ⟨w, blank, rfl, rfl⟩ := peek?_sound look
  refine ⟨w, blank, ?_⟩
  cases tail with
  | nil => exact nomatch further
  | cons c more =>
    simp only [List.head?_cons, closer_iff] at further
    split at further
    · next comma =>
      obtain ⟨same, value⟩ := Bool.and_eq_true_iff.mp comma
      obtain ⟨rfl, rfl⟩ := pure_eq_ok_iff.mp further
      rw [eq_of_beq same]
      exact .inl ⟨value, rfl, rfl⟩
    split at further
    · next closing => exact .inr (.inl ⟨more, by rw [closing], further⟩)
    split at further
    · exact absurd further malformed_ne_ok
    · next early =>
      obtain ⟨rfl, rfl⟩ := pure_eq_ok_iff.mp further
      exact .inr (.inr ⟨Bool.eq_false_iff.mpr early, rfl, rfl⟩)

theorem closeAll_closer {after : Bool} {e : Enclosure} {es : List Enclosure} {w : List Char} (blank : Blank w)
    (cs : List Char) : closeAll after (e :: es) (w ++ e.closer :: cs) = closeAll true es cs := by
  cases e <;> cases after <;> exact bind_ok (peek?_blank blank rfl _) _

theorem closeAll_comma {e : Enclosure} {es : List Enclosure} {w : List Char} (blank : Blank w) (cs : List Char) :
    closeAll true (e :: es) (w ++ ',' :: cs) = .ok (e :: es, cs) := by
  cases e <;> exact bind_ok (peek?_blank blank rfl _) _

theorem closeAll_visible {e : Enclosure} {es : List Enclosure} {w v : List Char} (blank : Blank w) (visible : Visible v)
    (cs : List Char) : closeAll false (e :: es) (w ++ v ++ cs) = .ok (e :: es, v ++ cs) := by
  obtain ⟨c, v, rfl, seen, inside⟩ := visible
  have open_ : c ≠ e.closer := fun closing => inside (closing ▸ e.bracket)
  rw [List.append_assoc, List.cons_append, closeAll.eq_def]
  refine (bind_ok (peek?_blank blank seen _) _).trans ?_
  simp only [closer_iff, open_, Bool.and_false, Bool.false_eq_true, if_false]
  rfl

/-- What is passed after a value, up to where another one starts or the whole ends, stands in the enclosures it closes. -/
theorem closeAll_sound {es left : List Enclosure} {cs mid : List Char} (read : closeAll true es cs = .ok (left, mid)) :
    ∃ front, cs = front ++ mid ∧ ∀ t, Pending left t → Closes es (front ++ t) := by
  induction es generalizing cs with
  | nil =>
    obtain ⟨rfl, rfl⟩ := pure_eq_ok_iff.mp read
    exact ⟨[], rfl, fun t pending => pending⟩
  | cons e es ih =>
    obtain ⟨w, blank, ⟨-, rfl, rfl⟩ | ⟨more, rfl, further⟩ | ⟨late, -⟩⟩ := closeAll_cons_sound read
    · refine ⟨w ++ [','], by simp, ?_⟩
      rintro t ⟨v, item, more, form, value, ⟨vs, body, outer, items, values, closes, rfl⟩, rfl⟩
      exact ⟨v :: vs, w ++ ',' :: item ++ body, outer, .more blank form items, List.forall_mem_cons.mpr ⟨value, values⟩,
        closes, by simp⟩
    · obtain ⟨front, rfl, closes⟩ := ih further
      refine ⟨w ++ e.closer :: front, by simp, fun t pending => ?_⟩
      exact ⟨[], w ++ [e.closer], front ++ t, .done blank, nofun, closes t pending, by simp⟩
    · exact nomatch late

theorem closeAll_opened_sound {e : Enclosure} {es left : List Enclosure} {cs mid : List Char}
    (read : closeAll false (e :: es) cs = .ok (left, mid)) :
    ∃ front, cs = front ++ mid ∧ ∀ t, Pending left t →
      ∃ body more, IsValue (e.opener :: body) ∧ Closes es more ∧ front ++ t = body ++ more := by
  obtain ⟨w, blank, ⟨early, -⟩ | ⟨more, rfl, further⟩ | ⟨-, rfl, rfl⟩⟩ := closeAll_cons_sound read
  · exact nomatch early
  · obtain ⟨front, rfl, closes⟩ := closeAll_sound further
    refine ⟨w ++ e.closer :: front, by simp, fun t pending => ?_⟩
    exact ⟨w ++ [e.closer], front ++ t, Enclosure.isValue (.done blank) nofun, closes t pending, by simp⟩
  · refine ⟨w, rfl, ?_⟩
    rintro t ⟨v, item, more, form, value, ⟨vs, body, outer, items, values, closes, rfl⟩, rfl⟩
    have whole : IsValue (e.opener :: (w ++ item ++ body)) :=
      Enclosure.isValue (.first (form.blank blank) items) (List.forall_mem_cons.mpr ⟨value, values⟩)
    exact ⟨w ++ item ++ body, outer, whole, closes, by simp⟩

/-! ## Values in open enclosures -/

/-- What is left to skip once all that ends is closed. -/
def goOn (fuel : Nat) : List Enclosure → Reader Unit
  | [] => pure ()
  | e :: es => enter e >>= fun _ => skipValues fuel (e :: es)

theorem skipValues_succ (fuel : Nat) (es : List Enclosure) : skipValues (fuel + 1) es = skipToken >>= fun
    | none => closeAll true es >>= goOn fuel
    | some e => closeAll false (e :: es) >>= goOn fuel := by
  have same : (fun es => match es with
      | [] => pure ()
      | inner :: _ => enter inner >>= fun _ => skipValues fuel es) = goOn fuel := by
    funext es
    cases es <;> rfl
  rw [skipValues]
  refine congrArg _ (funext fun o => ?_)
  cases o with
  | none => exact congrArg (closeAll true es >>= ·) same
  | some e => exact congrArg (closeAll false (e :: es) >>= ·) same

theorem skipValues_sound {fuel : Nat} {es : List Enclosure} {cs rest : List Char}
    (read : skipValues fuel es cs = .ok ((), rest)) :
    ∃ w v t, Blank w ∧ IsValue v ∧ Closes es t ∧ cs = w ++ v ++ t ++ rest := by
  induction fuel generalizing es cs with
  | zero => exact absurd read unfinished_ne_ok
  | succ fuel ih =>
    have goOn_sound {left : List Enclosure} {mid : List Char} (further : goOn fuel left mid = .ok ((), rest)) :
        ∃ t, Pending left t ∧ mid = t ++ rest := by
      cases left with
      | nil =>
        obtain ⟨-, rfl⟩ := pure_eq_ok_iff.mp further
        exact ⟨[], rfl, rfl⟩
      | cons e es =>
        obtain ⟨⟨⟩, mid, entered, next⟩ := bind_eq_ok_iff.mp further
        obtain ⟨front, rfl, form⟩ := enter_sound entered
        obtain ⟨w, v, t, blank, value, closes, rfl⟩ := ih next
        exact ⟨front ++ (w ++ v) ++ t, ⟨v, _, t, form w v blank, value, closes, rfl⟩, by simp⟩
    rw [skipValues_succ] at read
    obtain ⟨o, mid, token, further⟩ := bind_eq_ok_iff.mp read
    obtain ⟨w, v, blank, form, rfl⟩ := skipToken_sound token
    cases o with
    | none =>
      obtain ⟨left, mid, closed, next⟩ := bind_eq_ok_iff.mp further
      obtain ⟨front, rfl, closes⟩ := closeAll_sound closed
      obtain ⟨t, pending, rfl⟩ := goOn_sound next
      exact ⟨w, v, front ++ t, blank, form, closes t pending, by simp⟩
    | some e =>
      obtain rfl : v = [e.opener] := form
      obtain ⟨left, mid, closed, next⟩ := bind_eq_ok_iff.mp further
      obtain ⟨front, rfl, closes⟩ := closeAll_opened_sound closed
      obtain ⟨t, pending, rfl⟩ := goOn_sound next
      obtain ⟨body, more, value, closes, same⟩ := closes t pending
      refine ⟨w, e.opener :: body, more, blank, value, closes, ?_⟩
      simp only [List.append_assoc, List.cons_append, List.nil_append, ← same]

theorem skipValue_sound {cs rest : List Char} (read : skipValue cs = .ok ((), rest)) :
    ∃ w v, Blank w ∧ IsValue v ∧ cs = w ++ v ++ rest := by
  obtain ⟨w, v, t, blank, value, rfl, rfl⟩ := skipValues_sound read
  exact ⟨w, v, blank, value, by simp⟩

/-- A value that is passed whole wherever it stands: what is left to do is what follows a value there. -/
def Skipped (v : List Char) : Prop :=
  ∀ es {w t fuel}, Blank w → Ends t → (w ++ v ++ t).length < fuel →
    ∃ fuel', t.length < fuel' ∧ skipValues fuel es (w ++ v ++ t) = (closeAll true es >>= goOn fuel') t

theorem skipped_of_token {v : List Char} (nonempty : v ≠ [])
    (token : ∀ {w t}, Blank w → Ends t → skipToken (w ++ v ++ t) = .ok (none, t)) : Skipped v := by
  intro es w t fuel blank ends enough
  obtain ⟨fuel, rfl⟩ := Nat.exists_eq_add_one_of_ne_zero (Nat.ne_zero_of_lt enough)
  have pos := List.length_pos_iff.mpr nonempty
  simp only [List.length_append] at enough
  refine ⟨fuel, by omega, ?_⟩
  rw [skipValues_succ, bind_ok (token blank ends)]

theorem item_skipped {e : Enclosure} (es : List Enclosure) {v item : List Char} (form : e.Item v item)
    (skipped : Skipped v) {t : List Char} (ends : Ends t) {fuel : Nat} (enough : (item ++ t).length < fuel) :
    ∃ fuel', t.length < fuel' ∧ goOn fuel (e :: es) (item ++ t) = (closeAll true (e :: es) >>= goOn fuel') t := by
  obtain ⟨u, w, blank, rfl, entered⟩ := enter_complete form
  have left : (w ++ v ++ t).length < fuel := by
    simp only [List.length_append] at enough ⊢
    omega
  obtain ⟨fuel', more, same⟩ := skipped (e :: es) blank ends left
  exact ⟨fuel', more, (bind_ok (entered t) _).trans same⟩

theorem items_skipped {e : Enclosure} {vs : List (List Char)} {body : List Char} (skipped : ∀ v ∈ vs, Skipped v)
    (items : Items e.closer e.Item false vs body) {es : List Enclosure} {t : List Char} {fuel : Nat}
    (enough : (body ++ t).length < fuel) : ∃ fuel', t.length < fuel' ∧
      (closeAll true (e :: es) >>= goOn fuel) (body ++ t) = (closeAll true es >>= goOn fuel') t := by
  induction vs generalizing body fuel with
  | nil =>
    cases items with
    | done blank =>
      simp only [List.append_assoc, List.length_append] at enough ⊢
      exact ⟨fuel, by omega, bind_congr (closeAll_closer blank t) _⟩
  | cons v vs ih =>
    cases items with
    | @more w item rest _ _ blank form others =>
      rw [List.forall_mem_cons] at skipped
      have left : (item ++ (rest ++ t)).length < fuel := by
        simp only [List.length_append, List.length_cons] at enough ⊢
        omega
      obtain ⟨middle, enough, passed⟩ := item_skipped es form skipped.1 (others.ends e.bracket t) left
      obtain ⟨fuel', more, same⟩ := ih skipped.2 others enough
      refine ⟨fuel', more, ?_⟩
      rw [← same, ← passed]
      simpa using bind_ok (closeAll_comma blank (item ++ (rest ++ t))) (goOn fuel)

theorem enclosed_skipped {e : Enclosure} {vs : List (List Char)} {body : List Char}
    (items : Items e.closer e.Item true vs body) (values : ∀ v ∈ vs, IsValue v) (skipped : ∀ v ∈ vs, Skipped v) :
    Skipped (e.opener :: body) := by
  intro es w t fuel blank ends enough
  obtain ⟨fuel, rfl⟩ := Nat.exists_eq_add_one_of_ne_zero (Nat.ne_zero_of_lt enough)
  have opened : skipValues (fuel + 1) es (w ++ e.opener :: body ++ t) =
      (closeAll false (e :: es) >>= goOn fuel) (body ++ t) := by
    rw [skipValues_succ, List.append_assoc, List.cons_append, bind_ok (skipToken_bracket blank e _)]
  rw [opened]
  cases items with
  | done between =>
    simp only [List.append_assoc, List.length_append, List.length_cons] at enough ⊢
    exact ⟨fuel, by omega, bind_congr (closeAll_closer between t) _⟩
  | @first item rest v vs form others =>
    rw [List.forall_mem_cons] at values skipped
    obtain ⟨u, inner, before, rfl, visible, form⟩ := form.visible values.1
    have left : (inner ++ (rest ++ t)).length < fuel := by
      simp only [List.length_append, List.length_cons] at enough ⊢
      omega
    obtain ⟨middle, enough, passed⟩ := item_skipped es form skipped.1 (others.ends e.bracket t) left
    obtain ⟨fuel', more, same⟩ := items_skipped skipped.2 others enough
    refine ⟨fuel', more, ?_⟩
    rw [← same, ← passed]
    simpa using bind_ok (closeAll_visible before visible (rest ++ t)) (goOn fuel)

theorem skipped_of_isValue {v : List Char} (value : IsValue v) : Skipped v := by
  induction value with
  | null => exact skipped_of_token (by decide) fun blank _ => skipToken_name blank (by decide) _
  | true => exact skipped_of_token (by decide) fun blank _ => skipToken_name blank (by decide) _
  | false => exact skipped_of_token (by decide) fun blank _ => skipToken_name blank (by decide) _
  | number number =>
    obtain ⟨c, cs, rfl, -⟩ := (IsValue.number number).visible
    exact skipped_of_token (List.cons_ne_nil c cs) fun blank ends => skipToken_number blank number ends
  | string string =>
    obtain ⟨pieces, spelled, rfl⟩ := string
    exact skipped_of_token (by simp) fun blank _ => skipToken_string blank ⟨pieces, spelled, rfl⟩ _
  | array array values ih =>
    obtain ⟨body, items, rfl⟩ := array
    exact enclosed_skipped (e := .list) items values ih
  | object object values ih =>
    obtain ⟨body, items, rfl⟩ := object
    exact enclosed_skipped (e := .object) items values ih

theorem skipValue_complete {w v t : List Char} (value : IsValue v) (blank : Blank w) (ends : Ends t) :
    skipValue (w ++ v ++ t) = .ok ((), t) := by
  obtain ⟨fuel, -, same⟩ := skipped_of_isValue value [] blank ends (Nat.lt_succ_self _)
  exact same

end Reader

end ScriptedScene.Json
