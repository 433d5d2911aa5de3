import ScriptedScene.Proofs.Json.Scalars

/-! Lists and objects read into a record. A list is read element by element, and once it has ended every further field is
absent; an object is read member by member into what has been read so far. -/
namespace ScriptedScene.Json.Reader
variable {α β σ ι : Type}

/-- A reader of what stands between brackets takes the texts of items of a form, with their closing bracket. -/
structure ReadsItems (closer : Char) (Item : ι → List Char → Prop) (first : Bool) (reader : Reader β)
    (Form : List ι → β → Prop) : Prop where
  sound : ∀ {cs rest b}, reader cs = .ok (b, rest) →
    ∃ items body, Items closer Item first items body ∧ Form items b ∧ cs = body ++ rest
  complete : ∀ {items body rest b}, Items closer Item first items body → Form items b →
    reader (body ++ rest) = .ok (b, rest)

/-! ## Lists -/

theorem nextElement_sound {first more : Bool} {cs mid : List Char} (read : nextElement first cs = .ok (more, mid)) :
    ∃ w, Blank w ∧ (more = false ∧ cs = w ++ mid ∧ mid.head? = some ']' ∨
      more = true ∧ first = true ∧ cs = w ++ mid ∨
      more = true ∧ first = false ∧ ∃ u, Blank u ∧ cs = w ++ ',' :: u ++ mid) := by
  obtain ⟨next, tail, look, further⟩ := bind_eq_ok_iff.mp read
  obtain ⟨w, blank, rfl, rfl⟩ := peek?_sound look
  refine ⟨w, blank, ?_⟩
  generalize head : tail.head? = next at further
  split at further
  · exact nomatch further
  · obtain ⟨rfl, rfl⟩ := pure_eq_ok_iff.mp further
    exact .inl ⟨rfl, rfl, head⟩
  · split at further
    · next early =>
      obtain ⟨rfl, rfl⟩ := pure_eq_ok_iff.mp further
      exact .inr (.inl ⟨rfl, early, rfl⟩)
    split at further
    · next late comma =>
      obtain ⟨tail, rfl⟩ := List.head?_eq_some_iff.mp head
      rw [bind_ok (advance_cons ..)] at further
      obtain ⟨next, tail, look, last⟩ := bind_eq_ok_iff.mp further
      obtain ⟨u, between, rfl, rfl⟩ := peek?_sound look
      generalize tail.head? = next at last
      split at last
      · exact nomatch last
      · exact nomatch last
      · obtain ⟨rfl, rfl⟩ := pure_eq_ok_iff.mp last
        rw [eq_of_beq comma]
        exact .inr (.inr ⟨rfl, Bool.eq_false_iff.mpr late, u, between, by simp⟩)
    · exact nomatch further

theorem nextElement_closed {first : Bool} {w : List Char} (blank : Blank w) (cs : List Char) :
    nextElement first (w ++ ']' :: cs) = .ok (false, ']' :: cs) := bind_ok (peek?_blank blank rfl cs) _

theorem nextElement_visible {w v : List Char} (blank : Blank w) (visible : Visible v) (cs : List Char) :
    nextElement true (w ++ v ++ cs) = .ok (true, v ++ cs) := by
  obtain ⟨c, v, rfl, seen, inside⟩ := visible
  have other : c ≠ ']' := fun closing => inside (by simp [closing])
  rw [List.append_assoc, List.cons_append, nextElement, bind_ok (peek?_blank blank seen _)]
  generalize head : some c = next
  split
  · exact nomatch head
  · exact absurd (Option.some.inj head) other
  · rfl

theorem nextElement_comma {w u v : List Char} (blank : Blank w) (between : Blank u) (visible : Visible v) (cs : List Char) :
    nextElement false (w ++ ',' :: u ++ v ++ cs) = .ok (true, v ++ cs) := by
  obtain ⟨c, v, rfl, seen, inside⟩ := visible
  have other : c ≠ ']' := fun closing => inside (by simp [closing])
  simp only [List.append_assoc, List.cons_append]
  refine (bind_ok (peek?_blank blank rfl _) _).trans ((bind_ok (advance_cons ..) _).trans ?_)
  refine (bind_ok (peek?_blank between seen _) _).trans ?_
  generalize head : some c = next
  split
  · exact nomatch head
  · exact absurd (Option.some.inj head) other
  · rfl

theorem listEnd_sound {cs rest : List Char} (read : listEnd cs = .ok ((), rest)) :
    ∃ w, Blank w ∧ cs = w ++ ']' :: rest := by
  obtain ⟨next, tail, look, further⟩ := bind_eq_ok_iff.mp read
  obtain ⟨w, blank, rfl, rfl⟩ := peek?_sound look
  generalize head : tail.head? = next at further
  split at further
  · cases further
  · obtain ⟨tail, rfl⟩ := List.head?_eq_some_iff.mp head
    obtain rfl : tail = rest := by simpa [advance] using further
    exact ⟨w, blank, rfl⟩
  · obtain ⟨tail, rfl⟩ := List.head?_eq_some_iff.mp head
    rw [bind_ok (advance_cons ..)] at further
    obtain ⟨next, tail, look, last⟩ := bind_eq_ok_iff.mp further
    split at last <;> cases last
  · cases further

theorem readsItems_listEnd (first : Bool) (b : β) :
    ReadsItems ']' Element first (listEnd >>= fun _ => pure b) fun vs b' => vs = [] ∧ b' = b where
  sound {cs rest b'} read := by
    obtain ⟨⟨⟩, mid, closed, done⟩ := bind_eq_ok_iff.mp read
    obtain ⟨rfl, rfl⟩ := pure_eq_ok_iff.mp done
    obtain ⟨w, blank, rfl⟩ := listEnd_sound closed
    exact ⟨[], w ++ [']'], .done blank, ⟨rfl, rfl⟩, by simp⟩
  complete {vs body rest b'} items form := by
    obtain ⟨rfl, rfl⟩ := form
    cases items with
    | done blank =>
      rw [List.append_assoc]
      have closed : listEnd (_ ++ ']' :: rest) = .ok ((), rest) := bind_ok (peek?_blank blank rfl rest) _
      exact (bind_ok closed _).trans rfl

/-- One more item of a list, or its end, where what comes next decides on its own. -/
theorem ReadsItems.next {value : Reader α} {Form : α → List Char → Prop} (reads : Reads value Form)
    {next : Option α → Reader β} {More : α → List (List Char) → β → Prop}
    (further : ∀ a, ReadsItems ']' Element false (next (some a)) (More a)) (first : Bool)
    {All : List (List Char) → β → Prop}
    (nothing : ∀ {cs rest b}, next none (']' :: cs) = .ok (b, rest) ↔ All [] b ∧ cs = rest)
    (something : ∀ v others b, All (v :: others) b ↔ ∃ a, Form a v ∧ More a others b) :
    ReadsItems ']' Element first (element? first value >>= next) All where
  sound {cs rest b} read := by
    obtain ⟨o, mid, taken, last⟩ := bind_eq_ok_iff.mp read
    obtain ⟨more, tail, started, given⟩ := bind_eq_ok_iff.mp taken
    obtain ⟨w, blank, ⟨rfl, rfl, head⟩ | ⟨rfl, rfl, rfl⟩ | ⟨rfl, rfl, u, between, rfl⟩⟩ := nextElement_sound started
    · obtain ⟨rfl, rfl⟩ := pure_eq_ok_iff.mp given
      obtain ⟨tail, rfl⟩ := List.head?_eq_some_iff.mp head
      obtain ⟨form, rfl⟩ := nothing.mp last
      exact ⟨[], w ++ [']'], .done blank, form, by simp⟩
    · obtain ⟨a, mid, inner, done⟩ := bind_eq_ok_iff.mp given
      obtain ⟨rfl, rfl⟩ := pure_eq_ok_iff.mp done
      obtain ⟨x, v, before, form, rfl⟩ := reads.sound inner
      obtain ⟨others, body, items, more, rfl⟩ := (further a).sound last
      have item : Element v (w ++ x ++ v) := ⟨w ++ x, blank.append before, rfl⟩
      exact ⟨v :: others, _, .first item items, (something ..).mpr ⟨a, form, more⟩, by simp⟩
    · obtain ⟨a, mid, inner, done⟩ := bind_eq_ok_iff.mp given
      obtain ⟨rfl, rfl⟩ := pure_eq_ok_iff.mp done
      obtain ⟨x, v, before, form, rfl⟩ := reads.sound inner
      obtain ⟨others, body, items, more, rfl⟩ := (further a).sound last
      have item : Element v (u ++ x ++ v) := ⟨u ++ x, between.append before, rfl⟩
      exact ⟨v :: others, _, .more blank item items, (something ..).mpr ⟨a, form, more⟩, by simp⟩
  complete {vs body rest b} items form := by
    -- Wherever an element stands, it is read and the rest is left to what follows.
    have taken {v tail : List Char} {others : List (List Char)} {a : α} (form : Form a v) (more : More a others b)
        (items : Items ']' Element false others tail)
        (started : nextElement first (body ++ rest) = .ok (true, v ++ (tail ++ rest))) :
        (element? first value >>= next) (body ++ rest) = .ok (b, rest) := by
      have given : value (v ++ (tail ++ rest)) = .ok (a, tail ++ rest) :=
        reads.complete (w := []) nofun form (items.ends (by decide) rest)
      have read : element? first value (body ++ rest) = .ok (some a, tail ++ rest) :=
        (bind_ok started _).trans ((bind_ok given _).trans rfl)
      exact (bind_ok read next).trans ((further a).complete items more)
    cases items with
    | done blank =>
      have read : element? first value (_ ++ ']' :: rest) = .ok (none, ']' :: rest) :=
        (bind_ok (nextElement_closed blank rest) _).trans rfl
      rw [List.append_assoc]
      exact (bind_ok read next).trans (nothing.mpr ⟨form, rfl⟩)
    | @first _ tail v others item items =>
      obtain ⟨w, blank, rfl⟩ := item
      obtain ⟨a, form, more⟩ := (something v others b).mp form
      have started := nextElement_visible blank (reads.visible form) (tail ++ rest)
      exact taken form more items (by simpa using started)
    | @more w _ tail v others blank item items =>
      obtain ⟨u, between, rfl⟩ := item
      obtain ⟨a, form, more⟩ := (something v others b).mp form
      have started := nextElement_comma blank between (reads.visible form) (tail ++ rest)
      exact taken form more items (by simpa using started)

/-- One more field of a list that may end before it. -/
theorem ReadsItems.element {value : Reader α} {Form : α → List Char → Prop} (reads : Reads value Form)
    {next : Option α → Reader β} {closed : β} (ended : ∀ cs, next none (']' :: cs) = .ok (closed, cs))
    {More : α → List (List Char) → β → Prop} (further : ∀ a, ReadsItems ']' Element false (next (some a)) (More a))
    (first : Bool) {All : List (List Char) → β → Prop} (nothing : ∀ b, All [] b ↔ b = closed)
    (something : ∀ v others b, All (v :: others) b ↔ ∃ a, Form a v ∧ More a others b) :
    ReadsItems ']' Element first (element? first value >>= next) All := by
  refine .next reads further first (fun {cs rest b} => ?_) something
  rw [ended, nothing, eq_comm (a := b)]
  exact pure_eq_ok_iff

/-- One more field of a list that may not end before it. -/
theorem ReadsItems.required {value : Reader α} {Form : α → List Char → Prop} (reads : Reads value Form)
    {there : Option α → Reader α} {m : Mismatch} (given : ∀ a, there (some a) = pure a) (missing : there none = mismatch m)
    {next : α → Reader β} {More : α → List (List Char) → β → Prop}
    (further : ∀ a, ReadsItems ']' Element false (next a) (More a)) (first : Bool) {All : List (List Char) → β → Prop}
    (nothing : ∀ b, ¬ All [] b) (something : ∀ v others b, All (v :: others) b ↔ ∃ a, Form a v ∧ More a others b) :
    ReadsItems ']' Element first ((element? first value >>= there) >>= next) All := by
  rw [bind_assoc]
  refine .next reads (fun a => ?_) first (fun {cs rest b} => ?_) something
  · rw [given, pure_bind]
    exact further a
  · rw [missing]
    exact ⟨nofun, fun form => absurd form.1 (nothing b)⟩

/-! ## Objects -/

theorem colon_sound {cs mid : List Char} (read : colon cs = .ok ((), mid)) : ∃ w, Blank w ∧ cs = w ++ ':' :: mid := by
  obtain ⟨next, tail, look, further⟩ := bind_eq_ok_iff.mp read
  obtain ⟨w, blank, rfl, rfl⟩ := peek?_sound look
  generalize head : tail.head? = next at further
  split at further
  · cases further
  · obtain ⟨tail, rfl⟩ := List.head?_eq_some_iff.mp head
    obtain rfl : tail = mid := by simpa [advance] using further
    exact ⟨w, blank, rfl⟩
  · cases further

theorem colon_complete {w : List Char} (blank : Blank w) (cs : List Char) : colon (w ++ ':' :: cs) = .ok ((), cs) :=
  bind_ok (peek?_blank blank rfl cs) _

/-- A reader of a member, its key taken. -/
structure ReadsMember (reader : Reader β) (Form : List Char → β → Prop) : Prop where
  sound : ∀ {cs rest b}, reader cs = .ok (b, rest) →
    ∃ w x v, Blank w ∧ Blank x ∧ Form v b ∧ cs = w ++ ':' :: x ++ v ++ rest
  complete : ∀ {w x v rest b}, Blank w → Blank x → Form v b → Ends rest →
    reader (w ++ ':' :: x ++ v ++ rest) = .ok (b, rest)

theorem ReadsMember.congr {reader : Reader β} {Form Other : List Char → β → Prop} (reads : ReadsMember reader Form)
    (same : ∀ v b, Form v b ↔ Other v b) : ReadsMember reader Other := by
  obtain rfl : Form = Other := by
    funext v b
    exact propext (same v b)
  exact reads

theorem readsMember_colon {value : Reader α} {Form : α → List Char → Prop} (reads : Reads value Form) (f : α → β) :
    ReadsMember (colon >>= fun _ => value >>= fun a => pure (f a)) fun v b => ∃ a, Form a v ∧ b = f a where
  sound {cs rest b} read := by
    obtain ⟨⟨⟩, mid, mark, further⟩ := bind_eq_ok_iff.mp read
    obtain ⟨a, mid, inner, done⟩ := bind_eq_ok_iff.mp further
    obtain ⟨rfl, rfl⟩ := pure_eq_ok_iff.mp done
    obtain ⟨w, blank, rfl⟩ := colon_sound mark
    obtain ⟨x, v, between, form, rfl⟩ := reads.sound inner
    exact ⟨w, x, v, blank, between, ⟨a, form, rfl⟩, by simp⟩
  complete {w x v rest b} blank between form ends := by
    obtain ⟨a, form, rfl⟩ := form
    have same : w ++ ':' :: x ++ v ++ rest = w ++ ':' :: (x ++ v ++ rest) := by simp
    rw [same, bind_ok (colon_complete blank _), bind_ok (reads.complete between form ends)]
    rfl

/-- A field is read if none of its name was read before. -/
theorem readsMember_fieldValue {value : Reader α} {Form : α → List Char → Prop} (reads : Reads value Form) (name : String)
    (given : Option α) (f : Option α → β) : ReadsMember (fieldValue name given value >>= fun o => pure (f o))
      fun v b => given = none ∧ ∃ a, Form a v ∧ b = f (some a) := by
  have inner := readsMember_colon reads fun a => f (some a)
  cases given with
  | some a =>
    refine ⟨fun {cs rest b} read => ?_, fun _ _ form _ => nomatch form.1⟩
    obtain ⟨o, mid, refused, -⟩ := bind_eq_ok_iff.mp read
    exact nomatch refused
  | none =>
    have same : (fieldValue name none value >>= fun o => (pure (f o) : Reader β)) =
        colon >>= fun _ => value >>= fun a => pure (f (some a)) := by
      simp [fieldValue]
    rw [same]
    exact ⟨fun read => by simpa using inner.sound read, fun blank between form ends =>
      inner.complete blank between form.2 ends⟩

/-- A field nobody asked for may hold any value. -/
theorem readsMember_skipField (b : β) : ReadsMember (skipField >>= fun _ => pure b) fun v b' => IsValue v ∧ b' = b := by
  have inner := readsMember_colon reads_skipValue fun _ => b
  have same : (skipField >>= fun _ => (pure b : Reader β)) = colon >>= fun _ => skipValue >>= fun _ => pure b := by
    simp [skipField]
  rw [same]
  exact ⟨fun read => by simpa using inner.sound read, fun blank between form ends =>
    inner.complete blank between ⟨(), form⟩ ends⟩

theorem key?_sound {first : Bool} {cs mid : List Char} {o : Option String} (read : key? first cs = .ok (o, mid)) :
    ∃ w, Blank w ∧ (o = none ∧ cs = w ++ mid ∧ mid.head? = some '\x7d' ∨ ∃ name key, o = some name ∧ IsText name key ∧
      (first = true ∧ cs = w ++ key ++ mid ∨ first = false ∧ ∃ u, Blank u ∧ cs = w ++ ',' :: u ++ key ++ mid)) := by
  obtain ⟨next, tail, look, further⟩ := bind_eq_ok_iff.mp read
  obtain ⟨w, blank, rfl, rfl⟩ := peek?_sound look
  refine ⟨w, blank, ?_⟩
  have quoted {tail : List Char} (spelled : (advance >>= fun _ => string >>= fun s => (pure (some s) : Reader (Option String)))
      ('"' :: tail) = .ok (o, mid)) : ∃ name key, o = some name ∧ IsText name key ∧ '"' :: tail = key ++ mid := by
    rw [bind_ok (advance_cons ..)] at spelled
    obtain ⟨s, mid, text, done⟩ := bind_eq_ok_iff.mp spelled
    obtain ⟨rfl, rfl⟩ := pure_eq_ok_iff.mp done
    obtain ⟨front, form, rfl⟩ := string_eq_ok_iff.mp text
    exact ⟨s, '"' :: front, rfl, form, rfl⟩
  cases tail with
  | nil => exact nomatch further
  | cons c tail =>
    simp only [List.head?_cons] at further
    split at further
    · next closing =>
      obtain ⟨rfl, rfl⟩ := pure_eq_ok_iff.mp further
      exact .inl ⟨rfl, rfl, congrArg some (eq_of_beq closing)⟩
    right
    split at further
    · next early =>
      split at further
      · next quote =>
        obtain rfl := eq_of_beq quote
        obtain ⟨name, key, rfl, form, same⟩ := quoted further
        exact ⟨name, key, rfl, form, .inl ⟨early, by rw [same, List.append_assoc]⟩⟩
      · exact absurd further malformed_ne_ok
    split at further
    · next late comma =>
      rw [bind_ok (advance_cons ..)] at further
      obtain ⟨next, tail, look, last⟩ := bind_eq_ok_iff.mp further
      obtain ⟨u, between, rfl, rfl⟩ := peek?_sound look
      generalize head : tail.head? = next at last
      split at last
      · exact nomatch last
      · obtain ⟨tail, rfl⟩ := List.head?_eq_some_iff.mp head
        obtain ⟨name, key, rfl, form, same⟩ := quoted last
        rw [eq_of_beq comma]
        exact ⟨name, key, rfl, form, .inr ⟨Bool.eq_false_iff.mpr late, u, between, by simp [same]⟩⟩
      · exact nomatch last
      · exact nomatch last
    · exact absurd further malformed_ne_ok

theorem key?_closed {first : Bool} {w : List Char} (blank : Blank w) (cs : List Char) :
    key? first (w ++ '\x7d' :: cs) = .ok (none, '\x7d' :: cs) := bind_ok (peek?_blank blank rfl cs) _

theorem key?_first {w key : List Char} (blank : Blank w) {name : String} (form : IsText name key) (cs : List Char) :
    key? true (w ++ key ++ cs) = .ok (some name, cs) := by
  obtain ⟨front, rfl, read⟩ := string_complete form cs
  rw [List.append_assoc, List.cons_append]
  exact (bind_ok (peek?_blank blank rfl _) _).trans ((bind_ok (advance_cons ..) _).trans (bind_ok read _))

theorem key?_comma {w u key : List Char} (blank : Blank w) (between : Blank u) {name : String} (form : IsText name key)
    (cs : List Char) : key? false (w ++ ',' :: u ++ key ++ cs) = .ok (some name, cs) := by
  obtain ⟨front, rfl, read⟩ := string_complete form cs
  simp only [List.append_assoc, List.cons_append]
  refine (bind_ok (peek?_blank blank rfl _) _).trans ((bind_ok (advance_cons ..) _).trans ?_)
  exact (bind_ok (peek?_blank between rfl _) _).trans ((bind_ok (advance_cons ..) _).trans (bind_ok read _))

/-- Members taken in turn, each into what has been read so far. -/
inductive Steps (Step : String → σ → List Char → σ → Prop) : List (String × List Char) → σ → σ → Prop
  | nil {s : σ} : Steps Step [] s s
  | cons {name : String} {v : List Char} {ms : List (String × List Char)} {s t u : σ} (first : Step name s v t)
    (others : Steps Step ms t u) : Steps Step ((name, v) :: ms) s u

section
variable {field : String → σ → Reader σ} {Step : String → σ → List Char → σ → Prop}

theorem steps_nil_iff {s t : σ} : Steps Step [] s t ↔ s = t := by
  constructor
  · rintro ⟨⟩
    rfl
  · rintro rfl
    exact .nil

theorem steps_cons_iff {name : String} {v : List Char} {ms : List (String × List Char)} {s u : σ} :
    Steps Step ((name, v) :: ms) s u ↔ ∃ t, Step name s v t ∧ Steps Step ms t u := by
  constructor
  · rintro (_ | ⟨first, others⟩)
    exact ⟨_, first, others⟩
  · rintro ⟨t, first, others⟩
    exact .cons first others

theorem membersFrom_sound (each : ∀ name s, ReadsMember (field name s) (Step name s)) {fuel : Nat} {first : Bool} {s t : σ}
    {cs mid : List Char} (read : membersFrom field fuel first s cs = .ok (t, mid)) :
    ∃ ms body rest, Items '\x7d' NamedMember first ms body ∧ Steps Step ms s t ∧ cs = body ++ rest ∧
      mid = '\x7d' :: rest := by
  induction fuel generalizing first s cs with
  | zero => exact absurd read unfinished_ne_ok
  | succ fuel ih =>
    obtain ⟨o, tail, keyed, further⟩ := bind_eq_ok_iff.mp read
    obtain ⟨w, blank, ⟨rfl, rfl, head⟩ | ⟨name, key, rfl, form, place⟩⟩ := key?_sound keyed
    · obtain ⟨rfl, rfl⟩ := pure_eq_ok_iff.mp further
      obtain ⟨rest, rfl⟩ := List.head?_eq_some_iff.mp head
      exact ⟨[], w ++ ['\x7d'], rest, .done blank, .nil, by simp, rfl⟩
    · obtain ⟨u, tail, member, next⟩ := bind_eq_ok_iff.mp further
      obtain ⟨x, y, v, before, after, step, rfl⟩ := (each name s).sound member
      obtain ⟨ms, body, rest, items, steps, rfl, rfl⟩ := ih next
      have item {u : List Char} (between : Blank u) : NamedMember (name, v) (u ++ key ++ x ++ ':' :: y ++ v) :=
        ⟨key, form, u, x, y, between, before, after, rfl⟩
      rcases place with ⟨rfl, rfl⟩ | ⟨rfl, u, between, rfl⟩
      · exact ⟨(name, v) :: ms, _, rest, .first (item blank) items, .cons step steps, by simp, rfl⟩
      · exact ⟨(name, v) :: ms, _, rest, .more blank (item between) items, .cons step steps, by simp, rfl⟩

theorem membersFrom_complete (each : ∀ name s, ReadsMember (field name s) (Step name s)) {ms : List (String × List Char)}
    {s t : σ} (steps : Steps Step ms s t) {first : Bool} {body : List Char} (items : Items '\x7d' NamedMember first ms body)
    {fuel : Nat} {rest : List Char} (enough : (body ++ rest).length < fuel) :
    membersFrom field fuel first s (body ++ rest) = .ok (t, '\x7d' :: rest) := by
  induction steps generalizing first body fuel with
  | nil =>
    obtain ⟨fuel, rfl⟩ := Nat.exists_eq_add_one_of_ne_zero (Nat.ne_zero_of_lt enough)
    cases items with
    | done blank =>
      rw [List.append_assoc]
      exact (bind_ok (key?_closed blank rest) _).trans rfl
  | @cons name v ms s u t step steps ih =>
    obtain ⟨fuel, rfl⟩ := Nat.exists_eq_add_one_of_ne_zero (Nat.ne_zero_of_lt enough)
    have further {x y tail : List Char} (keyed : key? first (body ++ rest) =
        .ok (some name, x ++ ':' :: y ++ v ++ (tail ++ rest))) (before : Blank x) (after : Blank y)
        (items : Items '\x7d' NamedMember false ms tail) (left : (tail ++ rest).length < fuel) :
        membersFrom field (fuel + 1) first s (body ++ rest) = .ok (t, '\x7d' :: rest) := by
      have member := (each name s).complete before after step (items.ends (by decide) rest)
      exact (bind_ok keyed _).trans ((bind_ok member _).trans (ih items left))
    cases items with
    | @first _ tail _ _ item items =>
      obtain ⟨key, form, w, x, y, blank, before, after, rfl⟩ := item
      have keyed := key?_first blank form (x ++ ':' :: y ++ v ++ (tail ++ rest))
      refine further (by simpa using keyed) before after items ?_
      simp only [List.length_append, List.length_cons] at enough ⊢
      omega
    | @more w _ tail _ _ blank item items =>
      obtain ⟨key, form, u, x, y, between, before, after, rfl⟩ := item
      have keyed := key?_comma blank between form (x ++ ':' :: y ++ v ++ (tail ++ rest))
      refine further (by simpa using keyed) before after items ?_
      simp only [List.length_append, List.length_cons] at enough ⊢
      omega

theorem objectEnd_closed (cs : List Char) : objectEnd ('\x7d' :: cs) = .ok ((), cs) := rfl

/-- What has been read of an object is made into a value by a reader that takes nothing. -/
theorem readsItems_finished (each : ∀ name s, ReadsMember (field name s) (Step name s)) (start : σ) (finish : σ → Reader α)
    (Done : σ → α → Prop) (finished : ∀ {s cs rest a}, finish s cs = .ok (a, rest) ↔ Done s a ∧ cs = rest) :
    ReadsItems '\x7d' NamedMember true ((members field start >>= finish) >>= fun a => objectEnd >>= fun _ => pure a)
      fun ms a => ∃ s, Steps Step ms start s ∧ Done s a where
  sound {cs rest a} read := by
    obtain ⟨b, mid, given, closed⟩ := bind_eq_ok_iff.mp read
    obtain ⟨s, mid, inner, last⟩ := bind_eq_ok_iff.mp given
    obtain ⟨done, rfl⟩ := finished.mp last
    obtain ⟨ms, body, tail, items, steps, rfl, rfl⟩ := membersFrom_sound each inner
    obtain ⟨rfl, rfl⟩ : b = a ∧ tail = rest := by
      rw [bind_ok (objectEnd_closed tail)] at closed
      exact pure_eq_ok_iff.mp closed
    exact ⟨ms, body, items, ⟨s, steps, done⟩, rfl⟩
  complete {ms body rest a} items form := by
    obtain ⟨s, steps, done⟩ := form
    have inner : members field start (body ++ rest) = .ok (s, '\x7d' :: rest) :=
      membersFrom_complete each steps items (Nat.lt_succ_self _)
    have given := (bind_ok inner finish).trans (finished.mpr ⟨done, rfl⟩)
    exact (bind_ok given _).trans (bind_ok (objectEnd_closed rest) _)

theorem readsItems_members (each : ∀ name s, ReadsMember (field name s) (Step name s)) (start : σ) (finish : σ → α) :
    ReadsItems '\x7d' NamedMember true
      ((members field start >>= fun s => pure (finish s)) >>= fun a => objectEnd >>= fun _ => pure a)
      fun ms a => ∃ s, Steps Step ms start s ∧ a = finish s :=
  readsItems_finished each start _ _ fun {s _ _ a} => by rw [pure_eq_ok_iff, eq_comm (a := a)]

end

/-! ## Records -/

/-- A reader of texts that say themselves where they end, so that it does not matter what follows them. -/
structure ReadsDelimited (value : Reader α) (Form : α → List Char → Prop) : Prop where
  sound : ∀ {cs rest a}, value cs = .ok (a, rest) → ∃ w v, Blank w ∧ Form a v ∧ cs = w ++ v ++ rest
  complete : ∀ {w v rest a}, Blank w → Form a v → value (w ++ v ++ rest) = .ok (a, rest)
  visible : ∀ {a v}, Form a v → Visible v
  closed : ∀ {a v}, Form a v → ∃ front c, v = front ++ [c] ∧ isSpace c = false

/-- A record is read from an object or from a list, and ends with its bracket. -/
theorem reads_record {fromMembers fromElements : Reader α} {Members : List (String × List Char) → α → Prop}
    {Elements : List (List Char) → α → Prop}
    (members : ReadsItems '\x7d' NamedMember true (fromMembers >>= fun a => objectEnd >>= fun _ => pure a) Members)
    (elements : ReadsItems ']' Element true (fromElements >>= fun a => listEnd >>= fun _ => pure a) Elements)
    (expected : String) : ReadsDelimited (record expected fromMembers fromElements) fun a cs =>
      (∃ ms, IsObject ms cs ∧ Members ms a) ∨ ∃ vs, IsArray vs cs ∧ Elements vs a where
  sound {cs rest a} read := by
    obtain ⟨next, tail, look, further⟩ := bind_eq_ok_iff.mp read
    obtain ⟨w, blank, rfl, rfl⟩ := peek?_sound look
    generalize head : tail.head? = next at further
    split at further
    · obtain ⟨tail, rfl⟩ := List.head?_eq_some_iff.mp head
      rw [bind_ok (advance_cons ..)] at further
      obtain ⟨ms, body, items, form, rfl⟩ := members.sound further
      exact ⟨w, '\x7b' :: body, blank, .inl ⟨ms, ⟨body, items, rfl⟩, form⟩, by simp⟩
    · obtain ⟨tail, rfl⟩ := List.head?_eq_some_iff.mp head
      rw [bind_ok (advance_cons ..)] at further
      obtain ⟨vs, body, items, form, rfl⟩ := elements.sound further
      exact ⟨w, '[' :: body, blank, .inr ⟨vs, ⟨body, items, rfl⟩, form⟩, by simp⟩
    · exact absurd further unexpected_ne_ok
  complete {w v rest a} blank form := by
    rw [List.append_assoc]
    rcases form with ⟨ms, ⟨body, items, rfl⟩, form⟩ | ⟨vs, ⟨body, items, rfl⟩, form⟩
    · exact (bind_ok (peek?_blank blank rfl _) _).trans ((bind_ok (advance_cons ..) _).trans (members.complete items form))
    · exact (bind_ok (peek?_blank blank rfl _) _).trans ((bind_ok (advance_cons ..) _).trans (elements.complete items form))
  visible form := by
    rcases form with ⟨ms, ⟨body, items, rfl⟩, form⟩ | ⟨vs, ⟨body, items, rfl⟩, form⟩
    · exact ⟨'\x7b', body, rfl, rfl, by decide⟩
    · exact ⟨'[', body, rfl, rfl, by decide⟩
  closed form := by
    rcases form with ⟨ms, ⟨body, items, rfl⟩, form⟩ | ⟨vs, ⟨body, items, rfl⟩, form⟩
    · obtain ⟨front, rfl⟩ := items.closed
      exact ⟨'\x7b' :: front, '\x7d', rfl, rfl⟩
    · obtain ⟨front, rfl⟩ := items.closed
      exact ⟨'[' :: front, ']', rfl, rfl⟩

/-- The whole of a text is one value of the form, with blanks around it. -/
theorem Reads.run_eq_ok_iff {value : Reader α} {Form : α → List Char → Prop} (reads : Reads value Form) {text : String}
    {a : α} : run value text = .ok a ↔ ∃ w v x, Blank w ∧ Form a v ∧ Blank x ∧ text.toList = w ++ v ++ x := by
  unfold run
  constructor
  · intro whole
    split at whole
    · exact nomatch whole
    · next b rest read =>
      split at whole
      · next blank =>
        obtain rfl : b = a := Except.ok.inj whole
        obtain ⟨w, v, before, form, same⟩ := reads.sound read
        exact ⟨w, v, rest, before, form, fun c member => isSpace_iff.mp (List.all_eq_true.mp blank c member), same⟩
      · exact nomatch whole
  · rintro ⟨w, v, x, before, form, after, same⟩
    have ends : Ends x := by simpa using after.ends_append ends_nil
    have blank : x.all isSpace = true := List.all_eq_true.mpr fun c member => isSpace_iff.mpr (after c member)
    rw [same, reads.complete before form ends]
    exact if_pos blank

theorem exists_error_of_unread {value : Reader α} {text : String} (unread : ∀ a, run value text ≠ .ok a) :
    ∃ fault, run value text = .error fault := by
  cases outcome : run value text with
  | error fault => exact ⟨fault, rfl⟩
  | ok a => exact absurd outcome (unread a)

namespace ReadsDelimited
variable {value : Reader α} {Form Other : α → List Char → Prop}

theorem reads (delimited : ReadsDelimited value Form) : Reads value Form :=
  ⟨delimited.sound, fun blank form _ => delimited.complete blank form, delimited.visible⟩

theorem congr (delimited : ReadsDelimited value Form) (same : ∀ a v, Form a v ↔ Other a v) :
    ReadsDelimited value Other := by
  obtain rfl : Form = Other := by
    funext a v
    exact propext (same a v)
  exact delimited

/-- A text that is read in whole stays so while only blanks are cut off, and cannot be read once more than that is. -/
theorem run_kept (delimited : ReadsDelimited value Form) {kept lost : String} {a : α}
    (read : run value (kept ++ lost) = .ok a) :
    (Blank lost.toList → run value kept = .ok a) ∧ (¬ Blank lost.toList → ∀ b, run value kept ≠ .ok b) := by
  -- What is left can only be read up to where the reader of the whole text would have stopped.
  have stops {b : α} (again : run value kept = .ok b) : a = b ∧ Blank lost.toList := by
    obtain ⟨w, v, x, before, form, after, same⟩ := delimited.reads.run_eq_ok_iff.mp again
    have taken : value (kept ++ lost).toList = .ok (b, x ++ lost.toList) := by
      rw [String.toList_append, same, List.append_assoc]
      exact delimited.complete before form
    rw [run, taken] at read
    dsimp only at read
    split at read
    · next blank =>
      refine ⟨(Except.ok.inj read).symm, fun c member => ?_⟩
      exact isSpace_iff.mp (List.all_eq_true.mp blank c (List.mem_append_right x member))
    · cases read
  refine ⟨fun blank => ?_, fun shown b again => shown (stops again).2⟩
  obtain ⟨w, v, x, before, form, after, same⟩ := delimited.reads.run_eq_ok_iff.mp read
  rw [String.toList_append] at same
  apply delimited.reads.run_eq_ok_iff.mpr
  rcases List.append_eq_append_iff.mp same with ⟨more, whole, cut⟩ | ⟨y, left, rfl⟩
  · -- The value is seen to its last character, so what is lost does not reach into it.
    obtain ⟨front, c, rfl, seen⟩ := delimited.closed form
    rcases List.eq_nil_or_concat more with rfl | ⟨inner, d, rfl⟩
    · exact ⟨w, front ++ [c], [], before, form, nofun, by simp [whole]⟩
    · have last : c = d := by
        rw [List.concat_eq_append, ← List.append_assoc, ← List.append_assoc] at whole
        exact (List.append_singleton_inj.mp whole).2
      have space := isSpace_iff.mpr (blank d (by simp [cut]))
      rw [← last, seen] at space
      cases space
  · exact ⟨w, v, y, before, form, fun c member => after c (List.mem_append_left _ member), left⟩

end ReadsDelimited

/-- What a field holds after members are read into it. -/
def Filled (Form : α → List Char → Prop) (name : String) (ms : List (String × List Char)) (start final : Option α) : Prop :=
  ∃ news, final.toList = start.toList ++ news ∧ List.Forall₂ Form news (valuesOf name ms)

section
variable {Form : α → List Char → Prop} {name other : String} {v : List Char} {ms : List (String × List Char)}
  {start final : Option α}

theorem filled_nil : Filled Form name [] start final ↔ final = start := by
  constructor
  · rintro ⟨news, same, none⟩
    obtain rfl : news = [] := List.forall₂_nil_right_iff.mp none
    cases start <;> cases final <;> simp_all
  · rintro rfl
    exact ⟨[], by simp, .nil⟩

theorem filled_cons_self : Filled Form name ((name, v) :: ms) start final ↔
    start = none ∧ ∃ a, Form a v ∧ Filled Form name ms (some a) final := by
  have values : valuesOf name ((name, v) :: ms) = v :: valuesOf name ms := by simp [valuesOf]
  rw [Filled, values]
  constructor
  · rintro ⟨news, same, forms⟩
    obtain ⟨a, news, form, others, rfl⟩ := List.forall₂_cons_right_iff.mp forms
    cases start with
    | none => exact ⟨rfl, a, form, news, same, others⟩
    | some b => cases final <;> simp at same
  · rintro ⟨rfl, a, form, news, same, forms⟩
    exact ⟨a :: news, same, .cons form forms⟩

theorem filled_cons_other (apart : other ≠ name) :
    Filled Form name ((other, v) :: ms) start final ↔ Filled Form name ms start final := by
  have values : valuesOf name ((other, v) :: ms) = valuesOf name ms := by simp [valuesOf, apart]
  rw [Filled, values, Filled]

/-- What a member does to a field that stands under the given name. -/
def FieldStep (field : String) (Form : α → List Char → Prop) (name : String) (v : List Char) (start next : Option α) : Prop :=
  if name = field then start = none ∧ ∃ a, Form a v ∧ next = some a else next = start

@[simp]
theorem fieldStep_self : FieldStep name Form name v start final ↔ start = none ∧ ∃ a, Form a v ∧ final = some a := by
  rw [FieldStep, if_pos rfl]

theorem fieldStep_other (apart : other ≠ name) : FieldStep name Form other v start final ↔ final = start := by
  rw [FieldStep, if_neg apart]

theorem filled_cons : Filled Form name ((other, v) :: ms) start final ↔
    ∃ mid, FieldStep name Form other v start mid ∧ Filled Form name ms mid final := by
  by_cases same : other = name
  · subst same
    simp only [filled_cons_self, fieldStep_self]
    constructor
    · rintro ⟨rfl, a, form, filled⟩
      exact ⟨some a, ⟨rfl, a, form, rfl⟩, filled⟩
    · rintro ⟨_, ⟨rfl, a, form, rfl⟩, filled⟩
      exact ⟨rfl, a, form, filled⟩
  · simp only [filled_cons_other same, fieldStep_other same, exists_eq_left]

/-- What a field holds in the end, if it held nothing at first. -/
theorem filled_given {otherwise a : α} :
    (∃ final, Filled Form name ms none final ∧ a = final.getD otherwise) ↔ Given Form otherwise (valuesOf name ms) a := by
  constructor
  · rintro ⟨final, ⟨news, same, forms⟩, rfl⟩
    obtain rfl : final.toList = news := same
    cases final with
    | none =>
      rw [List.forall₂_nil_left_iff.mp forms]
      exact .absent
    | some a =>
      obtain ⟨v, others, form, none, values⟩ := List.forall₂_cons_left_iff.mp forms
      rw [values, List.forall₂_nil_left_iff.mp none]
      exact .present form
  · intro given
    generalize values : valuesOf name ms = vs at given
    cases given with
    | absent => exact ⟨none, ⟨[], rfl, values ▸ .nil⟩, rfl⟩
    | @present v a form => exact ⟨some a, ⟨[a], rfl, values ▸ .cons form .nil⟩, rfl⟩

theorem filled_required {a : α} : Filled Form name ms none (some a) ↔ Required Form (valuesOf name ms) a := by
  constructor
  · rintro ⟨news, same, forms⟩
    obtain rfl : [a] = news := same
    obtain ⟨v, others, form, none, values⟩ := List.forall₂_cons_left_iff.mp forms
    exact ⟨v, by rw [values, List.forall₂_nil_left_iff.mp none], form⟩
  · rintro ⟨v, values, form⟩
    exact ⟨[a], rfl, values ▸ .cons form .nil⟩

end

end ScriptedScene.Json.Reader
