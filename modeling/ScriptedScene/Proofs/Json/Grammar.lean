import Mathlib.Data.List.Forall2
import ScriptedScene.Json.Reader

/-! The grammar of JSON text, said of characters and not of readers. Blanks may stand before every token. What stands
between brackets is told by the texts of its items, so that one rule serves for values that nobody looks into and for
records whose items are looked at. -/
namespace ScriptedScene.Json

/-- What may stand between tokens. -/
def Blank (w : List Char) : Prop := ∀ c ∈ w, c ∈ [' ', '\n', '\t', '\r']

/-! ## Strings -/

/-- A digit of base sixteen and its number. -/
def HexDigit (n : Nat) (c : Char) : Prop :=
  "0123456789abcdef".toList[n]? = some c ∨ "0123456789ABCDEF".toList[n]? = some c

/-- Four digits of base sixteen and their number. -/
inductive Hex : Nat → List Char → Prop
  | digits {i j k l : Nat} {a b c d : Char} (first : HexDigit i a) (second : HexDigit j b) (third : HexDigit k c)
    (fourth : HexDigit l d) : Hex (((i * 16 + j) * 16 + k) * 16 + l) [a, b, c, d]

/-- The letters that stand for a character after a backslash, each with the character. -/
def shortEscapes : List (Char × Char) :=
  [('"', '"'), ('\\', '\\'), ('/', '/'), ('b', '\x08'), ('f', '\x0c'), ('n', '\n'), ('r', '\r'), ('t', '\t')]

/-- Characters that stand for themselves. -/
def Plain (c : Char) : Prop := ' ' ≤ c ∧ c ≠ '"' ∧ c ≠ '\\'

/-- How a character may be spelled in a string. One past the first plane takes two escapes; half of such a pair spells
nothing. -/
inductive Spells : Char → List Char → Prop
  | plain {c : Char} (plain : Plain c) : Spells c [c]
  | short {letter c : Char} (listed : (letter, c) ∈ shortEscapes) : Spells c ['\\', letter]
  | unit {n : Nat} {ds : List Char} (hex : Hex n ds) (alone : n < 0xD800 ∨ 0xDFFF < n) :
    Spells (Char.ofNat n) ('\\' :: 'u' :: ds)
  | pair {m n : Nat} {ds es : List Char} (leading : Hex m ds) (trailing : Hex n es) (high : 0xD800 ≤ m ∧ m ≤ 0xDBFF)
    (low : 0xDC00 ≤ n ∧ n ≤ 0xDFFF) :
    Spells (Char.ofNat (0x10000 + (m - 0xD800) * 0x400 + (n - 0xDC00))) ('\\' :: 'u' :: ds ++ '\\' :: 'u' :: es)

/-- A piece of a string of which it does not matter what it spells. -/
inductive Piece : List Char → Prop
  | plain {c : Char} (plain : Plain c) : Piece [c]
  | short {letter c : Char} (listed : (letter, c) ∈ shortEscapes) : Piece ['\\', letter]
  | unit {n : Nat} {ds : List Char} (hex : Hex n ds) : Piece ('\\' :: 'u' :: ds)

/-- A string and its text. -/
def IsText (s : String) (cs : List Char) : Prop :=
  ∃ pieces : List (List Char), List.Forall₂ Spells s.toList pieces ∧ cs = '"' :: pieces.flatten ++ ['"']

/-- A string, whether or not it has a text. -/
def IsString (cs : List Char) : Prop :=
  ∃ pieces : List (List Char), (∀ piece ∈ pieces, Piece piece) ∧ cs = '"' :: pieces.flatten ++ ['"']

/-! ## Numbers -/

def IsDigits (ds : List Char) : Prop := ds ≠ [] ∧ ∀ d ∈ ds, d.isDigit

/-- Digits of which the first is zero only if there is no other. -/
def IsWhole (ds : List Char) : Prop := IsDigits ds ∧ (ds.head? = some '0' → ds = ['0'])

/-- The part of a number after its point, the point with it. -/
def IsFraction (cs : List Char) : Prop := ∃ ds, IsDigits ds ∧ cs = '.' :: ds

/-- The exponent of a number, with the letter before it. -/
def IsExponent (cs : List Char) : Prop :=
  ∃ letter sign ds, letter ∈ ['e', 'E'] ∧ sign ∈ [[], ['+'], ['-']] ∧ IsDigits ds ∧ cs = letter :: sign ++ ds

def IsNumber (cs : List Char) : Prop :=
  ∃ sign whole fraction exponent, sign ∈ [[], ['-']] ∧ IsWhole whole ∧ (fraction = [] ∨ IsFraction fraction) ∧
    (exponent = [] ∨ IsExponent exponent) ∧ cs = sign ++ whole ++ fraction ++ exponent

/-! ## Values -/

section
variable {α : Type}

/-- What stands after an opening bracket, or after an item if it is not the first, up to the closing bracket and with it. -/
inductive Items (closer : Char) (Item : α → List Char → Prop) : (first : Bool) → List α → List Char → Prop
  | done {first : Bool} {w : List Char} (blank : Blank w) : Items closer Item first [] (w ++ [closer])
  | first {cs rest : List Char} {a : α} {items : List α} (item : Item a cs) (others : Items closer Item false items rest) :
    Items closer Item true (a :: items) (cs ++ rest)
  | more {w cs rest : List Char} {a : α} {items : List α} (blank : Blank w) (item : Item a cs)
    (others : Items closer Item false items rest) : Items closer Item false (a :: items) (w ++ ',' :: cs ++ rest)

/-- Items between brackets, with commas between them. -/
def Enclosed (opener closer : Char) (Item : α → List Char → Prop) (items : List α) (cs : List Char) : Prop :=
  ∃ body, Items closer Item true items body ∧ cs = opener :: body

/-- An element of a list, told by its text. -/
def Element (v cs : List Char) : Prop := ∃ w, Blank w ∧ cs = w ++ v

/-- A member of an object, told by the texts of its key and its value. -/
def Member (key v cs : List Char) : Prop :=
  ∃ u w x, Blank u ∧ Blank w ∧ Blank x ∧ cs = u ++ key ++ w ++ ':' :: x ++ v

/-- A member of which only the value matters. -/
def AnyMember (v cs : List Char) : Prop := ∃ key, IsString key ∧ Member key v cs

/-- A member under the given name. -/
def NamedMember (m : String × List Char) (cs : List Char) : Prop := ∃ key, IsText m.1 key ∧ Member key m.2 cs

/-- A list with elements of the given texts. -/
def IsArray : List (List Char) → List Char → Prop := Enclosed '[' ']' Element

/-- An object with the given members. -/
def IsObject : List (String × List Char) → List Char → Prop := Enclosed '\x7b' '\x7d' NamedMember

end

/-- A value of any depth. -/
inductive IsValue : List Char → Prop
  | null : IsValue "null".toList
  | true : IsValue "true".toList
  | false : IsValue "false".toList
  | number {cs : List Char} (number : IsNumber cs) : IsValue cs
  | string {cs : List Char} (string : IsString cs) : IsValue cs
  | array {cs : List Char} {vs : List (List Char)} (array : IsArray vs cs) (values : ∀ v ∈ vs, IsValue v) : IsValue cs
  | object {cs : List Char} {vs : List (List Char)} (object : Enclosed '\x7b' '\x7d' AnyMember vs cs)
    (values : ∀ v ∈ vs, IsValue v) : IsValue cs

/-- A text that is one value of the form, with blanks around it. -/
def Holds (Form : List Char → Prop) (text : String) : Prop :=
  ∃ w v x, Blank w ∧ Form v ∧ Blank x ∧ text.toList = w ++ v ++ x

/-! ## Records -/

/-- The texts that stand under a name. -/
def valuesOf (name : String) (ms : List (String × List Char)) : List (List Char) :=
  (ms.filter (·.1 = name)).map Prod.snd

/-- What stands under a name is told by the members that have one of the listed names. -/
theorem valuesOf_perm {names : List String} {field : String} {ms ns : List (String × List Char)} (listed : field ∈ names)
    (known : (ms.filter (·.1 ∈ names)).Perm ns) : (valuesOf field ms).Perm (valuesOf field ns) := by
  have same : valuesOf field (ms.filter (·.1 ∈ names)) = valuesOf field ms := by
    rw [valuesOf, List.filter_filter, valuesOf]
    congr 2
    funext m
    by_cases field : m.1 = field <;> simp [*]
  rw [← same]
  exact (known.filter _).map _

/-- The text of a record, told by the texts that stand under each of its names. It is an object, in which what has another
name may be any value, or a list of the fields in order, which may end early. -/
inductive IsRecord (names : List String) : (String → List (List Char)) → List Char → Prop
  | object {cs : List Char} {ms : List (String × List Char)} (object : IsObject ms cs)
    (others : ∀ m ∈ ms, m.1 ∉ names → IsValue m.2) : IsRecord names (valuesOf · ms) cs
  | list {cs : List Char} {vs : List (List Char)} (list : IsArray vs cs) (few : vs.length ≤ names.length) :
    IsRecord names (fun name => vs[names.idxOf name]?.toList) cs

/-- What a field is if the given texts stand under its name: what the only one says, or a default if there is none. -/
inductive Given {α : Type} (Form : α → List Char → Prop) (otherwise : α) : List (List Char) → α → Prop
  | absent : Given Form otherwise [] otherwise
  | present {v : List Char} {a : α} (form : Form a v) : Given Form otherwise [v] a

/-- What a field is that may not be left out, if the given texts stand under its name. -/
def Required {α : Type} (Form : α → List Char → Prop) (vs : List (List Char)) (a : α) : Prop := ∃ v, vs = [v] ∧ Form a v

theorem given_nil {α : Type} {Form : α → List Char → Prop} {otherwise a : α} : Given Form otherwise [] a ↔ a = otherwise := by
  constructor
  · rintro ⟨⟩
    rfl
  · rintro rfl
    exact .absent

theorem given_singleton {α : Type} {Form : α → List Char → Prop} {otherwise a : α} {v : List Char} :
    Given Form otherwise [v] a ↔ Form a v := by
  constructor
  · rintro (_ | form)
    exact form
  · exact .present

/-! Fields that are told by their places take the items one after the other. -/

section
variable {α : Type} {Form : α → List Char → Prop} {otherwise a : α} {v : List Char} {vs : List (List Char)} {n : Nat}

theorem given_first : Given Form otherwise (v :: vs)[0]?.toList a ↔ Form a v :=
  given_singleton

theorem given_later : Given Form otherwise (v :: vs)[n + 1]?.toList a ↔ Given Form otherwise vs[n]?.toList a := by
  rw [List.getElem?_cons_succ]

theorem few_later : (v :: vs).length ≤ n + 1 ↔ vs.length ≤ n :=
  Nat.succ_le_succ_iff

end

end ScriptedScene.Json
