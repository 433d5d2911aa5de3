import Mathlib.Data.List.TakeWhile
import ScriptedScene.Files

/-! Text as bytes. Every character has one spelling in UTF-8, the shortest; bytes that are not a row of such spellings
hold no text. Only NUL is spelled with a byte that is zero, so a text up to its first NUL is its bytes up to the first
that is zero. -/
namespace ScriptedScene.Text

/-- The bytes of a text. -/
def utf8 (s : String) : List UInt8 := s.toList.flatMap String.utf8EncodeChar

/-- Bytes that hold a text. -/
def WellFormed (bytes : List UInt8) : Prop := ∃ s, utf8 s = bytes

/-- A text up to its first NUL. -/
def beforeNul (s : String) : String := String.ofList (s.toList.takeWhile (· != '\x00'))

theorem utf8_eq_toList (s : String) : utf8 s = s.toByteArray.data.toList := by
  rw [utf8, ← String.utf8Encode_toList, List.utf8Encode, List.toList_data_toByteArray]

theorem decodeUtf8_eq_some_iff {bytes : List UInt8} {s : String} : decodeUtf8 bytes = some s ↔ utf8 s = bytes := by
  unfold decodeUtf8 String.fromUTF8?
  rw [utf8_eq_toList]
  split
  · constructor
    · rintro ⟨⟩
      rfl
    · rintro rfl
      rfl
  · next invalid =>
    constructor
    · nofun
    · rintro rfl
      exact absurd s.isValidUTF8 invalid

theorem decodeUtf8_utf8 (s : String) : decodeUtf8 (utf8 s) = some s := decodeUtf8_eq_some_iff.mpr rfl

theorem decodeUtf8_eq_none {bytes : List UInt8} (broken : ¬ WellFormed bytes) : decodeUtf8 bytes = none := by
  cases decoded : decodeUtf8 bytes with
  | none => rfl
  | some s => exact absurd ⟨s, decodeUtf8_eq_some_iff.mp decoded⟩ broken

/-- Only NUL is spelled with a byte that is zero. -/
theorem ne_zero_of_mem_utf8EncodeChar {c : Char} (other : c ≠ '\x00') {b : UInt8} (member : b ∈ String.utf8EncodeChar c) :
    b ≠ 0 := by
  have positive : c.val.toNat ≠ 0 := fun zero => other (Char.ext (UInt32.toNat_inj.mp zero))
  rintro rfl
  have byte (n : Nat) (same : 0 = UInt8.ofNat n) : n % 256 = 0 := by
    simpa using congrArg UInt8.toNat same.symm
  -- One byte is the character's number, and every byte of a longer spelling has its highest bit set.
  unfold String.utf8EncodeChar at member
  dsimp only at member
  split at member
  · have same := byte _ (List.mem_singleton.mp member)
    omega
  · split at member
    · simp only [List.mem_cons, List.not_mem_nil, or_false] at member
      rcases member with same | same <;> have same := byte _ same <;> omega
    · split at member <;> simp only [List.mem_cons, List.not_mem_nil, or_false] at member
      · rcases member with same | same | same <;> have same := byte _ same <;> omega
      · rcases member with same | same | same | same <;> have same := byte _ same <;> omega

theorem takeWhile_utf8 (cs : List Char) (rest : List UInt8) :
    (cs.flatMap String.utf8EncodeChar ++ 0 :: rest).takeWhile (· != 0) =
      (cs.takeWhile (· != '\x00')).flatMap String.utf8EncodeChar := by
  induction cs with
  | nil => rfl
  | cons c cs ih =>
    by_cases nul : c = '\x00'
    · subst nul
      rfl
    · have spelled : ∀ b ∈ String.utf8EncodeChar c, (b != 0) = true := fun b member => by
        simpa using ne_zero_of_mem_utf8EncodeChar nul member
      have kept : (c :: cs).takeWhile (· != '\x00') = c :: cs.takeWhile (· != '\x00') :=
        List.takeWhile_cons_of_pos (by simpa using nul)
      rw [List.flatMap_cons, List.append_assoc, List.takeWhile_append_of_pos spelled, ih, kept, List.flatMap_cons]

/-- What stands before the first byte that is zero is the text before its first NUL. -/
theorem takeWhile_terminated (s : String) (rest : List UInt8) :
    (utf8 s ++ 0 :: rest).takeWhile (· != 0) = utf8 (beforeNul s) := by
  simp only [utf8, beforeNul, takeWhile_utf8, String.toList_ofList]

theorem beforeNul_eq {s : String} (clean : '\x00' ∉ s.toList) : beforeNul s = s := by
  have kept : s.toList.takeWhile (· != '\x00') = s.toList :=
    List.takeWhile_eq_self_iff.mpr fun c member => by simpa using fun nul : c = '\x00' => clean (nul ▸ member)
  rw [beforeNul, kept, String.ofList_toList]

theorem length_utf8 (cs : List Char) (n : Nat) :
    cs.foldl (fun n c => n + c.utf8Size) n = n + (cs.flatMap String.utf8EncodeChar).length := by
  induction cs generalizing n with
  | nil => rfl
  | cons c cs ih =>
    rw [List.foldl_cons, ih, List.flatMap_cons, List.length_append, String.length_utf8EncodeChar, Nat.add_assoc]

end ScriptedScene.Text
