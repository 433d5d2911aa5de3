import ScriptedScene.Guest.Convert
import ScriptedScene.Proofs.Binary.Exact

/-! Numbers that cross between the host and its guests. A guest may keep a number in either form; what it stands for is
the same. A handle that a guest was given is the handle that the host gets back, as long as the guest sees it without a
sign. -/
namespace ScriptedScene.Guest
open Binary

namespace Value

theorem number?_ofInt (i : ℤ) : (Value.ofInt i).number? = some (.ofInt i) := by
  unfold Value.ofInt
  split
  · have range : -2147483648 ≤ i ∧ i < 2147483648 := by simpa [fits] using ‹fits i = true›
    simp only [number?, Int32.toInt_ofInt_of_le range.1 range.2]
  · rfl

/-- The form in which a number is kept does not change the number. -/
theorem number?_ofBinary (x : Binary64) : (Value.ofBinary x).number? = some x := by
  unfold Value.ofBinary
  split
  · have whole := ofInt_toInt? ‹_›
    split
    · have kept := number?_ofInt ‹ℤ›
      simpa only [Value.ofInt, ‹fits _ = true›, if_true, whole] using kept
    · rfl
  · rfl

end Value

namespace Convert

/-- A whole number of 32 bits without a sign is taken for what it is. -/
theorem wholeOf_ofInt {n : Nat} (room : n ≤ largest) : wholeOf (.ofInt n) = .ok (UInt32.ofNat n) := by
  have bits : n < 4294967296 := Nat.lt_succ_of_le room
  obtain ⟨code, finite, size, rounded⟩ := ofRatio_natCast bits false
  obtain ⟨last, lastFinite, lastSize, lastRounded⟩ := ofRatio_natCast (n := largest) (by decide) false
  have below : (ofInt n : Binary64).lt (.zero false) = false := by
    rw [Bool.eq_false_iff, ne_eq, lt_zero_iff, orderKey_neg_iff, ofInt_natCast, rounded,
      negative_ofMagnitude (finite.trans (infinityCode_lt_signUnit _))]
    simp
  have above : Binary.lt (.ofNat largest) (ofInt n : Binary64) = false := by
    have order : code ≤ last := by
      rw [← (size_strictMono .double).le_iff_le, size, lastSize]
      exact_mod_cast room
    rw [Bool.eq_false_iff, ne_eq, ofInt_natCast, rounded, ofNat, lastRounded, lt_ofMagnitude lastFinite finite]
    exact order.not_gt
  simp only [wholeOf, below, above, truncate?_ofInt bits]
  rfl

/-- A number below zero is no handle. -/
theorem wholeOf_neg {n : Nat} (positive : 0 < n) (room : n ≤ largest) : wholeOf (.ofInt (-n)) = .error .underflow := by
  have bits : n < 4294967296 := Nat.lt_succ_of_le room
  obtain ⟨code, finite, size, rounded⟩ := ofRatio_natCast bits true
  have sign := infinityCode_lt_signUnit Format.double
  have negative : (ofInt (-n) : Binary64) = ofMagnitude true code := by
    have below : decide (-(n : ℤ) < 0) = true := decide_eq_true (by omega)
    rw [ofInt, below, Int.natAbs_neg, Int.natAbs_natCast, rounded]
  have some : code ≠ 0 := by
    rintro rfl
    rw [Binary.size, units_of_lt (exponentUnit_pos _), Nat.cast_zero, zero_mul] at size
    have : n = 0 := by exact_mod_cast size.symm
    omega
  have below : (ofInt (-n) : Binary64).lt (.zero false) = true := by
    rw [lt_zero_iff, orderKey_neg_iff, negative, negative_ofMagnitude (finite.trans sign),
      magnitude_ofMagnitude (finite.trans sign)]
    refine ⟨?_, rfl, some⟩
    simp [isNaN, magnitude_ofMagnitude (finite.trans sign), finite.le]
  simp only [wholeOf, below, if_true]

end Convert

end ScriptedScene.Guest
