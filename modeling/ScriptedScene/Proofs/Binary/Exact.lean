import Mathlib.Data.Int.Log
import Mathlib.Tactic.FieldSimp
import Mathlib.Tactic.Positivity
import Mathlib.Tactic.Ring
import ScriptedScene.Proofs.Scene.Values

/-! Rounding that loses nothing. The finite magnitudes of a format are numbered by their codes in order, in blocks of
one exponent each. A ratio that is one of them is rounded to its own code, and so are all whole numbers that a
significand has room for. -/
namespace ScriptedScene

theorem zpow_eq_div (e : ℤ) : (2 : ℚ) ^ e = twoTo e.toNat / twoTo (-e).toNat := by
  obtain ⟨n, rfl | rfl⟩ := Int.eq_nat_or_neg e
  · simp [twoTo]
  · simp [twoTo]

theorem twoTo_pos (n : Nat) : (0 : ℚ) < twoTo n := Nat.cast_pos.mpr (Nat.two_pow_pos n)

/-- A ratio is compared with a power of two by scaling one side or the other. -/
theorem ratio_lt_iff {num den : Nat} (positive : 0 < den) (e : ℤ) :
    num * twoTo (-e).toNat < den * twoTo e.toNat ↔ (num / den : ℚ) < 2 ^ e := by
  have below : (0 : ℚ) < den := Nat.cast_pos.mpr positive
  rw [zpow_eq_div, div_lt_div_iff₀ below (twoTo_pos _), mul_comm (twoTo e.toNat : ℚ)]
  exact_mod_cast Iff.rfl

/-- A ratio lies between two neighbouring powers of two. -/
theorem floorLog2_spec {num den : Nat} (above : 0 < num) (positive : 0 < den) :
    (2 : ℚ) ^ floorLog2 num den ≤ num / den ∧ (num / den : ℚ) < 2 ^ (floorLog2 num den + 1) := by
  have two : (2 : ℚ) ≠ 0 := two_ne_zero
  have below : (0 : ℚ) < den := Nat.cast_pos.mpr positive
  have low : ((2 ^ num.log2 : Nat) : ℚ) ≤ num := Nat.cast_le.mpr (Nat.log2_self_le above.ne')
  have high : (num : ℚ) < ((2 ^ (num.log2 + 1) : Nat) : ℚ) := Nat.cast_lt.mpr Nat.lt_log2_self
  have denLow : ((2 ^ den.log2 : Nat) : ℚ) ≤ den := Nat.cast_le.mpr (Nat.log2_self_le positive.ne')
  have denHigh : (den : ℚ) < ((2 ^ (den.log2 + 1) : Nat) : ℚ) := Nat.cast_lt.mpr Nat.lt_log2_self
  push_cast [pow_succ] at low high denLow denHigh
  -- The logarithms of both parts leave two candidates, and one comparison tells them apart.
  have upper : (num / den : ℚ) < 2 ^ ((num.log2 : ℤ) - den.log2 + 1) := by
    rw [div_lt_iff₀ below, zpow_add₀ two, zpow_sub₀ two]
    simp only [zpow_natCast, zpow_one]
    calc (num : ℚ) < 2 ^ num.log2 * 2 := high
      _ = 2 ^ num.log2 / 2 ^ den.log2 * 2 * 2 ^ den.log2 := by field_simp
      _ ≤ _ := by gcongr
  have lower : (2 : ℚ) ^ ((num.log2 : ℤ) - den.log2 - 1) ≤ num / den := by
    rw [le_div_iff₀ below, zpow_sub₀ two, zpow_sub₀ two]
    simp only [zpow_natCast, zpow_one]
    calc (2 : ℚ) ^ num.log2 / 2 ^ den.log2 / 2 * den
        ≤ 2 ^ num.log2 / 2 ^ den.log2 / 2 * (2 ^ den.log2 * 2) := by gcongr
      _ = 2 ^ num.log2 := by field_simp
      _ ≤ num := low
  simp only [floorLog2, ratio_lt_iff positive]
  split
  · exact ⟨lower, by simpa using ‹_›⟩
  · exact ⟨not_lt.mp ‹_›, upper⟩

theorem floorLog2_lt {num den : Nat} {e : ℤ} (above : 0 < num) (positive : 0 < den)
    (high : (num / den : ℚ) < 2 ^ e) : floorLog2 num den < e :=
  (zpow_lt_zpow_iff_right₀ one_lt_two).mp ((floorLog2_spec above positive).1.trans_lt high)

theorem le_floorLog2 {num den : Nat} {e : ℤ} (above : 0 < num) (positive : 0 < den)
    (low : (2 : ℚ) ^ e ≤ num / den) : e ≤ floorLog2 num den :=
  Int.lt_add_one_iff.mp
    ((zpow_lt_zpow_iff_right₀ one_lt_two).mp (low.trans_lt (floorLog2_spec above positive).2))

theorem roundHalfEven_exact {n den : Nat} (positive : 0 < den) : roundHalfEven (n * den) den = n := by
  simp [roundHalfEven, positive]

namespace Binary
variable {f g : Format} {x : Binary f}

/-- The magnitude with a code, in units of the smallest positive value. -/
def units (f : Format) (code : Nat) : Nat :=
  if code < f.exponentUnit then code
  else (code % f.exponentUnit + f.exponentUnit) * twoTo (code / f.exponentUnit - 1)

/-- The magnitude with a code. -/
def size (f : Format) (code : Nat) : ℚ := units f code * 2 ^ f.leastExponent

theorem units_of_lt {code : Nat} (small : code < f.exponentUnit) : units f code = code := if_pos small

/-- The first block of codes is twice as long as the others, which have one exponent each. -/
theorem units_block {place rest : Nat} (inside : rest < f.exponentUnit) :
    units f ((place + 1) * f.exponentUnit + rest) = (f.exponentUnit + rest) * twoTo place := by
  have large : ¬ (place + 1) * f.exponentUnit + rest < f.exponentUnit := by
    rw [Nat.succ_mul]
    omega
  have quotient : ((place + 1) * f.exponentUnit + rest) / f.exponentUnit = place + 1 := by
    rw [Nat.mul_comm, Nat.mul_add_div (exponentUnit_pos f), Nat.div_eq_of_lt inside, Nat.add_zero]
  have remainder : ((place + 1) * f.exponentUnit + rest) % f.exponentUnit = rest := by
    rw [Nat.mul_comm, Nat.mul_add_mod, Nat.mod_eq_of_lt inside]
  rw [units, if_neg large, quotient, remainder, Nat.add_comm rest, Nat.add_sub_cancel]

theorem eq_block {code : Nat} (large : f.exponentUnit ≤ code) :
    ∃ place rest, rest < f.exponentUnit ∧ code = (place + 1) * f.exponentUnit + rest := by
  have unit := exponentUnit_pos f
  have first : 1 ≤ code / f.exponentUnit := (Nat.one_le_div_iff unit).mpr large
  refine ⟨code / f.exponentUnit - 1, code % f.exponentUnit, Nat.mod_lt _ unit, ?_⟩
  rw [Nat.sub_add_cancel first, Nat.mul_comm]
  exact (Nat.div_add_mod code f.exponentUnit).symm

/-- Larger codes stand for larger magnitudes, from one block to the next as well. -/
theorem units_strictMono (f : Format) : StrictMono (units f) := by
  have unit := exponentUnit_pos f
  refine strictMono_nat_of_lt_succ fun code => ?_
  rcases Nat.lt_or_ge code f.exponentUnit with small | large
  · rw [units_of_lt small]
    rcases Nat.lt_or_eq_of_le (Nat.succ_le_of_lt small) with next | first
    · rw [units_of_lt next]
      exact Nat.lt_succ_self code
    · have block : units f ((0 + 1) * f.exponentUnit + 0) = _ := units_block unit
      rw [Nat.zero_add, Nat.one_mul, Nat.add_zero, show twoTo 0 = 1 from rfl, Nat.mul_one] at block
      rw [← Nat.succ_eq_add_one, first, block]
      exact small
  · obtain ⟨place, rest, inside, rfl⟩ := eq_block large
    rw [units_block inside]
    rcases Nat.lt_or_eq_of_le (Nat.succ_le_of_lt inside) with next | last
    · rw [show (place + 1) * f.exponentUnit + rest + 1 = (place + 1) * f.exponentUnit + (rest + 1) from rfl,
        units_block next]
      exact Nat.mul_lt_mul_of_pos_right (Nat.lt_succ_self _) (Nat.two_pow_pos place)
    · have block : units f ((place + 1 + 1) * f.exponentUnit + 0) = _ := units_block unit
      have carry : (place + 1) * f.exponentUnit + rest + 1 = (place + 1 + 1) * f.exponentUnit + 0 := by
        rw [Nat.succ_mul (place + 1)]
        omega
      have double : twoTo (place + 1) = 2 * twoTo place := Nat.pow_succ'
      rw [carry, block, double, Nat.add_zero, ← Nat.mul_assoc]
      exact Nat.mul_lt_mul_of_pos_right (by omega) (Nat.two_pow_pos place)

theorem size_strictMono (f : Format) : StrictMono (size f) := fun _ _ less =>
  mul_lt_mul_of_pos_right (Nat.cast_lt.mpr (units_strictMono f less)) (zpow_pos two_pos _)

/-- Where a ratio is a whole number of last places, that number is the significand. -/
theorem roundedCode_of_place {num den n : Nat} {place : ℤ} (positive : 0 < den) (above : 0 < n)
    (exact : (num / den : ℚ) = n * 2 ^ place) (short : n < 2 * f.exponentUnit) (least : f.leastExponent ≤ place)
    (normal : f.exponentUnit ≤ n ∨ place = f.leastExponent) :
    roundedCode f num den = min f.infinityCode ((place - f.leastExponent).toNat * f.exponentUnit + n) := by
  have below : (0 : ℚ) < den := Nat.cast_pos.mpr positive
  have some : (0 : ℚ) < n := Nat.cast_pos.mpr above
  have number : num ≠ 0 := by
    rintro rfl
    rw [Nat.cast_zero, zero_div] at exact
    exact (mul_pos some (zpow_pos two_pos place)).ne exact
  have unit : (f.exponentUnit : ℚ) = 2 ^ (f.fractionBits : ℤ) := by simp [Format.exponentUnit, twoTo]
  have high : floorLog2 num den < f.fractionBits + 1 + place := by
    refine floorLog2_lt (Nat.pos_of_ne_zero number) positive ?_
    have bound : (n : ℚ) < 2 * f.exponentUnit := by exact_mod_cast short
    rw [exact, zpow_add₀ two_ne_zero, zpow_add₀ two_ne_zero, ← unit, zpow_one, mul_comm (f.exponentUnit : ℚ)]
    exact mul_lt_mul_of_pos_right bound (zpow_pos two_pos place)
  have here : max (floorLog2 num den - f.fractionBits) f.leastExponent = place := by
    rcases normal with large | rfl
    · have low : f.fractionBits + place ≤ floorLog2 num den := by
        refine le_floorLog2 (Nat.pos_of_ne_zero number) positive ?_
        have bound : (f.exponentUnit : ℚ) ≤ n := by exact_mod_cast large
        rw [exact, zpow_add₀ two_ne_zero, ← unit]
        exact mul_le_mul_of_nonneg_right bound (zpow_pos two_pos place).le
      omega
    · omega
  -- In whole numbers, as the algorithm has them: the division by the last place leaves no remainder.
  have count : num * twoTo (-place).toNat = n * (den * twoTo place.toNat) := by
    have scaled := exact
    rw [zpow_eq_div, div_eq_iff below.ne', mul_div_assoc', div_mul_eq_mul_div, eq_div_iff (twoTo_pos _).ne'] at scaled
    rw [mul_comm den, ← mul_assoc]
    exact_mod_cast scaled
  have whole : 0 < den * twoTo place.toNat := Nat.mul_pos positive (Nat.two_pow_pos _)
  simp only [roundedCode, if_neg number, here, count, roundHalfEven_exact whole]

/-- A ratio that is the magnitude with a code is rounded to that code. -/
theorem roundedCode_eq {num den code : Nat} (positive : 0 < den) (exact : (num / den : ℚ) = size f code) :
    roundedCode f num den = min f.infinityCode code := by
  have unit := exponentUnit_pos f
  rcases Nat.eq_zero_or_pos code with rfl | above
  · have below : (0 : ℚ) < den := Nat.cast_pos.mpr positive
    rw [size, units_of_lt unit, Nat.cast_zero, zero_mul, div_eq_zero_iff] at exact
    have number : num = 0 := by
      rcases exact with zero | zero
      · exact_mod_cast zero
      · exact absurd zero below.ne'
    simp [roundedCode, number]
  · rcases Nat.lt_or_ge code f.exponentUnit with small | large
    · rw [size, units_of_lt small] at exact
      have rounded := roundedCode_of_place positive above exact (by omega) le_rfl (.inr rfl)
      simpa using rounded
    · obtain ⟨place, rest, inside, rfl⟩ := eq_block large
      have scaled : (num / den : ℚ) = (f.exponentUnit + rest : Nat) * 2 ^ (f.leastExponent + place) := by
        rw [exact, size, units_block inside, zpow_add₀ two_ne_zero, zpow_natCast]
        push_cast [twoTo, Nat.pow_eq]
        ring
      rw [roundedCode_of_place positive (by omega) scaled (by omega) (by omega) (.inl (by omega))]
      have blocks : (f.leastExponent + (place : ℤ) - f.leastExponent).toNat = place := by omega
      rw [blocks, Nat.succ_mul, Nat.add_assoc]

/-- A whole number of units is a magnitude if it has no more significant bits than there is room for. -/
theorem exists_units_eq {n : Nat} (short : 2 ^ (n.log2 - f.fractionBits) ∣ n) : ∃ code, units f code = n := by
  have unit : f.exponentUnit = 2 ^ f.fractionBits := rfl
  rcases Nat.lt_or_ge n f.exponentUnit with small | large
  · exact ⟨n, units_of_lt small⟩
  · have some : n ≠ 0 := ((exponentUnit_pos f).trans_le large).ne'
    have long : f.fractionBits ≤ n.log2 := (Nat.le_log2 some).mpr (unit ▸ large)
    obtain ⟨shift, bits⟩ := Nat.exists_eq_add_of_le' long
    rw [bits, Nat.add_sub_cancel] at short
    obtain ⟨significand, rfl⟩ := short
    have low := Nat.log2_self_le some
    have high := Nat.lt_log2_self (n := 2 ^ shift * significand)
    rw [bits, Nat.pow_add] at low
    rw [bits, Nat.add_assoc, Nat.pow_add] at high
    have least : f.exponentUnit ≤ significand := Nat.le_of_mul_le_mul_left low (Nat.two_pow_pos shift)
    have most : significand < f.exponentUnit * 2 := Nat.lt_of_mul_lt_mul_left high
    refine ⟨(shift + 1) * f.exponentUnit + (significand - f.exponentUnit), ?_⟩
    rw [units_block (by omega), Nat.add_sub_cancel' least, Nat.mul_comm]
    rfl

/-- The magnitude with a code has no more significant bits than there is room for. -/
theorem units_short (f : Format) (code : Nat) : 2 ^ ((units f code).log2 - f.fractionBits) ∣ units f code := by
  have unit : f.exponentUnit = 2 ^ f.fractionBits := rfl
  rcases Nat.lt_or_ge code f.exponentUnit with small | large
  · rw [units_of_lt small]
    have short : code.log2 ≤ f.fractionBits := by
      rcases Nat.eq_zero_or_pos code with rfl | above
      · exact Nat.zero_le _
      · exact ((Nat.log2_lt above.ne').mpr (unit ▸ small)).le
    rw [Nat.sub_eq_zero_of_le short]
    exact one_dvd code
  · obtain ⟨place, rest, inside, rfl⟩ := eq_block large
    rw [units_block inside]
    have above : (f.exponentUnit + rest) * twoTo place ≠ 0 :=
      Nat.mul_ne_zero (by have := exponentUnit_pos f; omega) (Nat.two_pow_pos place).ne'
    have bound : (f.exponentUnit + rest) * twoTo place < 2 ^ (f.fractionBits + place + 1) := by
      have : (f.exponentUnit + rest) * twoTo place < f.exponentUnit * 2 * twoTo place :=
        Nat.mul_lt_mul_of_pos_right (by omega) (Nat.two_pow_pos place)
      rw [Nat.pow_succ, Nat.pow_add, ← unit, Nat.mul_right_comm]
      exact this
    have short := (Nat.log2_lt above).mpr bound
    exact (Nat.pow_dvd_pow 2 (by omega)).trans (Dvd.intro_left _ rfl)

/-- Scaling by a power of two adds no significant bits. -/
theorem short_scaled {n bits : Nat} (short : 2 ^ (n.log2 - bits) ∣ n) (shift : Nat) :
    2 ^ ((n * twoTo shift).log2 - bits) ∣ n * twoTo shift := by
  rcases Nat.eq_zero_or_pos n with rfl | above
  · exact ⟨0, by rw [Nat.zero_mul, Nat.mul_zero]⟩
  · have bound : n * twoTo shift < 2 ^ (n.log2 + shift + 1) := by
      rw [Nat.add_right_comm, Nat.pow_add]
      exact Nat.mul_lt_mul_of_pos_right Nat.lt_log2_self (Nat.two_pow_pos shift)
    have length : (n * twoTo shift).log2 < n.log2 + shift + 1 :=
      (Nat.log2_lt (Nat.mul_pos above (Nat.two_pow_pos shift)).ne').mpr bound
    calc 2 ^ ((n * twoTo shift).log2 - bits) ∣ 2 ^ (n.log2 - bits + shift) := Nat.pow_dvd_pow 2 (by omega)
      _ = 2 ^ (n.log2 - bits) * twoTo shift := Nat.pow_add ..
      _ ∣ n * twoTo shift := Nat.mul_dvd_mul_right short _

/-- Above the finite codes there is one block more, for infinity and what is not a number. -/
theorem signUnit_eq (f : Format) : f.signUnit = f.infinityCode + f.exponentUnit := by
  have split : f.signUnit = twoTo f.exponentBits * f.exponentUnit := Nat.pow_add ..
  have first : 1 ≤ twoTo f.exponentBits := Nat.one_le_two_pow
  rw [split, Format.infinityCode, ← Nat.succ_mul, Nat.succ_eq_add_one, Nat.sub_add_cancel first]

theorem infinityCode_lt_signUnit (f : Format) : f.infinityCode < f.signUnit := by
  rw [signUnit_eq]
  exact Nat.lt_add_of_pos_right (exponentUnit_pos f)

section
variable {negative : Bool} {code : Nat}

theorem width_eq (f : Format) : 2 ^ f.width = 2 * f.signUnit := by
  rw [Format.width, Nat.add_assoc, Nat.pow_add]
  rfl

theorem toNat_ofMagnitude (room : code < f.signUnit) :
    (ofMagnitude negative code : Binary f).bits.toNat = code + if negative then f.signUnit else 0 := by
  rw [ofMagnitude, BitVec.toNat_ofNat, Nat.mod_eq_of_lt]
  rw [width_eq]
  split <;> omega

theorem magnitude_ofMagnitude (room : code < f.signUnit) : (ofMagnitude negative code : Binary f).magnitude = code := by
  rw [magnitude, toNat_ofMagnitude room]
  cases negative
  · simpa using Nat.mod_eq_of_lt room
  · simpa using Nat.mod_eq_of_lt room

theorem negative_ofMagnitude (room : code < f.signUnit) :
    (ofMagnitude negative code : Binary f).negative = negative := by
  rw [Binary.negative, toNat_ofMagnitude room]
  cases negative
  · simpa using room
  · simp

theorem ofMagnitude_eta (x : Binary f) : ofMagnitude x.negative x.magnitude = x := by
  have whole : x.bits.toNat < 2 * f.signUnit := width_eq f ▸ x.bits.isLt
  have sum : x.magnitude + (if x.negative then f.signUnit else 0) = x.bits.toNat := by
    unfold magnitude Binary.negative
    by_cases low : f.signUnit ≤ x.bits.toNat
    · rw [Nat.mod_eq_sub_mod low, Nat.mod_eq_of_lt (by omega)]
      simp only [low, decide_true, if_true]
      omega
    · rw [Nat.mod_eq_of_lt (by omega)]
      simp [low]
  rw [ofMagnitude, sum, BitVec.ofNat_toNat, BitVec.setWidth_eq]

/-- Finite values without a sign are ordered by their codes. -/
theorem lt_ofMagnitude {other : Nat} (finite : code < f.infinityCode) (otherFinite : other < f.infinityCode) :
    (ofMagnitude false code : Binary f).lt (ofMagnitude false other) ↔ code < other := by
  have room := finite.trans (infinityCode_lt_signUnit f)
  have otherRoom := otherFinite.trans (infinityCode_lt_signUnit f)
  rw [lt_iff]
  · simp [orderKey, negative_ofMagnitude, magnitude_ofMagnitude, room, otherRoom]
  · simpa [isFinite, magnitude_ofMagnitude room] using finite
  · simpa [isFinite, magnitude_ofMagnitude otherRoom] using otherFinite

/-- A ratio that is a finite magnitude is rounded to the value with that magnitude. -/
theorem ofRatio_eq {num den : Nat} (positive : 0 < den) (exact : (num / den : ℚ) = size f code)
    (finite : code ≤ f.infinityCode) : (ofRatio negative num den : Binary f) = ofMagnitude negative code := by
  rw [ofRatio, roundedCode_eq positive exact, Nat.min_eq_right finite]

theorem ofScaled_eq {significand : Nat} {exponent : ℤ} (exact : (significand * 2 ^ exponent : ℚ) = size f code)
    (finite : code ≤ f.infinityCode) :
    (ofScaled negative significand exponent : Binary f) = ofMagnitude negative code := by
  refine ofRatio_eq (Nat.two_pow_pos _) ?_ finite
  rw [← exact, zpow_eq_div, Nat.cast_mul, mul_div_assoc]

/-- What a finite value stands for is the magnitude with its code. -/
theorem datum_size (finite : x.magnitude < f.infinityCode) :
    ∃ significand exponent, x.datum = .finite x.negative significand exponent ∧
      (significand * 2 ^ exponent : ℚ) = size f x.magnitude := by
  have notNaN : ¬ f.infinityCode < x.magnitude := finite.not_gt
  rcases Nat.lt_or_ge x.magnitude f.exponentUnit with small | large
  · exact ⟨x.magnitude, f.leastExponent, by simp [datum, notNaN, finite.ne, small], by rw [size, units_of_lt small]⟩
  · refine ⟨x.magnitude % f.exponentUnit + f.exponentUnit, f.leastExponent + (x.magnitude / f.exponentUnit - 1 : Nat),
      by simp [datum, notNaN, finite.ne, large.not_gt], ?_⟩
    rw [size, units, if_neg large.not_gt, zpow_add₀ two_ne_zero, zpow_natCast]
    push_cast [twoTo, Nat.pow_eq]
    ring

end

end Binary

/-- Two data that stand for the same: the same number with the same sign, the same infinity, or both no number. -/
def Datum.Same : Datum → Datum → Prop
  | nan, nan => True
  | infinite s, infinite t => s = t
  | finite s m e, finite t n g => s = t ∧ (m * 2 ^ e : ℚ) = n * 2 ^ g
  | _, _ => False

/-- A format that has a place for every value of another, also for what is not a number. -/
structure Format.Within (f g : Format) : Prop where
  fraction : f.fractionBits ≤ g.fractionBits
  least : g.leastExponent ≤ f.leastExponent
  most : Binary.units f f.infinityCode * twoTo (f.leastExponent - g.leastExponent).toNat ≤ Binary.units g g.infinityCode
  quiet : 0 < g.fractionBits

theorem Format.single_within_double : single.Within double where
  fraction := by decide
  least := by decide +kernel
  most := by decide +kernel
  quiet := by decide

namespace Binary
variable {f g : Format}

theorem exists_size_eq (within : f.Within g) {code : Nat} (finite : code < f.infinityCode) :
    ∃ other < g.infinityCode, size g other = size f code := by
  obtain ⟨shift, steps⟩ := Int.eq_ofNat_of_zero_le (Int.sub_nonneg_of_le within.least)
  have most := within.most
  rw [steps] at most
  have fewer : 2 ^ ((units f code).log2 - g.fractionBits) ∣ units f code :=
    (Nat.pow_dvd_pow 2 (Nat.sub_le_sub_left within.fraction _)).trans (units_short f code)
  obtain ⟨other, same⟩ := exists_units_eq (short_scaled fewer shift)
  refine ⟨other, ?_, ?_⟩
  · rw [← (units_strictMono g).lt_iff_lt, same]
    exact (Nat.mul_lt_mul_of_pos_right (units_strictMono f finite) (Nat.two_pow_pos shift)).trans_le most
  · have exponent : f.leastExponent = g.leastExponent + shift := by omega
    rw [size, size, same, exponent, zpow_add₀ two_ne_zero, zpow_natCast]
    push_cast [twoTo, Nat.pow_eq]
    ring

theorem datum_nan (quiet : 0 < f.fractionBits) : (nan : Binary f).datum = .nan := by
  have unit : 2 ≤ f.exponentUnit := Nat.le_self_pow quiet.ne' 2
  have room : f.infinityCode + f.exponentUnit / 2 < f.signUnit := by
    rw [signUnit_eq]
    omega
  have beyond : f.infinityCode < (nan : Binary f).magnitude := by
    rw [nan, magnitude_ofMagnitude room]
    omega
  simp [datum, beyond]

/-- What a value stands for is kept by a format that has a place for it. -/
theorem convert_same (within : f.Within g) (x : Binary f) : (x.convert g).datum.Same x.datum := by
  have room := infinityCode_lt_signUnit g
  rcases Nat.lt_trichotomy x.magnitude f.infinityCode with finite | infinite | nan
  · obtain ⟨significand, exponent, datum, exact⟩ := datum_size finite
    obtain ⟨code, below, same⟩ := exists_size_eq within finite
    have converted : x.convert g = ofMagnitude x.negative code := by
      rw [convert, datum]
      exact ofScaled_eq (exact.trans same.symm) below.le
    have magnitude : (ofMagnitude x.negative code : Binary g).magnitude = code := magnitude_ofMagnitude (below.trans room)
    obtain ⟨other, power, datum', exact'⟩ := datum_size (x := ofMagnitude x.negative code) (magnitude ▸ below)
    rw [converted, datum', datum, negative_ofMagnitude (below.trans room)]
    refine ⟨rfl, ?_⟩
    rw [exact', exact, magnitude, same]
  · have datum : x.datum = .infinite x.negative := by simp [datum, infinite]
    have magnitude : (ofMagnitude x.negative g.infinityCode : Binary g).magnitude = g.infinityCode :=
      magnitude_ofMagnitude room
    rw [convert, datum, ofDatum, infinity]
    simp [Binary.datum, magnitude, negative_ofMagnitude room, Datum.Same]
  · have datum : x.datum = .nan := by simp [datum, nan]
    rw [convert, datum, ofDatum, datum_nan within.quiet]
    trivial

/-- The value of 64 bits is the same as the one of 32 bits, whatever its bits are. -/
theorem widen_same (x : Binary32) : x.widen.datum.Same x.datum := convert_same Format.single_within_double x

theorem ofInt_natCast (n : Nat) : (ofInt n : Binary f) = ofRatio false n 1 := by
  have notNegative : decide ((n : ℤ) < 0) = false := decide_eq_false (by omega)
  rw [ofInt, notNegative, Int.natAbs_natCast]

/-- A whole number that a value is gives the value back. -/
theorem ofInt_toInt? {x : Binary f} {i : ℤ} (whole : x.toInt? = some i) : ofInt i = x := by
  unfold toInt? at whole
  rcases Nat.lt_trichotomy x.magnitude f.infinityCode with finite | infinite | nan
  · obtain ⟨significand, exponent, datum, exact⟩ := datum_size finite
    simp only [datum, Option.ite_none_right_eq_some, Bool.and_eq_true, decide_eq_true_eq, Option.some.injEq] at whole
    obtain ⟨⟨divides, signed⟩, number⟩ := whole
    generalize quotient : significand * twoTo exponent.toNat / twoTo (-exponent).toNat = n at number
    have product : n * twoTo (-exponent).toNat = significand * twoTo exponent.toNat := by
      rw [← quotient]
      exact Nat.div_mul_cancel (Nat.dvd_of_mod_eq_zero divides)
    have ratio : ((n : ℚ) / (1 : Nat)) = size f x.magnitude := by
      rw [← exact, zpow_eq_div, Nat.cast_one, div_one, mul_div_assoc', eq_div_iff (twoTo_pos _).ne']
      exact_mod_cast product
    have same : (ofRatio x.negative n 1 : Binary f) = x := by
      rw [ofRatio_eq Nat.one_pos ratio finite.le, ofMagnitude_eta]
    cases sign : x.negative with
    | false =>
      rw [sign] at same
      have number : (n : ℤ) = i := by simpa [sign] using number
      rw [← number, ofInt_natCast, same]
    | true =>
      rw [sign] at same
      have number : -(n : ℤ) = i := by simpa [sign] using number
      have above : 0 < n := by
        refine Nat.pos_of_ne_zero fun zero => ?_
        rw [zero, Nat.zero_mul] at product
        simp [sign, ← product] at signed
      subst number
      simpa [ofInt, above] using same
  · simp [datum, infinite] at whole
  · simp [datum, nan] at whole

/-- The values of 64 bits have a place for the whole numbers of 32 bits. -/
theorem exists_size_natCast {n : Nat} (room : n < 4294967296) :
    ∃ code < Format.double.infinityCode, size .double code = n := by
  have short : 2 ^ (n.log2 - Format.double.fractionBits) ∣ n := by
    rcases Nat.eq_zero_or_pos n with rfl | above
    · exact Nat.dvd_zero _
    · have few : n.log2 < 32 := (Nat.log2_lt above.ne').mpr room
      have none : n.log2 - Format.double.fractionBits = 0 := Nat.sub_eq_zero_of_le (few.le.trans (by decide))
      exact none ▸ one_dvd n
  obtain ⟨shift, least, most⟩ : ∃ shift : Nat, Format.double.leastExponent = -shift ∧
      4294967296 * twoTo shift ≤ units .double Format.double.infinityCode :=
    ⟨1074, by decide +kernel, by decide +kernel⟩
  obtain ⟨code, same⟩ := exists_units_eq (short_scaled short shift)
  refine ⟨code, ?_, ?_⟩
  · rw [← (units_strictMono _).lt_iff_lt, same]
    exact (Nat.mul_lt_mul_of_pos_right room (Nat.two_pow_pos shift)).trans_le most
  · rw [size, same, least, zpow_neg, zpow_natCast]
    push_cast [twoTo, Nat.pow_eq]
    exact mul_inv_cancel_right₀ (by positivity) _

/-- The value of 64 bits that stands for a whole number of 32 bits. -/
theorem ofRatio_natCast {n : Nat} (room : n < 4294967296) (negative : Bool) :
    ∃ code < Format.double.infinityCode, size .double code = n ∧
      (ofRatio negative n 1 : Binary64) = ofMagnitude negative code := by
  obtain ⟨code, finite, same⟩ := exists_size_natCast room
  have ratio : ((n : ℚ) / (1 : Nat)) = size .double code := by rw [same, Nat.cast_one, div_one]
  exact ⟨code, finite, same, ofRatio_eq Nat.one_pos ratio finite.le⟩

/-- Nothing is lost of a whole number with its fraction dropped. -/
theorem truncate?_ofInt {n : Nat} (room : n < 4294967296) : (ofInt n : Binary64).truncate? = some n := by
  obtain ⟨code, finite, same, rounded⟩ := ofRatio_natCast room false
  have room := finite.trans (infinityCode_lt_signUnit _)
  have magnitude : (ofMagnitude false code : Binary .double).magnitude = code := magnitude_ofMagnitude room
  obtain ⟨significand, exponent, datum, exact⟩ :=
    datum_size (f := .double) (x := ofMagnitude false code) (magnitude.symm ▸ finite)
  rw [negative_ofMagnitude room] at datum
  rw [magnitude, same, zpow_eq_div, mul_div_assoc', div_eq_iff (twoTo_pos _).ne'] at exact
  have product : significand * twoTo exponent.toNat = n * twoTo (-exponent).toNat := by exact_mod_cast exact
  have whole : n * twoTo (-exponent).toNat / twoTo (-exponent).toNat = n := Nat.mul_div_cancel _ (Nat.two_pow_pos _)
  rw [ofInt_natCast, rounded]
  simp [truncate?, datum, product, whole]

end Binary

end ScriptedScene
