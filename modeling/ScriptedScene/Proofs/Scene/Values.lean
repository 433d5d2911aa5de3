import Mathlib.Tactic.Common
import ScriptedScene.Scene.Store

/-! The values that lights can have, told by what a bit pattern stands for. The store tells them by comparing, which
nothing that is not a number takes part in: finiteness is looked at first, and of a colour only the smallest component
is compared with zero. -/
namespace ScriptedScene
namespace Binary
variable {f : Format} {x y : Binary f}

/-- A finite number that is not below zero. The negative zero is one. -/
def isFit (x : Binary f) : Bool :=
  match x.datum with
  | .finite negative significand _ => !negative || significand == 0
  | .nan | .infinite _ => false

theorem exponentUnit_pos (f : Format) : 0 < f.exponentUnit := Nat.two_pow_pos _

theorem orderKey_zero : (zero false : Binary f).orderKey = 0 := by
  have magnitude : (zero false : Binary f).magnitude = 0 := by simp [zero, ofMagnitude, Binary.magnitude]
  simp [orderKey, magnitude]

theorem isNaN_zero : (zero false : Binary f).isNaN = false := by
  simp [isNaN, zero, ofMagnitude, magnitude]

theorem isNaN_of_isFinite (finite : x.isFinite) : x.isNaN = false := by
  simp only [isFinite, isNaN, decide_eq_true_eq, decide_eq_false_iff_not] at *
  omega

/-- Finite values are ordered by their keys. -/
theorem lt_iff (left : x.isFinite) (right : y.isFinite) : x.lt y ↔ x.orderKey < y.orderKey := by
  simp [lt, isNaN_of_isFinite left, isNaN_of_isFinite right]

theorem lt_zero_iff : x.lt (zero false) ↔ x.isNaN = false ∧ x.orderKey < 0 := by
  simp [lt, isNaN_zero, orderKey_zero]

theorem orderKey_neg_iff : x.orderKey < 0 ↔ x.negative = true ∧ x.magnitude ≠ 0 := by
  unfold orderKey
  split <;> simp_all
  omega

theorem datum_of_isFinite (finite : x.isFinite) :
    ∃ significand exponent, x.datum = .finite x.negative significand exponent ∧
      (significand = 0 ↔ x.magnitude = 0) := by
  have unit := exponentUnit_pos f
  simp only [isFinite, decide_eq_true_eq] at finite
  have nan : ¬ f.infinityCode < x.magnitude := by omega
  have infinite : x.magnitude ≠ f.infinityCode := by omega
  by_cases small : x.magnitude < f.exponentUnit
  · exact ⟨x.magnitude, f.leastExponent, by simp [datum, nan, infinite, small], Iff.rfl⟩
  · exact ⟨x.magnitude % f.exponentUnit + f.exponentUnit, f.leastExponent + (x.magnitude / f.exponentUnit - 1 : Nat),
      by simp [datum, nan, infinite, small], by omega⟩

theorem isFinite_of_isFit (fit : x.isFit) : x.isFinite := by
  by_contra infinite
  simp only [isFinite, decide_eq_true_eq, Nat.not_lt] at infinite
  rcases Nat.lt_or_eq_of_le infinite with nan | infinite
  · simp [isFit, datum, nan] at fit
  · simp [isFit, datum, ← infinite] at fit

/-- What is refused as a value: what is not a number, the infinities, and what is below zero. -/
theorem isFit_iff : x.isFit ↔ x.isFinite ∧ ¬ x.lt (zero false) := by
  by_cases finite : x.isFinite
  · obtain ⟨significand, exponent, datum, zero⟩ := datum_of_isFinite finite
    rw [lt_zero_iff, orderKey_neg_iff]
    simp only [isFit, datum, isNaN_of_isFinite finite, finite, ne_eq, ← zero]
    cases x.negative <;> simp
  · exact ⟨fun fit => absurd (isFinite_of_isFit fit) finite, fun fit => absurd fit.1 finite⟩

theorem isFit_eq (x : Binary f) : (x.isFinite && !x.lt (zero false)) = x.isFit := by
  rw [Bool.eq_iff_iff, isFit_iff]
  simp only [Bool.and_eq_true, Bool.not_eq_true', Bool.not_eq_true]

theorem lesser_finite (left : x.isFinite) (right : y.isFinite) : (x.lesser y).isFinite := by
  unfold lesser
  split
  · exact right
  · exact left

/-- The smaller of two finite values is below zero as soon as one of them is. -/
theorem lesser_lt_zero (left : x.isFinite) (right : y.isFinite) :
    (x.lesser y).lt (zero false) ↔ x.lt (zero false) ∨ y.lt (zero false) := by
  have order := lt_iff right left
  simp only [lesser, isNaN_of_isFinite left, Bool.false_or]
  split <;> simp_all [lt_zero_iff, isNaN_of_isFinite left, isNaN_of_isFinite right] <;> omega

end Binary

namespace Color

/-- All components are values that lights can have. -/
def isFit (c : Color) : Bool := c.components.all Binary.isFit

/-- The smallest component speaks for all of them. -/
theorem isFit_iff (c : Color) : c.isFit ↔ c.isFinite ∧ ¬ c.least.lt (.zero false) := by
  simp only [isFit, components, List.all_cons, List.all_nil, Bool.and_true, Bool.and_eq_true, Binary.isFit_iff,
    isFinite, least]
  constructor
  · rintro ⟨⟨red, notRed⟩, ⟨green, notGreen⟩, ⟨blue, notBlue⟩⟩
    refine ⟨⟨⟨red, green⟩, blue⟩, ?_⟩
    rw [Binary.lesser_lt_zero red (Binary.lesser_finite green blue), Binary.lesser_lt_zero green blue]
    simp [notRed, notGreen, notBlue]
  · rintro ⟨⟨⟨red, green⟩, blue⟩, above⟩
    rw [Binary.lesser_lt_zero red (Binary.lesser_finite green blue), Binary.lesser_lt_zero green blue] at above
    simp only [not_or] at above
    exact ⟨⟨red, above.1⟩, ⟨green, above.2.1⟩, ⟨blue, above.2.2⟩⟩

theorem isFit_eq (c : Color) : (c.isFinite && !c.least.lt (.zero false)) = c.isFit := by
  rw [Bool.eq_iff_iff, isFit_iff]
  simp only [Bool.and_eq_true, Bool.not_eq_true', Bool.not_eq_true]

theorem white_isFit : white.isFit := by decide

end Color

theorem Binary32.one_isFit : Binary32.one.isFit := by decide

/-- A light whose colour and intensity are values that lights can have. -/
def Light.isFit (l : Light) : Bool := l.color.isFit && l.intensity.isFit

end ScriptedScene
