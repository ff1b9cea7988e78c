import Mathlib.Algebra.Order.Field.Basic
import Mathlib.Algebra.Order.Field.Power
import Mathlib.Algebra.Order.Ring.Rat
import Mathlib.Tactic.NormNum
import Mathlib.Tactic.Positivity
import Mathlib.Tactic.SplitIfs
import AlbListener.Binary64.Rounding

/-!
# Positive doubles

A double is positive if it is more than zero; a NaN is not. What is rounded to a double is rounded
to zero exactly if it is at most half of the smallest positive double, for of zero and that double
zero is the even one.

Results:
* `isPositive_ofRatio_iff`: which fractions are rounded to a positive double.
* `isPositive_ofDecimal_iff`: which decimals are read as one.
-/

namespace AlbListener

theorem twoTo_eq (n : ℕ) : twoTo n = 2 ^ n := rfl

theorem tenTo_pos (n : ℕ) : 0 < tenTo n := Nat.pow_pos (show 0 < 10 by decide)

theorem roundEven_eq_zero_iff (num : ℕ) {den : ℕ} (h : 0 < den) :
    roundEven num den = 0 ↔ 2 * num ≤ den := by
  unfold roundEven
  dsimp only
  rcases Nat.lt_or_ge num den with hlt | hge
  · rw [Nat.div_eq_of_lt hlt, Nat.mod_eq_of_lt hlt]
    split_ifs
    · exact iff_of_true rfl (by omega)
    · exact iff_of_false id (by omega)
  · have hdiv := Nat.div_pos hge h
    split_ifs
    · exact iff_of_false hdiv.ne' (by omega)
    · exact iff_of_false id (by omega)

namespace Binary64

variable {negative : Bool} {significand exponent num den : ℕ}

/-- A double is more than zero. -/
def IsPositive (x : Binary64) : Prop := (Number.finite 0).lt x.number = true

theorem isPositive_infinite_iff : (infinite negative).IsPositive ↔ negative = false := by
  cases negative with
  | true => exact iff_of_false Bool.false_ne_true Bool.noConfusion
  | false => exact iff_of_true rfl rfl

theorem not_isPositive_nan : ¬nan.IsPositive := Bool.false_ne_true

theorem isPositive_finite_iff :
    (finite negative significand exponent).IsPositive ↔ negative = false ∧ significand ≠ 0 := by
  have hpow : twoTo exponent ≠ 0 := (twoTo_pos exponent).ne'
  rw [IsPositive, number, Number.lt, decide_eq_true_iff]
  cases negative with
  | true =>
    refine iff_of_false ?_ fun h => Bool.noConfusion h.1
    rw [sign, if_pos rfl]
    omega
  | false =>
    rw [sign, if_neg Bool.false_ne_true, Int.natCast_pos, Nat.pos_iff_ne_zero, Nat.mul_ne_zero_iff,
      and_iff_left hpow, and_iff_right rfl]

/-- A significand that is carried into the exponent is not zero. -/
theorem isPositive_carry_iff (h : significand ≠ 0 ∨ exponent ≤ 2045) :
    (carry negative significand exponent).IsPositive ↔ negative = false ∧ significand ≠ 0 := by
  have hfull : twoTo 53 ≠ 0 := (twoTo_pos 53).ne'
  have hhalf : twoTo 52 ≠ 0 := (twoTo_pos 52).ne'
  unfold carry
  split_ifs with hcarry <;> dsimp only <;> split_ifs with hsmall
  · rw [isPositive_finite_iff, hcarry, and_iff_left hhalf, and_iff_left hfull]
  · rw [isPositive_infinite_iff, hcarry, and_iff_left hfull]
  · exact isPositive_finite_iff
  · rw [isPositive_infinite_iff, and_iff_left (h.resolve_right hsmall)]

/-- What is more than half a unit is rounded to a positive double. -/
theorem isPositive_ofRatio_iff (h : 0 < den) :
    (ofRatio negative num den).IsPositive ↔
      negative = false ∧ den < 2 * (num * unitsPerOne) := by
  unfold ofRatio
  dsimp only
  generalize num * unitsPerOne = scaled
  by_cases hq : scaled / den < twoTo 53
  · rw [if_pos hq, isPositive_carry_iff (.inr (by decide)), ne_eq,
      show den * twoTo 0 = den from Nat.mul_one den, roundEven_eq_zero_iff scaled h, Nat.not_le]
  · -- there is a significand of 53 bits
    rw [if_neg hq]
    have hone : 1 ≤ scaled / den := (twoTo_pos 53).trans_le (Nat.not_lt.mp hq)
    have hscaled : scaled / den * den ≤ scaled := Nat.div_mul_le_self scaled den
    have hlarge : den ≤ scaled := (Nat.le_mul_of_pos_left den hone).trans hscaled
    have hpow : twoTo ((scaled / den).log2 - 52) ≤ scaled / den :=
      (Nat.pow_le_pow_right two_pos (Nat.sub_le _ _)).trans (Nat.log2_self_le (by omega))
    have hunit : den * twoTo ((scaled / den).log2 - 52) ≤ scaled :=
      (Nat.mul_comm _ _).trans_le ((Nat.mul_le_mul_right den hpow).trans hscaled)
    have hne : roundEven scaled (den * twoTo ((scaled / den).log2 - 52)) ≠ 0 := by
      rw [ne_eq, roundEven_eq_zero_iff scaled (Nat.mul_pos h (twoTo_pos _))]
      omega
    rw [isPositive_carry_iff (.inl hne)]
    exact and_congr_right fun _ => iff_of_true hne (by omega)

/-- The size of a decimal below one, against half a unit. -/
theorem half_lt_mul_zpow_neg_iff (digits places : ℕ) :
    (1 / 2 : ℚ) < digits * 10 ^ (-(places : ℤ)) * unitsPerOne ↔
      tenTo places < 2 * (digits * unitsPerOne) := by
  have hten : (0 : ℚ) < 10 ^ places := by positivity
  have hcast : ((tenTo places : ℕ) : ℚ) = 10 ^ places := Nat.cast_pow 10 places
  rw [zpow_neg, zpow_natCast, mul_right_comm, ← div_eq_mul_inv, div_lt_div_iff₀ two_pos hten,
    one_mul, ← hcast, mul_comm _ (2 : ℚ)]
  exact_mod_cast Iff.rfl

/-- A decimal is read as a positive double exactly if it has no minus sign and is more than half of
    the smallest one. -/
theorem isPositive_ofDecimal_iff (negative : Bool) (digits : ℕ) (exponent : ℤ) :
    (ofDecimal negative digits exponent).IsPositive ↔
      negative = false ∧ (1 / 2 : ℚ) < digits * 10 ^ exponent * unitsPerOne := by
  have hunits : (1 : ℚ) ≤ unitsPerOne := Nat.one_le_cast.mpr unitsPerOne_pos
  rcases Nat.eq_zero_or_pos digits with rfl | hdigits
  · rw [ofDecimal, if_pos rfl, isPositive_finite_iff, Nat.cast_zero, zero_mul, zero_mul]
    exact and_congr_right fun _ => iff_of_false (not_not_intro rfl) (by norm_num)
  have hdigits' : (1 : ℚ) ≤ digits := Nat.one_le_cast.mpr hdigits
  have hwhole (h : 0 ≤ exponent) : (1 / 2 : ℚ) < digits * 10 ^ exponent * unitsPerOne := by
    have hpow : (1 : ℚ) ≤ 10 ^ exponent := one_le_zpow₀ (by norm_num) h
    calc (1 / 2 : ℚ) < 1 := by norm_num
      _ ≤ digits * 10 ^ exponent * unitsPerOne :=
        one_le_mul_of_one_le_of_one_le (one_le_mul_of_one_le_of_one_le hdigits' hpow) hunits
  rw [ofDecimal, if_neg hdigits.ne']
  split_ifs with hlarge hsmall hnonneg
  · rw [isPositive_infinite_iff, and_iff_left (hwhole (by omega))]
  · -- so small that it is not rounded
    obtain ⟨places, rfl⟩ : ∃ places : ℕ, exponent = -places := ⟨exponent.natAbs, by omega⟩
    rw [half_lt_mul_zpow_neg_iff, isPositive_finite_iff]
    refine and_congr_right fun _ => iff_of_false (not_not_intro rfl) (Nat.not_lt.mpr ?_)
    have hlog : digits ≤ 2 ^ (digits.log2 + 1) := Nat.lt_log2_self.le
    have hplaces : digits.log2 + 1 + unitBits + 1 ≤ 3 * places := by
      rw [show unitBits = 1074 from rfl]
      omega
    rw [unitsPerOne, twoTo_eq]
    calc 2 * (digits * 2 ^ unitBits)
        ≤ 2 * (2 ^ (digits.log2 + 1) * 2 ^ unitBits) :=
          Nat.mul_le_mul_left 2 (Nat.mul_le_mul_right _ hlog)
      _ = 2 ^ (digits.log2 + 1 + unitBits + 1) := by rw [← pow_add, pow_succ, mul_comm]
      _ ≤ 2 ^ (3 * places) := Nat.pow_le_pow_right two_pos hplaces
      _ = 8 ^ places := pow_mul 2 3 places
      _ ≤ 10 ^ places := Nat.pow_le_pow_left (by norm_num) places
  · have hdouble : 1 < 2 * (digits * tenTo exponent.toNat * unitsPerOne) := by
      have := Nat.mul_pos (Nat.mul_pos hdigits (tenTo_pos exponent.toNat)) unitsPerOne_pos
      omega
    rw [isPositive_ofRatio_iff Nat.one_pos, and_iff_left (hwhole hnonneg), and_iff_left hdouble]
  · obtain ⟨places, rfl⟩ : ∃ places : ℕ, exponent = -places := ⟨exponent.natAbs, by omega⟩
    rw [half_lt_mul_zpow_neg_iff, neg_neg, Int.toNat_natCast,
      isPositive_ofRatio_iff (tenTo_pos places)]

end Binary64

end AlbListener
