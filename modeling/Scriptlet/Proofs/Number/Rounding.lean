import Mathlib

/-!
# Rounding to a number

A positive rational number is rounded by cutting its mantissa off after 53 binary digits and looking
at what was cut off.  The result is at most half a unit in the last place away, and a number that
has at most 53 digits is not changed.
-/

namespace Scriptlet.Number

open Float.Model (Format UnpackedFloat totalExponent)
open Float.Model.UnpackedFloat

theorem lt_of_two_zpow_lt {a b : ℤ} (less : (2 : ℚ) ^ a < 2 ^ b) : a < b :=
  (zpow_lt_zpow_iff_right₀ (by norm_num)).mp less

/-! ## Mantissas with residual bits -/

/-- A mantissa with its residual bits stands for a rational number: the round bit is worth one half,
and the sticky bit says whether there is a rest. -/
def Holds (extended : ExtendedMantissa) (y : ℚ) : Prop :=
  ∃ rest : ℚ, y = extended.mantissa + (if extended.roundBit then 1 / 2 else 0) + rest ∧
    0 ≤ rest ∧ rest < 1 / 2 ∧ (extended.stickyBit = true ↔ rest ≠ 0)

variable {extended : ExtendedMantissa} {x y : ℚ}

theorem Holds.le (holds : Holds extended y) : (extended.mantissa : ℚ) ≤ y := by
  obtain ⟨rest, rfl, nonneg, -⟩ := holds
  split <;> linarith

theorem Holds.lt (holds : Holds extended y) : y < extended.mantissa + 1 := by
  obtain ⟨rest, rfl, -, small, -⟩ := holds
  split <;> linarith

theorem Holds.shiftRightOne (holds : Holds extended y) : Holds extended.shiftRightOne (y / 2) := by
  obtain ⟨rest, rfl, nonneg, small, sticky⟩ := holds
  obtain ⟨mantissa, roundBit, stickyBit⟩ := extended
  have parts : (mantissa : ℚ) = 2 * (mantissa / 2 : ℕ) + (mantissa % 2 : ℕ) := by
    exact_mod_cast (Nat.div_add_mod mantissa 2).symm
  refine ⟨((if roundBit then 1 / 2 else 0) + rest) / 2, ?_, ?_, ?_, ?_⟩
  · rcases Nat.mod_two_eq_zero_or_one mantissa with even | odd
    · simp only [ExtendedMantissa.shiftRightOne, parts, even]
      norm_num
      ring
    · simp only [ExtendedMantissa.shiftRightOne, parts, odd]
      norm_num
      ring
  · split <;> linarith
  · split <;> linarith
  · cases roundBit with
    | false => simpa [ExtendedMantissa.shiftRightOne] using sticky
    | true =>
        refine iff_of_true rfl (ne_of_gt ?_)
        simp only [if_true]
        linarith

theorem Holds.shiftRight (holds : Holds extended y) (count : ℕ) :
    Holds (extended >>> count) (y / 2 ^ count) := by
  induction count with
  | zero => simpa using (show Holds (extended >>> 0) y from holds)
  | succ count ih =>
      rw [pow_succ, ← div_div]
      exact ih.shiftRightOne

theorem Holds.rounded_near (holds : Holds extended y) :
    |(extended.roundedMantissa : ℚ) - y| ≤ 1 / 2 := by
  obtain ⟨rest, rfl, nonneg, small, sticky⟩ := holds
  obtain ⟨mantissa, roundBit, stickyBit⟩ := extended
  rw [abs_le]
  cases roundBit <;> cases stickyBit <;>
    simp only [ExtendedMantissa.roundedMantissa, ExtendedMantissa.accuracy,
      Accuracy.roundToNearestEven, Bool.false_eq_true, if_false, if_true, false_iff, true_iff,
      not_not] at sticky ⊢ <;> push_cast
  · constructor <;> linarith
  · constructor <;> linarith
  · rcases Nat.mod_two_eq_zero_or_one mantissa with even | odd
    · rw [even]
      constructor <;> push_cast <;> linarith
    · rw [odd]
      constructor <;> push_cast <;> linarith
  · constructor <;> linarith

/-- A natural number is its own rounded mantissa. -/
theorem Holds.rounded_natural {n : ℕ} (holds : Holds extended n) :
    extended.roundedMantissa = n := by
  have near := holds.rounded_near
  have low := holds.le
  have high := holds.lt
  have same : extended.mantissa = n := by
    have : extended.mantissa ≤ n := by exact_mod_cast low
    have : n < extended.mantissa + 1 := by exact_mod_cast high
    omega
  obtain ⟨rest, parts, nonneg, small, sticky⟩ := holds
  obtain ⟨mantissa, roundBit, stickyBit⟩ := extended
  cases same
  cases roundBit with
  | true =>
      simp only [if_true] at parts
      linarith
  | false =>
      have none : rest = 0 := by
        simp only [Bool.false_eq_true, if_false] at parts
        linarith
      have clear : stickyBit = false := by simpa [none] using sticky
      rw [clear]
      rfl

/-- A number of 53 digits is rounded to one of 53 digits, or to the least one of 54. -/
theorem Holds.rounded_bounds (holds : Holds extended y) (least : 2 ^ 52 ≤ y)
    (greatest : y < 2 ^ 53) :
    2 ^ 52 ≤ extended.roundedMantissa ∧ extended.roundedMantissa ≤ 2 ^ 53 := by
  have bounds := abs_le.mp holds.rounded_near
  have low : ((2 ^ 52 : ℕ) : ℚ) < (extended.roundedMantissa + 1 : ℕ) := by
    push_cast
    linarith
  have high : (extended.roundedMantissa : ℚ) < (2 ^ 53 + 1 : ℕ) := by
    push_cast
    linarith
  exact ⟨Nat.le_of_lt_succ (by exact_mod_cast low), Nat.le_of_lt_succ (by exact_mod_cast high)⟩

section Places

variable {place : ℤ}

theorem Holds.rounded_error (holds : Holds extended (x / 2 ^ place)) :
    |(extended.roundedMantissa : ℚ) * 2 ^ place - x| ≤ 2 ^ (place - 1) := by
  have unit : (0 : ℚ) < 2 ^ place := by positivity
  calc |(extended.roundedMantissa : ℚ) * 2 ^ place - x|
      = |(extended.roundedMantissa : ℚ) - x / 2 ^ place| * 2 ^ place := by
        rw [← abs_of_pos unit, ← abs_mul, abs_of_pos unit, sub_mul, div_mul_cancel₀ x unit.ne']
    _ ≤ 1 / 2 * 2 ^ place := mul_le_mul_of_nonneg_right holds.rounded_near unit.le
    _ = 2 ^ (place - 1) := by
        rw [zpow_sub_one₀ two_ne_zero]
        ring

theorem Holds.rounded_exact (holds : Holds extended (x / 2 ^ place)) {n : ℕ}
    (whole : x = n * 2 ^ place) : (extended.roundedMantissa : ℚ) * 2 ^ place = x := by
  have unit : (2 : ℚ) ^ place ≠ 0 := by positivity
  rw [whole, mul_div_cancel_right₀ _ unit] at holds
  rw [holds.rounded_natural, whole]

end Places

@[simp]
theorem mantissa_ofMantissaAndAccuracy (mantissa : ℕ) (accuracy : Accuracy) :
    (ExtendedMantissa.ofMantissaAndAccuracy mantissa accuracy).mantissa = mantissa := by
  rcases accuracy with _ | _ | _ | _ <;> rfl

theorem holds_exact (mantissa : ℕ) :
    Holds (ExtendedMantissa.ofMantissaAndAccuracy mantissa .exact) mantissa :=
  ⟨0, by simp [ExtendedMantissa.ofMantissaAndAccuracy], le_refl 0, by norm_num,
    by simp [ExtendedMantissa.ofMantissaAndAccuracy]⟩

/-- The quotient of two natural numbers, with what the remainder says of the accuracy. -/
theorem holds_quotient (m : ℕ) {n : ℕ} (positive : 0 < n) :
    Holds (ExtendedMantissa.ofMantissaAndAccuracy (m / n) (accuracyOfFraction (m % n) n))
      ((m : ℚ) / n) := by
  have cast : (0 : ℚ) < n := by exact_mod_cast positive
  have split : (m : ℚ) / n = (m / n : ℕ) + (m % n : ℕ) / n := by
    rw [div_eq_iff cast.ne', add_mul, div_mul_cancel₀ _ cast.ne']
    exact_mod_cast (Nat.div_add_mod' m n).symm
  have nonneg : (0 : ℚ) ≤ (m % n : ℕ) / n := by positivity
  have small : ((m % n : ℕ) : ℚ) / n < 1 := by
    rw [div_lt_one cast]
    exact_mod_cast Nat.mod_lt m positive
  unfold accuracyOfFraction
  rw [split]
  split
  · rename_i none
    rw [none, Nat.cast_zero, zero_div, add_zero]
    exact holds_exact _
  · rename_i some
    have rest : ((m % n : ℕ) : ℚ) / n ≠ 0 := by
      refine div_ne_zero ?_ cast.ne'
      exact_mod_cast some
    cases order : compare (2 * (m % n)) n with
    | lt =>
        have below : 2 * ((m % n : ℕ) : ℚ) < n := by exact_mod_cast Nat.compare_eq_lt.mp order
        refine ⟨(m % n : ℕ) / n, by simp [ExtendedMantissa.ofMantissaAndAccuracy], nonneg, ?_,
          by simpa [ExtendedMantissa.ofMantissaAndAccuracy] using rest⟩
        rw [div_lt_iff₀ cast]
        linarith
    | eq =>
        have half : 2 * ((m % n : ℕ) : ℚ) = n := by exact_mod_cast Nat.compare_eq_eq.mp order
        refine ⟨0, ?_, le_refl 0, by norm_num, by simp [ExtendedMantissa.ofMantissaAndAccuracy]⟩
        have exact : ((m % n : ℕ) : ℚ) / n = 1 / 2 := by
          rw [div_eq_iff cast.ne']
          linarith
        simp [ExtendedMantissa.ofMantissaAndAccuracy, exact]
    | gt =>
        have above : (n : ℚ) < 2 * ((m % n : ℕ) : ℚ) := by exact_mod_cast Nat.compare_eq_gt.mp order
        have beyond : 1 / 2 < ((m % n : ℕ) : ℚ) / n := by
          rw [lt_div_iff₀ cast]
          linarith
        refine ⟨(m % n : ℕ) / n - 1 / 2, ?_, by linarith, by linarith, ?_⟩
        · simp only [ExtendedMantissa.ofMantissaAndAccuracy, if_true]
          ring
        · exact iff_of_true rfl (by linarith)

/-! ## Shifts to the target -/

/-- The exponent of a number with 53 digits whose first digit is worth `2 ^ order`. -/
theorem targetExponent_normal {mantissa : ℕ} {exponent order : ℤ}
    (leading : mantissa.log2 + exponent = order) (normal : -1022 ≤ order) :
    Format.binary64.targetExponent (totalExponent mantissa exponent) = order - 52 := by
  simp only [Format.targetExponent, totalExponent, Format.mantissaBits, Format.minExponent]
  norm_num
  omega

/-- The first digit of a number is the first digit of its mantissa. -/
theorem log2_of_holds {mantissa : ℕ} {exponent order : ℤ} (positive : 0 < mantissa)
    (low : (mantissa : ℚ) ≤ x / 2 ^ exponent) (high : x / 2 ^ exponent < mantissa + 1)
    (atLeast : 2 ^ order ≤ x) (below : x < 2 ^ (order + 1)) :
    mantissa.log2 + exponent = order := by
  have unit : (0 : ℚ) < 2 ^ exponent := by positivity
  rw [le_div_iff₀ unit] at low
  rw [div_lt_iff₀ unit] at high
  have least : ((2 : ℚ) ^ mantissa.log2) ≤ mantissa := by
    exact_mod_cast Nat.log2_self_le positive.ne'
  have greatest : (mantissa : ℚ) + 1 ≤ 2 ^ (mantissa.log2 + 1) := by
    exact_mod_cast Nat.lt_log2_self
  have first : (2 : ℚ) ^ (mantissa.log2 + exponent : ℤ) < 2 ^ (order + 1) := by
    rw [zpow_add₀ two_ne_zero, zpow_natCast]
    exact lt_of_le_of_lt (le_trans (mul_le_mul_of_nonneg_right least unit.le) low) below
  have second : (2 : ℚ) ^ order < 2 ^ (mantissa.log2 + 1 + exponent : ℤ) := by
    rw [zpow_add₀ two_ne_zero, ← Nat.cast_one, ← Nat.cast_add, zpow_natCast]
    exact lt_of_le_of_lt atLeast
      (lt_of_lt_of_le high (mul_le_mul_of_nonneg_right greatest unit.le))
  have above := lt_of_two_zpow_lt first
  have under := lt_of_two_zpow_lt second
  omega

section Rounded

variable {mantissa : ℕ} {exponent order : ℤ} {accuracy : Accuracy}

/-- The first shift brings the last digit of the mantissa to its place and keeps track
of the rest. -/
theorem shiftToTargetExponent_holds (positive : 0 < mantissa)
    (holds : Holds (ExtendedMantissa.ofMantissaAndAccuracy mantissa accuracy) (x / 2 ^ exponent))
    (atLeast : 2 ^ order ≤ x) (below : x < 2 ^ (order + 1)) (normal : -1022 ≤ order)
    (long : exponent ≤ order - 52) :
    Holds (shiftToTargetExponent Format.binary64 mantissa exponent accuracy).1
        (x / 2 ^ (order - 52)) ∧
      (shiftToTargetExponent Format.binary64 mantissa exponent accuracy).2 = order - 52 := by
  have low := holds.le
  have high := holds.lt
  rw [mantissa_ofMantissaAndAccuracy] at low high
  have target := targetExponent_normal (log2_of_holds positive low high atLeast below) normal
  obtain ⟨count, distance⟩ := Int.eq_ofNat_of_zero_le (sub_nonneg.mpr long)
  rw [shiftToTargetExponent, target, shiftToExponent, distance]
  refine ⟨?_, ?_⟩
  · have shifted := holds.shiftRight count
    rwa [div_div, ← zpow_natCast, ← zpow_add₀ two_ne_zero,
      show exponent + count = order - 52 by omega] at shifted
  · change exponent + (count : ℤ) = order - 52
    omega

/-- A mantissa of 53 digits stays; one more digit is shifted out. -/
theorem shiftToTargetExponent_full {r : ℕ} {place : ℤ} (low : 2 ^ 52 ≤ r) (high : r ≤ 2 ^ 53)
    (normal : -1074 ≤ place) :
    shiftToTargetExponent Format.binary64 r place .exact =
      if r < 2 ^ 53 then (⟨r, false, false⟩, place) else (⟨2 ^ 52, false, false⟩, place + 1) := by
  split
  · rename_i short
    have leading : r.log2 = 52 := (Nat.log2_eq_iff (by omega)).mpr ⟨low, short⟩
    have target : Format.binary64.targetExponent (totalExponent r place) = 52 + place - 52 :=
      targetExponent_normal (by omega) (by omega)
    rw [shiftToTargetExponent, target, shiftToExponent,
      show (52 + place - 52 - place).toNat = 0 by omega]
    change (_, place + ((0 : ℕ) : ℤ)) = _
    rw [Nat.cast_zero, add_zero]
    rfl
  · have full : r = 2 ^ 53 := by omega
    have leading : (2 ^ 53).log2 = 53 := Nat.log2_two_pow
    have target : Format.binary64.targetExponent (totalExponent (2 ^ 53) place) = 53 + place - 52 :=
      targetExponent_normal (by omega) (by omega)
    rw [full, shiftToTargetExponent, target, shiftToExponent,
      show (53 + place - 52 - place).toNat = 1 by omega]
    rfl

/-- A positive number within the normal range is rounded to a mantissa of 53 digits that is at most
half a unit away, and that is exact if the number has no more digits. -/
theorem roundWithAccuracy_normal (sign : Sign) (positive : 0 < mantissa)
    (holds : Holds (ExtendedMantissa.ofMantissaAndAccuracy mantissa accuracy) (x / 2 ^ exponent))
    (atLeast : 2 ^ order ≤ x) (below : x < 2 ^ (order + 1)) (normal : -1022 ≤ order)
    (long : exponent ≤ order - 52) :
    ∃ (r : ℕ) (place : ℤ) (nonzero : 0 < r),
      roundWithAccuracy Format.binary64 sign mantissa exponent accuracy =
        .finite sign r place nonzero ∧
      r.log2 = 52 ∧ order - 52 ≤ place ∧ place ≤ order - 51 ∧
      |(r : ℚ) * 2 ^ place - x| ≤ 2 ^ (order - 53) ∧
      ∀ n : ℕ, x = n * 2 ^ (order - 52) → (r : ℚ) * 2 ^ place = x := by
  obtain ⟨shifted, place⟩ :=
    shiftToTargetExponent_holds positive holds atLeast below normal long
  generalize first : shiftToTargetExponent Format.binary64 mantissa exponent accuracy = result at *
  obtain ⟨extended, last⟩ := result
  obtain rfl : last = order - 52 := place
  dsimp only at shifted
  have unit : (0 : ℚ) < 2 ^ (order - 52) := by positivity
  have least : (2 : ℚ) ^ (52 : ℕ) ≤ x / 2 ^ (order - 52) := by
    rwa [le_div_iff₀ unit, ← zpow_natCast, ← zpow_add₀ two_ne_zero, Nat.cast_ofNat, add_sub_cancel]
  have greatest : x / 2 ^ (order - 52) < (2 : ℚ) ^ (53 : ℕ) := by
    rwa [div_lt_iff₀ unit, ← zpow_natCast, ← zpow_add₀ two_ne_zero,
      show ((53 : ℕ) : ℤ) + (order - 52) = order + 1 by omega]
  obtain ⟨low, high⟩ := shifted.rounded_bounds least greatest
  have error := shifted.rounded_error
  rw [show order - 52 - 1 = order - 53 by omega] at error
  rw [roundWithAccuracy, first]
  dsimp only
  rw [shiftToTargetExponent_full low high (by omega)]
  split
  · rename_i short
    have nonzero : extended.roundedMantissa ≠ 0 := by omega
    refine ⟨extended.roundedMantissa, order - 52, by omega, dif_neg nonzero, ?_,
      le_refl _, by omega,
      error, fun n whole => shifted.rounded_exact whole⟩
    exact (Nat.log2_eq_iff nonzero).mpr ⟨low, short⟩
  · have full : extended.roundedMantissa = 2 ^ 53 := by omega
    have carried : ((2 ^ 52 : ℕ) : ℚ) * 2 ^ (order - 52 + 1) =
        extended.roundedMantissa * 2 ^ (order - 52) := by
      rw [full, zpow_add_one₀ two_ne_zero]
      push_cast
      ring
    refine ⟨2 ^ 52, order - 52 + 1, by positivity, rfl,
      Nat.log2_two_pow, by omega, by omega, ?_, ?_⟩
    · rw [carried]
      exact error
    · rw [carried]
      exact fun n whole => shifted.rounded_exact whole

end Rounded

end Scriptlet.Number
