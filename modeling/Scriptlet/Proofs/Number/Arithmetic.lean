import Scriptlet.Proofs.Number.Packing
import Scriptlet.Proofs.Number.Rounding

/-!
# Arithmetic on numbers

Products, quotients and differences of numbers are the exact ones, rounded, as long as these lie in
the normal range.
-/

namespace Scriptlet.Number

open Float.Model (Format UnpackedFloat totalExponent)
open Float.Model.UnpackedFloat

/-! ## Roundings -/

/-- A number is the rounding of a rational one: it is half a unit away at most, and it is exact if
53 digits are enough. -/
structure Rounds (x q : ℚ) : Prop where
  near : ∀ order : ℤ, |x| < 2 ^ (order + 1) → |q - x| ≤ 2 ^ (order - 53)
  exact : ∀ (n place : ℤ), x = n * 2 ^ place → n.natAbs < 2 ^ 53 → q = x

/-- The rational numbers in the normal range. -/
def Normal (x : ℚ) : Prop :=
  2 ^ (-1022 : ℤ) ≤ |x| ∧ |x| < 2 ^ (1023 : ℤ)

theorem Normal.of_bounds {x : ℚ} {a b : ℤ} (low : 2 ^ a ≤ |x|) (high : |x| < 2 ^ b)
    (least : -1022 ≤ a) (greatest : b ≤ 1023) : Normal x :=
  ⟨(zpow_le_zpow_right₀ (by norm_num) least).trans low,
    high.trans_le (zpow_le_zpow_right₀ (by norm_num) greatest)⟩

theorem Rounds.refl (x : ℚ) : Rounds x x :=
  ⟨fun _ _ => by simp; positivity, fun _ _ _ _ => rfl⟩

theorem abs_signed (sign : Sign) (x : ℚ) : |signed sign x| = |x| := by
  cases sign
  · exact abs_neg x
  · rfl

theorem Rounds.signed {x q : ℚ} (rounds : Rounds x q) (sign : Sign) :
    Rounds (signed sign x) (signed sign q) := by
  cases sign with
  | positive => exact rounds
  | negative =>
      refine ⟨fun order small => ?_, fun n place whole short => ?_⟩
      · rw [Number.signed, Number.signed, ← neg_sub', abs_neg]
        exact rounds.near order (abs_neg x ▸ small)
      · have opposite : x = (-n : ℤ) * 2 ^ place := by
          rw [Int.cast_neg, neg_mul, ← whole]
          exact (neg_neg x).symm
        exact congrArg Neg.neg (rounds.exact (-n) place opposite (by omega))

/-- The place of the first digit of a positive number in the normal range. -/
theorem exists_order {x : ℚ} (positive : 0 < x) (normal : Normal x) :
    ∃ order : ℤ, 2 ^ order ≤ x ∧ x < 2 ^ (order + 1) ∧ -1022 ≤ order ∧ order ≤ 1022 := by
  obtain ⟨low, high⟩ := normal
  rw [abs_of_pos positive] at low high
  have atLeast : (2 : ℚ) ^ Int.log 2 x ≤ x := by
    exact_mod_cast Int.zpow_log_le_self (b := 2) (by norm_num) positive
  have below : x < (2 : ℚ) ^ (Int.log 2 x + 1) := by
    exact_mod_cast Int.lt_zpow_succ_log_self (b := 2) (by norm_num) x
  have above := lt_of_two_zpow_lt (lt_of_le_of_lt low below)
  have under := lt_of_two_zpow_lt (lt_of_le_of_lt atLeast high)
  exact ⟨Int.log 2 x, atLeast, below, by omega, by omega⟩

/-- The order of a number is at most one more than that of its rounding. -/
theorem Rounds.abs_lt {x q : ℚ} {order : ℤ} (rounds : Rounds x q) (small : |q| < 2 ^ order) :
    |x| < 2 ^ (order + 1) := by
  rcases eq_or_ne x 0 with rfl | nonzero
  · rw [abs_zero]
    positivity
  have atLeast : (2 : ℚ) ^ Int.log 2 |x| ≤ |x| := by
    exact_mod_cast Int.zpow_log_le_self (b := 2) (by norm_num) (abs_pos.mpr nonzero)
  have below : |x| < (2 : ℚ) ^ (Int.log 2 |x| + 1) := by
    exact_mod_cast Int.lt_zpow_succ_log_self (b := 2) (by norm_num) |x|
  have near := rounds.near _ below
  generalize Int.log 2 |x| = log at atLeast below near
  have half : (2 : ℚ) ^ (log - 1) ≤ |q| := by
    have split : (2 : ℚ) ^ log = 2 ^ (log - 1) + 2 ^ (log - 1) := by
      rw [zpow_sub₀ two_ne_zero]
      ring
    have few : (2 : ℚ) ^ (log - 53) ≤ 2 ^ (log - 1) := zpow_le_zpow_right₀ (by norm_num) (by omega)
    have apart : |x| - |q| ≤ |q - x| := by
      rw [abs_sub_comm]
      exact abs_sub_abs_le_abs_sub x q
    linarith
  have places := lt_of_two_zpow_lt (lt_of_le_of_lt half small)
  exact below.trans_le (zpow_le_zpow_right₀ (by norm_num) (by omega))

/-! ## Rounded results -/

section Results

variable {mantissa : ℕ} {exponent : ℤ} {accuracy : Accuracy} {x : ℚ}

/-- What is rounded and packed is the rounding of the exact number, if that is in the normal
range. -/
theorem value?_roundWithAccuracy (sign : Sign) (nonzero : 0 < mantissa)
    (holds : Holds (ExtendedMantissa.ofMantissaAndAccuracy mantissa accuracy) (x / 2 ^ exponent))
    (positive : 0 < x) (normal : Normal x)
    (long : ∀ order : ℤ, -1022 ≤ order → x < 2 ^ (order + 1) → exponent ≤ order - 52) :
    ∃ q, value? (.ofModel (.pack (roundWithAccuracy Format.binary64 sign mantissa exponent
      accuracy))) = some q ∧ Rounds (signed sign x) q := by
  obtain ⟨order, atLeast, below, low, high⟩ := exists_order positive normal
  obtain ⟨r, place, kept, result, leading, least, greatest, near, exact⟩ :=
    roundWithAccuracy_normal sign nonzero holds atLeast below low (long order low below)
  refine ⟨signed sign (r * 2 ^ place), ?_, Rounds.signed ⟨fun other small => ?_, ?_⟩ sign⟩
  · rw [result, value?]
    change unpackedValue? (Float.Model.pack _).unpack = _
    rw [unpack_pack sign kept leading (by omega) (by omega)]
    rfl
  · rw [abs_of_pos positive] at small
    have one : (1 : ℚ) < 2 := by norm_num
    have later := lt_of_two_zpow_lt (lt_of_le_of_lt atLeast small)
    exact near.trans (zpow_le_zpow_right₀ one.le (by omega))
  · intro n place whole short
    have unit : (0 : ℚ) < 2 ^ place := by positivity
    -- The digits of the number end before the last digit that is kept.
    have bound : x < 2 ^ (53 + place) := by
      have small : (n : ℚ) < 2 ^ 53 := by
        have : n < 2 ^ 53 := by omega
        exact_mod_cast this
      rw [whole, zpow_add₀ two_ne_zero]
      exact mul_lt_mul_of_pos_right small unit
    have later := lt_of_two_zpow_lt (lt_of_le_of_lt atLeast bound)
    have up : 0 < n := by
      have : (0 : ℚ) < n := by
        rw [whole] at positive
        exact (mul_pos_iff_of_pos_right unit).mp positive
      exact_mod_cast this
    obtain ⟨count, distance⟩ := Int.eq_ofNat_of_zero_le (by omega : 0 ≤ place - (order - 52))
    refine exact (n.toNat * 2 ^ count) ?_
    have cast : ((n.toNat : ℕ) : ℚ) = n := by
      exact_mod_cast Int.toNat_of_nonneg up.le
    rw [whole, show place = (count : ℤ) + (order - 52) by omega,
      zpow_add₀ two_ne_zero, zpow_natCast]
    push_cast
    rw [cast]
    ring

/-- An integer times a power of two is rounded after it has been given enough digits. -/
theorem value?_round (sign : Sign) (nonzero : 0 < mantissa)
    (normal : Normal (mantissa * 2 ^ exponent)) :
    ∃ q, value? (.ofModel (.pack (UnpackedFloat.round Format.binary64 sign mantissa exponent))) =
      some q ∧ Rounds (signed sign (mantissa * 2 ^ exponent)) q := by
  let target := Format.binary64.targetExponent (totalExponent mantissa exponent)
  let count := (exponent - target).toNat
  have value :
      ((mantissa <<< count : ℕ) : ℚ) = mantissa * 2 ^ exponent / 2 ^ (exponent - count) := by
    rw [eq_div_iff (by positivity), Nat.shiftLeft_eq, zpow_sub₀ two_ne_zero, zpow_natCast]
    push_cast
    field_simp
  have longer : 0 < mantissa <<< count := by
    rw [Nat.shiftLeft_eq]
    positivity
  have holds := holds_exact (mantissa <<< count)
  rw [value] at holds
  refine value?_roundWithAccuracy sign longer holds (by positivity) normal fun order low below => ?_
  have least : (2 : ℚ) ^ ((mantissa.log2 : ℤ) + exponent) ≤ mantissa * 2 ^ exponent := by
    rw [zpow_add₀ two_ne_zero, zpow_natCast]
    refine mul_le_mul_of_nonneg_right ?_ (by positivity)
    exact_mod_cast Nat.log2_self_le nonzero.ne'
  have leading := lt_of_two_zpow_lt (lt_of_le_of_lt least below)
  have place : target = max (mantissa.log2 + 1 + exponent - 53) (-1074) := by
    simp only [target, Format.targetExponent, totalExponent, Format.mantissaBits,
      Format.minExponent]
    norm_num
  omega

end Results

/-! ## Operations -/

section Operations

variable {x y : Float} {p q : ℚ}

/-- A finite number is zero or an integer with at most 53 digits times a power of two. -/
theorem cases_of_value? (value : value? x = some p) :
    (∃ sign, x.toModel.unpack = .zero sign ∧ p = 0) ∨
      ∃ sign mantissa exponent positive,
        x.toModel.unpack = .finite sign mantissa exponent positive ∧
          p = signed sign (mantissa * 2 ^ exponent) ∧ mantissa < 2 ^ 53 ∧ -1074 ≤ exponent ∧
          exponent ≤ 971 ∧ (mantissa.log2 = 52 ∨ exponent = -1074) := by
  unfold value? at value
  cases form : x.toModel.unpack with
  | infinity => cases form ▸ value
  | notANumber => cases form ▸ value
  | zero sign =>
      rw [form] at value
      cases value
      exact .inl ⟨sign, rfl, rfl⟩
  | finite sign mantissa exponent positive =>
      rw [form] at value
      cases value
      exact .inr ⟨sign, mantissa, exponent, positive, rfl, rfl, bounds_of_unpack form⟩

theorem value?_zero (sign : Sign) : value? (.ofModel (.pack (.zero sign))) = some 0 := by
  cases sign <;> rfl

theorem signed_mul (s t : Sign) (p q : ℚ) : signed s p * signed t q = signed (s * t) (p * q) := by
  cases s <;> cases t
  · exact neg_mul_neg p q
  · exact neg_mul p q
  · exact mul_neg p q
  · rfl

theorem normal_signed {sign : Sign} {p : ℚ} (normal : Normal (signed sign p)) : Normal p := by
  unfold Normal at normal ⊢
  rwa [abs_signed] at normal

theorem ne_zero_of_signed {s : Sign} (positive : 0 < p) : signed s p ≠ 0 := by
  cases s
  · exact neg_ne_zero.mpr positive.ne'
  · exact positive.ne'

/-- The product of two mantissas has no fewer digits than are kept. -/
theorem mul_long {m n : ℕ} {e f order : ℤ} (positive : 0 < m) (positive' : 0 < n)
    (shape : m.log2 = 52 ∨ e = -1074) (shape' : n.log2 = 52 ∨ f = -1074) (low : -1022 ≤ order)
    (below : ((m * n : ℕ) : ℚ) * 2 ^ (e + f) < 2 ^ (order + 1)) : e + f ≤ order - 52 := by
  by_cases long : 2 ^ 52 ≤ m * n
  · have least : (2 : ℚ) ^ (52 + (e + f)) ≤ (m * n : ℕ) * 2 ^ (e + f) := by
      rw [zpow_add₀ two_ne_zero]
      exact mul_le_mul_of_nonneg_right (by exact_mod_cast long) (by positivity)
    have := lt_of_two_zpow_lt (lt_of_le_of_lt least below)
    omega
  · -- Neither mantissa is full, so both exponents are the least ones.
    have small : e = -1074 := by
      refine shape.resolve_left fun full => long ?_
      have := ((Nat.log2_eq_iff positive.ne').mp full).1
      nlinarith
    have small' : f = -1074 := by
      refine shape'.resolve_left fun full => long ?_
      have := ((Nat.log2_eq_iff positive'.ne').mp full).1
      nlinarith
    omega

theorem value?_mul (left : value? x = some p) (right : value? y = some q)
    (range : p * q = 0 ∨ Normal (p * q)) :
    ∃ r, value? (x * y) = some r ∧ Rounds (p * q) r := by
  change ∃ r, value? (.ofModel (.pack (UnpackedFloat.mul Format.binary64 x.toModel.unpack
    y.toModel.unpack))) = some r ∧ _
  rcases cases_of_value? left with ⟨s, form, rfl⟩ | ⟨s, m, e, positive, form, rfl, -, -, -, shape⟩
  · rcases cases_of_value? right with ⟨t, form', rfl⟩ | ⟨t, n, f, positive', form', rfl, -⟩
    all_goals
      rw [form, form', zero_mul]
      exact ⟨0, value?_zero _, .refl 0⟩
  · rcases cases_of_value? right with
      ⟨t, form', rfl⟩ | ⟨t, n, f, positive', form', rfl, -, -, -, shape'⟩
    · rw [form, form', mul_zero]
      exact ⟨0, value?_zero _, .refl 0⟩
    · have product : (m : ℚ) * 2 ^ e * (n * 2 ^ f) = (m * n : ℕ) * 2 ^ (e + f) := by
        rw [zpow_add₀ two_ne_zero]
        push_cast
        ring
      rw [form, form']
      rw [signed_mul, product] at range ⊢
      have nonzero : 0 < m * n := Nat.mul_pos positive positive'
      have unit : (0 : ℚ) < 2 ^ (e + f) := by positivity
      have total : (0 : ℚ) < (m * n : ℕ) * 2 ^ (e + f) :=
        mul_pos (by exact_mod_cast nonzero) unit
      have normal := normal_signed (range.resolve_left (ne_zero_of_signed total))
      have holds := holds_exact (m * n)
      rw [← mul_div_cancel_right₀ ((m * n : ℕ) : ℚ) unit.ne'] at holds
      exact value?_roundWithAccuracy (s * t) nonzero holds total normal fun order low below =>
        mul_long positive positive' shape shape' low below

theorem signed_div (s t : Sign) (p q : ℚ) : signed s p / signed t q = signed (s / t) (p / q) := by
  cases s <;> cases t
  · exact neg_div_neg_eq p q
  · exact neg_div q p
  · exact div_neg p
  · rfl

/-- The quotient is cut off far enough behind its first digit. -/
theorem divCore_long {m n : ℕ} {e f order : ℤ} (positive : 0 < m) (positive' : 0 < n)
    (low : -1022 ≤ order) (below : (m : ℚ) * 2 ^ e / (n * 2 ^ f) < 2 ^ (order + 1)) :
    (divCore Format.binary64 m e n f).2.1 ≤ order - 52 := by
  have unit : (0 : ℚ) < 2 ^ f := by positivity
  have cast : (0 : ℚ) < n := by exact_mod_cast positive'
  have least : (2 : ℚ) ^ (m.log2 : ℤ) ≤ m := by
    rw [zpow_natCast]
    exact_mod_cast Nat.log2_self_le positive.ne'
  have greatest : (n : ℚ) ≤ 2 ^ (n.log2 + 1 : ℤ) := by
    have : n ≤ 2 ^ (n.log2 + 1) := Nat.lt_log2_self.le
    exact_mod_cast this
  have leading : (2 : ℚ) ^ (m.log2 + e) < 2 ^ (order + 1 + (n.log2 + 1) + f) := by
    rw [div_lt_iff₀ (mul_pos cast unit)] at below
    calc (2 : ℚ) ^ (m.log2 + e) ≤ m * 2 ^ e := by
          rw [zpow_add₀ two_ne_zero]
          exact mul_le_mul_of_nonneg_right least (by positivity)
      _ < 2 ^ (order + 1) * (n * 2 ^ f) := below
      _ ≤ 2 ^ (order + 1) * (2 ^ (n.log2 + 1 : ℤ) * 2 ^ f) := by gcongr
      _ = 2 ^ (order + 1 + (n.log2 + 1) + f) := by
          rw [add_assoc (order + 1), zpow_add₀ two_ne_zero (order + 1),
            zpow_add₀ two_ne_zero (n.log2 + 1 : ℤ) f]
  have places := lt_of_two_zpow_lt leading
  simp only [divCore, Format.targetExponent, totalExponent, Format.mantissaBits, Format.minExponent]
  norm_num
  omega

/-- The quotient that is cut off stands for the exact one. -/
theorem divCore_holds (m : ℕ) {n : ℕ} (e f : ℤ) (positive' : 0 < n) :
    Holds (ExtendedMantissa.ofMantissaAndAccuracy (divCore Format.binary64 m e n f).1
        (divCore Format.binary64 m e n f).2.2)
      ((m : ℚ) * 2 ^ e / (n * 2 ^ f) / 2 ^ (divCore Format.binary64 m e n f).2.1) := by
  let target := (divCore Format.binary64 m e n f).2.1
  have least : target ≤ e - f := min_le_left _ _
  obtain ⟨count, distance⟩ := Int.eq_ofNat_of_zero_le (sub_nonneg.mpr least)
  have shifted : (m : ℚ) * 2 ^ e / (n * 2 ^ f) / 2 ^ target = (m <<< count : ℕ) / n := by
    have cast : (n : ℚ) ≠ 0 := by exact_mod_cast positive'.ne'
    rw [Nat.shiftLeft_eq, show e = count + f + target by omega, zpow_add₀ two_ne_zero,
      zpow_add₀ two_ne_zero, zpow_natCast]
    push_cast
    field_simp
  have same : (e - f - target).toNat = count := by omega
  change Holds (ExtendedMantissa.ofMantissaAndAccuracy (m <<< (e - f - target).toNat / n)
    (accuracyOfFraction (m <<< (e - f - target).toNat % n) n)) (_ / 2 ^ target)
  rw [shifted, same]
  exact holds_quotient (m <<< count) positive'

theorem value?_div (left : value? x = some p) (right : value? y = some q) (divisor : q ≠ 0)
    (range : p = 0 ∨ Normal (p / q)) :
    ∃ r, value? (x / y) = some r ∧ Rounds (p / q) r := by
  change ∃ r, value? (.ofModel (.pack (UnpackedFloat.div Format.binary64 x.toModel.unpack
    y.toModel.unpack))) = some r ∧ _
  rcases cases_of_value? right with ⟨t, form', rfl⟩ | ⟨t, n, f, positive', form', rfl, -⟩
  · exact absurd rfl divisor
  rcases cases_of_value? left with ⟨s, form, rfl⟩ | ⟨s, m, e, positive, form, rfl, -⟩
  · rw [form, form', zero_div]
    exact ⟨0, value?_zero _, .refl 0⟩
  rw [form, form']
  have total : (0 : ℚ) < m * 2 ^ e / (n * 2 ^ f) := by positivity
  have normal : Normal (m * 2 ^ e / (n * 2 ^ f)) := by
    rw [signed_div] at range
    exact normal_signed (range.resolve_left (ne_zero_of_signed (by positivity)))
  rw [signed_div]
  have holds := divCore_holds m e f positive'
  have long (order : ℤ) (low : -1022 ≤ order)
      (below : (m : ℚ) * 2 ^ e / (n * 2 ^ f) < 2 ^ (order + 1)) :=
    divCore_long positive positive' low below
  -- The exponent lies below the first digit of the quotient, so not all of it is cut off.
  have nonzero : 0 < (divCore Format.binary64 m e n f).1 := by
    obtain ⟨order, atLeast, below, low, -⟩ := exists_order total normal
    have one : (1 : ℚ) ≤ m * 2 ^ e / (n * 2 ^ f) / 2 ^ (divCore Format.binary64 m e n f).2.1 := by
      rw [one_le_div (by positivity)]
      refine le_trans (zpow_le_zpow_right₀ (by norm_num) ?_) atLeast
      have := long order low below
      omega
    have above := lt_of_le_of_lt one holds.lt
    rw [mantissa_ofMantissaAndAccuracy] at above
    have : (0 : ℚ) < (divCore Format.binary64 m e n f).1 := by linarith
    exact_mod_cast this
  exact value?_roundWithAccuracy (s / t) nonzero holds total normal long

/-- A number in the normal range can be given another sign. -/
theorem value?_pack {s : Sign} {m : ℕ} {e : ℤ} {positive : 0 < m}
    (form : x.toModel.unpack = .finite s m e positive) (normal : Normal (m * 2 ^ e)) (t : Sign) :
    value? (.ofModel (.pack (.finite t m e positive))) = some (signed t (m * 2 ^ e)) := by
  obtain ⟨-, low, high, shape⟩ := bounds_of_unpack form
  have leading : m.log2 = 52 := by
    by_contra other
    have short : m < 2 ^ 52 := by
      obtain ⟨short, -⟩ := bounds_of_unpack form
      by_contra long
      exact other ((Nat.log2_eq_iff positive.ne').mpr ⟨by omega, short⟩)
    have small : (m : ℚ) * 2 ^ e < 2 ^ (-1022 : ℤ) := by
      rw [shape.resolve_left other, show (-1022 : ℤ) = (52 : ℕ) + -1074 by norm_num,
        zpow_add₀ two_ne_zero, zpow_natCast]
      refine mul_lt_mul_of_pos_right ?_ (by positivity)
      exact_mod_cast short
    have := normal.1
    rw [abs_of_nonneg (by positivity)] at this
    linarith
  change unpackedValue? (Float.Model.pack _).unpack = _
  rw [unpack_pack t positive leading low high]
  rfl

theorem signed_neg (s : Sign) (p : ℚ) : signed (-s) p = -signed s p := by
  cases s
  · exact (neg_neg p).symm
  · rfl

theorem value?_neg (value : value? x = some p) (range : p = 0 ∨ Normal p) :
    value? (-x) = some (-p) := by
  change value? (.ofModel (.pack x.toModel.unpack.neg)) = _
  rcases cases_of_value? value with ⟨s, form, rfl⟩ | ⟨s, m, e, positive, form, rfl, -⟩
  · rw [form, neg_zero]
    exact value?_zero _
  · have normal := normal_signed (range.resolve_left (ne_zero_of_signed (by positivity)))
    rw [form, ← signed_neg]
    exact value?_pack form normal (-s)

theorem apply_mul (s : Sign) (n : ℕ) (e : ℤ) :
    ((s.apply n : ℤ) : ℚ) * 2 ^ e = signed s (n * 2 ^ e) := by
  cases s <;> simp [Sign.apply, signed]

theorem value?_normalize (k e : ℤ) (zero : Sign)
    (range : (k : ℚ) * 2 ^ e = 0 ∨ Normal (k * 2 ^ e)) :
    ∃ r, value? (.ofModel (.pack (UnpackedFloat.normalize Format.binary64 k e zero))) = some r ∧
      Rounds (k * 2 ^ e) r := by
  obtain ⟨s, n, rfl⟩ : ∃ (s : Sign) (n : ℕ), k = s.apply n := by
    rcases Int.eq_nat_or_neg k with ⟨n, rfl | rfl⟩
    · exact ⟨.positive, n, rfl⟩
    · exact ⟨.negative, n, rfl⟩
  rw [apply_mul] at range ⊢
  rcases Nat.eq_zero_or_pos n with rfl | positive
  · have none : signed s ((0 : ℕ) * 2 ^ e) = 0 := by
      cases s <;> simp [signed]
    rw [none]
    cases s <;> exact ⟨0, value?_zero zero, .refl 0⟩
  · have normal := normal_signed (range.resolve_left (ne_zero_of_signed (by positivity)))
    have form : UnpackedFloat.normalize Format.binary64 (s.apply n) e zero =
        UnpackedFloat.round Format.binary64 s n e := by
      cases s with
      | positive =>
          have order : compare (n : ℤ) 0 = .gt := Int.compare_eq_gt.mpr (by omega)
          simp [UnpackedFloat.normalize, Sign.apply, order]
      | negative =>
          have order : compare (-n : ℤ) 0 = .lt := Int.compare_eq_lt.mpr (by omega)
          simp [UnpackedFloat.normalize, Sign.apply, order]
    rw [form]
    exact value?_round s positive normal

/-- A mantissa at a smaller exponent. -/
theorem decreaseExponent_value (s : Sign) (m : ℕ) {e t : ℤ} (smaller : t ≤ e) :
    ((s.apply (decreaseExponent m e t).1 : ℤ) : ℚ) * 2 ^ t = signed s (m * 2 ^ e) := by
  obtain ⟨count, distance⟩ := Int.eq_ofNat_of_zero_le (sub_nonneg.mpr smaller)
  have same : (e - t).toNat = count := by omega
  have value : ((m <<< count : ℕ) : ℚ) * 2 ^ t = m * 2 ^ e := by
    rw [Nat.shiftLeft_eq, show e = count + t by omega, zpow_add₀ two_ne_zero, zpow_natCast]
    push_cast
    ring
  rw [decreaseExponent, same]
  cases s
  · simp only [Sign.apply, signed, Int.cast_neg, Int.cast_natCast, neg_mul, value]
  · simp only [Sign.apply, signed, Int.cast_natCast, value]

theorem value?_sub (left : value? x = some p) (right : value? y = some q)
    (range : p - q = 0 ∨ Normal (p - q)) :
    ∃ r, value? (x - y) = some r ∧ Rounds (p - q) r := by
  change ∃ r, value? (.ofModel (.pack (UnpackedFloat.sub Format.binary64 x.toModel.unpack
    y.toModel.unpack))) = some r ∧ _
  rcases cases_of_value? left with ⟨s, form, rfl⟩ | ⟨s, m, e, positive, form, rfl, -⟩
  · rcases cases_of_value? right with ⟨t, form', rfl⟩ | ⟨t, n, f, positive', form', rfl, -⟩
    · rw [form, form', sub_zero]
      cases s <;> cases t <;> exact ⟨0, value?_zero _, .refl 0⟩
    · rw [zero_sub, ← signed_neg] at range ⊢
      have normal := normal_signed (range.resolve_left (ne_zero_of_signed (by positivity)))
      rw [form, form']
      exact ⟨_, value?_pack form' normal (-t), .refl _⟩
  · rcases cases_of_value? right with ⟨t, form', rfl⟩ | ⟨t, n, f, positive', form', rfl, -⟩
    · rw [sub_zero] at range ⊢
      have normal := normal_signed (range.resolve_left (ne_zero_of_signed (by positivity)))
      rw [form, form']
      exact ⟨_, value?_pack form normal s, .refl _⟩
    · have exact : signed s (m * 2 ^ e) - signed t (n * 2 ^ f) =
          ((s.apply (decreaseExponent m e (min e f)).1 -
            t.apply (decreaseExponent n f (min e f)).1 : ℤ) : ℚ) * 2 ^ min e f := by
        rw [Int.cast_sub, sub_mul, decreaseExponent_value s m (min_le_left e f),
          decreaseExponent_value t n (min_le_right e f)]
      rw [form, form']
      rw [exact] at range ⊢
      exact value?_normalize _ _ _ range

theorem eq_zero_or_normal {n : ℤ} (short : n.natAbs < 2 ^ 53) : (n : ℚ) = 0 ∨ Normal n := by
  by_cases zero : n = 0
  · exact .inl (by exact_mod_cast zero)
  · right
    have low : 1 ≤ |n| := Int.one_le_abs zero
    have high : |n| < 2 ^ 53 := by
      rw [Int.abs_eq_natAbs]
      exact_mod_cast short
    have low' : (1 : ℚ) ≤ |(n : ℚ)| := by exact_mod_cast low
    have high' : |(n : ℚ)| < 2 ^ 53 := by exact_mod_cast high
    exact .of_bounds (a := 0) (b := 53) (by simpa using low')
      (by exact_mod_cast high') (by norm_num)
      (by norm_num)

theorem value?_one : value? (Float.ofBits 0x3FF0000000000000) = some 1 := by
  have form : shape (Float.ofBits 0x3FF0000000000000) = .finite ⟨false, 2 ^ 52, -52⟩ := by
    decide +kernel
  rw [value?_eq, form]
  norm_num [Parts.value, Parts.signedMantissa]

theorem value?_ofScientific {n : ℕ} (short : n < 2 ^ 53) :
    value? (Float.ofScientific n false 0) = some (n : ℚ) := by
  have range := eq_zero_or_normal (n := n) (by simpa using short)
  rw [Int.cast_natCast] at range
  have same : n.toUInt64.toNat = n := by
    rw [Nat.toUInt64, UInt64.toNat_ofNat']
    omega
  have value : value? n.toUInt64.toFloat = some (n : ℚ) := by
    obtain ⟨r, result, rounds⟩ := value?_normalize n 0 .positive (by simpa using range)
    have exact := rounds.exact n 0 rfl (by simpa using short)
    rw [zpow_zero, mul_one, Int.cast_natCast] at exact
    rw [← exact, ← result]
    change value? (.ofModel (.pack (UnpackedFloat.normalize Format.binary64 n.toUInt64.toNat 0
      .positive))) = _
    rw [same]
  obtain ⟨r, result, rounds⟩ := value?_mul value value?_one (by simpa using range)
  have exact := rounds.exact n 0 (by simp) (by simpa using short)
  rw [mul_one] at exact
  rw [Float.ofScientific, dif_pos ⟨short, by decide⟩, ← exact, ← result]
  rfl

/-- An integer that is short enough is a number. -/
theorem value?_ofInt {n : ℤ} (short : n.natAbs < 2 ^ 53) : value? (ofInt n) = some (n : ℚ) := by
  have magnitude := value?_ofScientific short
  have size : ((n.natAbs : ℤ) : ℚ) = |(n : ℚ)| := by
    rw [Int.natCast_natAbs, Int.cast_abs]
  rw [← Int.cast_natCast, size] at magnitude
  unfold ofInt
  dsimp only
  split
  · rename_i below
    have range := eq_zero_or_normal (by rwa [Int.natAbs_abs] : |n|.natAbs < 2 ^ 53)
    rw [Int.cast_abs] at range
    have down : (n : ℚ) < 0 := by exact_mod_cast below
    rw [value?_neg magnitude range, abs_of_neg down, neg_neg]
  · rename_i above
    have up : (0 : ℚ) ≤ n := by exact_mod_cast not_lt.mp above
    rw [magnitude, abs_of_nonneg up]

end Operations

/-! ## Fractions -/

section Fractions

variable {x : Float} {q : ℚ} {w : ℤ}

theorem abs_lt_of_value? (value : value? x = some q) : |q| < 2 ^ (1024 : ℤ) := by
  rcases cases_of_value? value with ⟨s, -, rfl⟩ | ⟨s, m, e, positive, -, rfl, short, -, high, -⟩
  · rw [abs_zero]
    positivity
  · have small : (m : ℚ) < 2 ^ (53 : ℤ) := by exact_mod_cast short
    rw [abs_signed, abs_of_nonneg (by positivity)]
    calc (m : ℚ) * 2 ^ e < 2 ^ (53 : ℤ) * 2 ^ e := by
          exact mul_lt_mul_of_pos_right small (by positivity)
      _ = 2 ^ (53 + e) := (zpow_add₀ two_ne_zero 53 e).symm
      _ ≤ 2 ^ (1024 : ℤ) := zpow_le_zpow_right₀ (by norm_num) (by omega)

/-- What is left of a number without an integer has no more digits than the number. -/
theorem exists_digits (value : value? x = some q) (near : |q - w| < 1) (less : |q - w| ≤ |q|)
    (sizable : q = 0 ∨ 2 ^ (-900 : ℤ) ≤ |q|) :
    ∃ k e : ℤ, q - w = k * 2 ^ e ∧ k.natAbs < 2 ^ 53 ∧ -1022 ≤ e := by
  rcases cases_of_value? value with ⟨s, -, rfl⟩ | ⟨s, m, e, positive, -, rfl, short, -, -, -⟩
  · rw [abs_zero] at less
    exact ⟨0, 0, by rw [abs_nonpos_iff.mp less]; norm_num, by norm_num, by norm_num⟩
  rcases le_or_gt 0 e with large | small
  · -- The number is an integer itself.
    obtain ⟨count, rfl⟩ := Int.eq_ofNat_of_zero_le large
    rw [← apply_mul, zpow_natCast] at near ⊢
    have apart : |s.apply m * 2 ^ count - w| < 1 := by exact_mod_cast near
    have same : ((s.apply m * 2 ^ count - w : ℤ) : ℚ) = 0 := by
      rw [Int.abs_lt_one_iff.mp apart, Int.cast_zero]
    push_cast at same
    exact ⟨0, 0, by rw [same]; norm_num, by norm_num, by norm_num⟩
  · obtain ⟨count, place⟩ := Int.eq_ofNat_of_zero_le (by omega : 0 ≤ -e)
    have unit : (0 : ℚ) < 2 ^ e := by positivity
    have whole : (2 : ℚ) ^ count * 2 ^ e = 1 := by
      rw [← zpow_natCast, ← zpow_add₀ two_ne_zero, ← place, neg_add_cancel, zpow_zero]
    have digits : signed s (m * 2 ^ e) - w = ((s.apply m - w * 2 ^ count : ℤ) : ℚ) * 2 ^ e := by
      rw [← apply_mul, Int.cast_sub, sub_mul, Int.cast_mul, mul_assoc, Int.cast_pow, Int.cast_ofNat,
        whole, mul_one]
    have size : |signed s (m * 2 ^ e)| = m * 2 ^ e := by
      rw [abs_signed, abs_of_nonneg (by positivity)]
    refine ⟨s.apply m - w * 2 ^ count, e, digits, ?_, ?_⟩
    · rw [digits, abs_mul, abs_of_pos unit, size] at less
      have few : |((s.apply m - w * 2 ^ count : ℤ) : ℚ)| ≤ m := le_of_mul_le_mul_right less unit
      have size : |s.apply m - w * 2 ^ count| ≤ m := by exact_mod_cast few
      rw [Int.abs_eq_natAbs] at size
      omega
    · have low := sizable.resolve_left (ne_zero_of_signed (by positivity))
      have high : (m : ℚ) * 2 ^ e < 2 ^ (53 + e) := by
        rw [zpow_add₀ two_ne_zero]
        exact mul_lt_mul_of_pos_right (by exact_mod_cast short) unit
      rw [size] at low
      have := lt_of_two_zpow_lt (lt_of_le_of_lt low high)
      omega

theorem normal_fraction (value : value? x = some q) (near : |q - w| < 1) (less : |q - w| ≤ |q|)
    (sizable : q = 0 ∨ 2 ^ (-900 : ℤ) ≤ |q|) : q - w = 0 ∨ Normal (q - w) := by
  obtain ⟨k, e, digits, -, low⟩ := exists_digits value near less sizable
  by_cases none : k = 0
  · left
    rw [digits, none, Int.cast_zero, zero_mul]
  · right
    have one : (1 : ℚ) ≤ |(k : ℚ)| := by exact_mod_cast Int.one_le_abs none
    refine .of_bounds (b := 0) ?_ (by simpa using near) low (by norm_num)
    rw [digits, abs_mul, abs_of_pos (by positivity : (0 : ℚ) < 2 ^ e)]
    exact le_mul_of_one_le_left (by positivity) one

/-- The fraction of a number is exact. -/
theorem value?_sub_ofInt (value : value? x = some q) (short : w.natAbs < 2 ^ 53)
    (near : |q - w| < 1) (less : |q - w| ≤ |q|) (sizable : q = 0 ∨ 2 ^ (-900 : ℤ) ≤ |q|) :
    value? (x - ofInt w) = some (q - w) := by
  obtain ⟨k, e, digits, few, -⟩ := exists_digits value near less sizable
  obtain ⟨r, result, rounds⟩ :=
    value?_sub value (value?_ofInt short) (normal_fraction value near less sizable)
  rw [result, rounds.exact k e digits few]

end Fractions

end Scriptlet.Number
