import Mathlib
import Scriptlet.Number.Parts

/-!
# Numbers as rational numbers

A number that is neither infinite nor undefined is a rational number: an integer of at most 53
digits times a power of two.  The parts that a number is taken apart into and its packed form
agree about it.
-/

namespace Scriptlet.Number

open Float.Model (Format UnpackedFloat totalExponent)
open Float.Model.UnpackedFloat

/-! ## Values -/

/-- A rational number with a sign. -/
def signed : Sign → ℚ → ℚ
  | .positive, x => x
  | .negative, x => -x

/-- The rational number that a number taken apart is. -/
def unpackedValue? : UnpackedFloat → Option ℚ
  | .zero _ => some 0
  | .finite sign mantissa exponent _ => some (signed sign (mantissa * 2 ^ exponent))
  | .infinity _ | .notANumber => none

/-- The rational number that a number is. -/
def value? (x : Float) : Option ℚ :=
  unpackedValue? x.toModel.unpack

/-- The mantissa of parts with its sign. -/
def Parts.signedMantissa (parts : Parts) : ℤ :=
  if parts.negative then -(parts.mantissa : ℤ) else parts.mantissa

/-- The rational number that is given by parts. -/
def Parts.value (parts : Parts) : ℚ :=
  parts.signedMantissa * 2 ^ parts.exponent

/-- The parts of a number in terms of its unpacked form. -/
def shapeOf : UnpackedFloat → Shape
  | .zero sign => .finite ⟨sign == .negative, 0, -1074⟩
  | .finite sign mantissa exponent _ => .finite ⟨sign == .negative, mantissa, exponent⟩
  | .infinity sign => .infinite (sign == .negative)
  | .notANumber => .notANumber

theorem toNat_unpackMantissa (bits : BitVec 64) :
    (@unpackMantissa Format.binary64 bits).toNat = bits.toNat % 2 ^ 52 := by
  rw [unpackMantissa_def]
  simp [BitVec.extractLsb'_toNat]

theorem toNat_unpackExponent (bits : BitVec 64) :
    (@unpackExponent Format.binary64 bits).toNat = bits.toNat / 2 ^ 52 % 2 ^ 11 := by
  rw [unpackExponent_def]
  simp [BitVec.extractLsb'_toNat, Nat.shiftRight_eq_div_pow]

theorem unpackSign_eq (bits : BitVec 64) :
    (Sign.ofBitVec (@unpackSign Format.binary64 bits) == .negative) =
      (bits.toNat / 2 ^ 63 % 2 == 1) := by
  have bit : (@unpackSign Format.binary64 bits).toNat = bits.toNat / 2 ^ 63 % 2 := by
    rw [unpackSign_def]
    simp [BitVec.extractLsb'_toNat, Nat.shiftRight_eq_div_pow]
  rw [← bit]
  generalize @unpackSign Format.binary64 bits = sign
  revert sign
  decide

theorem append_leading (mantissa : BitVec 52) :
    (1#1 ++ mantissa).toNat = 2 ^ 52 + mantissa.toNat := by
  rw [BitVec.toNat_append, ← Nat.shiftLeft_add_eq_or_of_lt mantissa.isLt]
  rfl

theorem shape_eq (x : Float) : shape x = shapeOf x.toModel.unpack := by
  have mantissa := toNat_unpackMantissa x.toModel.toBits.toBitVec
  have exponent := toNat_unpackExponent x.toModel.toBits.toBitVec
  have sign := unpackSign_eq x.toModel.toBits.toBitVec
  have bits : x.toBits.toNat = x.toModel.toBits.toBitVec.toNat := rfl
  simp only [shape, bits, Nat.pow_eq, ← mantissa, ← exponent, ← sign]
  unfold Float.Model.unpack UnpackedFloat.unpack
  dsimp only
  have topmost (e : BitVec 11) : e.toNat = 2 ^ 11 - 1 ↔ e = -1#11 := by
    rw [← BitVec.toNat_inj]
    rfl
  have lowest (e : BitVec 11) : e.toNat = 0 ↔ e = 0#11 := by
    rw [← BitVec.toNat_inj]
    rfl
  have empty (m : BitVec 52) : m.toNat = 0 ↔ m = 0#52 := by
    rw [← BitVec.toNat_inj]
    rfl
  simp only [topmost, lowest, empty]
  split
  · split <;> rfl
  · split
    · rename_i subnormal
      have none := (lowest _).mpr subnormal
      split
      · rename_i zero
        rw [shapeOf, (empty _).mpr zero]
      · simp only [shapeOf, none]
        rfl
    · rw [shapeOf, append_leading]
      rfl

/-- The value of a number in terms of its parts. -/
theorem value?_eq (x : Float) : value? x = match shape x with
    | .finite parts => some parts.value
    | _ => none := by
  rw [shape_eq, value?]
  rcases x.toModel.unpack with sign | _ | sign | ⟨sign, mantissa, exponent, _⟩
  · rfl
  · rfl
  · simp [shapeOf, unpackedValue?, Parts.value, Parts.signedMantissa]
  · cases sign <;> simp [shapeOf, unpackedValue?, Parts.value, Parts.signedMantissa, signed]

/-! ## Packed numbers -/

/-- The mantissa of a number has at most 53 digits, and fewer only at the least exponent. -/
theorem bounds_of_unpack {model : Float.Model} {sign : Sign} {mantissa : ℕ} {exponent : ℤ}
    {positive : 0 < mantissa} (form : model.unpack = .finite sign mantissa exponent positive) :
    mantissa < 2 ^ 53 ∧ -1074 ≤ exponent ∧ exponent ≤ 971 ∧
      (mantissa.log2 = 52 ∨ exponent = -1074) := by
  have digits := (@unpackMantissa Format.binary64 model.toBits.toBitVec).isLt
  have places := (@unpackExponent Format.binary64 model.toBits.toBitVec).isLt
  unfold Float.Model.unpack UnpackedFloat.unpack at form
  dsimp only [Format.exponentBias] at form digits places
  split at form
  · split at form <;> cases form
  · rename_i bounded
    split at form
    · rename_i subnormal
      split at form
      · cases form
      · cases form
        rw [subnormal]
        refine ⟨by omega, by decide, by decide, .inr (by decide)⟩
    · rename_i present
      cases form
      have high : (@unpackExponent Format.binary64 model.toBits.toBitVec).toNat ≠ 2047 :=
        fun same => bounded (BitVec.eq_of_toNat_eq same)
      have low : (@unpackExponent Format.binary64 model.toBits.toBitVec).toNat ≠ 0 :=
        fun same => present (BitVec.eq_of_toNat_eq same)
      have bias : ((2 ^ (11 - 1) - 1 : ℕ) : ℤ) + (52 : ℕ) = 1075 := by norm_num
      have leading : (1#1 ++ @unpackMantissa Format.binary64
          model.toBits.toBitVec).toNat.log2 = 52 := by
        rw [append_leading]
        exact (Nat.log2_eq_iff (by omega)).mpr ⟨by omega, by omega⟩
      refine ⟨?_, ?_, ?_, .inl leading⟩
      · rw [append_leading]
        omega
      · rw [bias]
        omega
      · rw [bias]
        omega

/-- A number in the normal range is the same after it has been packed. -/
theorem unpack_pack (sign : Sign) {mantissa : ℕ} {exponent : ℤ} (positive : 0 < mantissa)
    (leading : mantissa.log2 = 52) (low : -1074 ≤ exponent) (high : exponent ≤ 971) :
    (Float.Model.pack (.finite sign mantissa exponent positive)).unpack =
      .finite sign mantissa exponent positive := by
  obtain ⟨least, greatest⟩ := (Nat.log2_eq_iff positive.ne').mp leading
  obtain ⟨biased, place⟩ := Int.eq_ofNat_of_zero_le (by omega : 0 ≤ exponent + 1075)
  have bias : (exponent + Format.binary64.exponentBias +
      Format.binary64.mantissaBitsWithoutImplicit).toNat = biased := by
    simp only [Format.exponentBias]
    norm_num
    omega
  have read : (BitVec.ofNat 11 biased).toNat = biased := by
    rw [BitVec.toNat_ofNat, Nat.mod_eq_of_lt (by omega)]
  have bounded : BitVec.ofNat 11 biased ≠ -1#11 := by
    intro same
    have := congrArg BitVec.toNat same
    rw [read] at this
    change biased = 2047 at this
    omega
  have present : BitVec.ofNat 11 biased ≠ 0#11 := by
    intro same
    have := congrArg BitVec.toNat same
    rw [read] at this
    change biased = 0 at this
    omega
  have digits : (1#1 ++ BitVec.ofNat 52 mantissa).toNat = mantissa := by
    rw [append_leading, BitVec.toNat_ofNat]
    omega
  unfold Float.Model.unpack Float.Model.pack
  change UnpackedFloat.unpack Format.binary64 (UnpackedFloat.pack Format.binary64 _) = _
  unfold UnpackedFloat.pack
  dsimp only
  rw [bias, if_neg (by omega), if_pos (by rw [leading]; rfl)]
  unfold UnpackedFloat.unpack
  simp only [unpackExponent_packComponents, unpackMantissa_packComponents,
    unpackSign_packComponents, Sign.ofBitVec_toBitVec]
  rw [if_neg bounded, if_neg present]
  congr 1
  rw [read]
  simp only [Format.exponentBias]
  norm_num
  omega

/-! ## Integers near a number -/

section Integers

variable {x : Float} {q : ℚ}

theorem Parts.value_of_nonneg {parts : Parts} (large : 0 ≤ parts.exponent) :
    parts.value = (parts.signedMantissa * (2 ^ parts.exponent.toNat : ℕ) : ℤ) := by
  obtain ⟨count, place⟩ := Int.eq_ofNat_of_zero_le large
  rw [value, place, Int.toNat_natCast, zpow_natCast]
  push_cast
  rfl

theorem Parts.value_of_neg {parts : Parts} (small : ¬ 0 ≤ parts.exponent) :
    parts.value = (parts.signedMantissa : ℚ) / (2 ^ (-parts.exponent).toNat : ℕ) := by
  obtain ⟨count, place⟩ := Int.eq_ofNat_of_zero_le (by omega : 0 ≤ -parts.exponent)
  rw [value, show parts.exponent = -(count : ℤ) by omega, neg_neg,
    Int.toNat_natCast, zpow_neg, zpow_natCast]
  push_cast
  rfl

theorem Parts.floor_eq (parts : Parts) : parts.floor = ⌊parts.value⌋ := by
  by_cases large : 0 ≤ parts.exponent
  · rw [value_of_nonneg large, Int.floor_intCast, floor, if_pos large]
    rfl
  · rw [value_of_neg large, Rat.floor_intCast_div_natCast, floor, if_neg large,
      ← signedMantissa, Int.fdiv_eq_ediv_of_nonneg _ (Int.natCast_nonneg _)]
    rfl

theorem Parts.isIntegral_iff (parts : Parts) :
    parts.isIntegral = true ↔ (⌊parts.value⌋ : ℚ) = parts.value := by
  by_cases large : 0 ≤ parts.exponent
  · rw [value_of_nonneg large, Int.floor_intCast, isIntegral, decide_eq_true large, Bool.true_or]
    exact iff_of_true rfl rfl
  · have unit : ((2 ^ (-parts.exponent).toNat : ℕ) : ℚ) ≠ 0 := by positivity
    have divides : parts.isIntegral = true ↔
        ((2 ^ (-parts.exponent).toNat : ℕ) : ℤ) ∣ parts.signedMantissa := by
      rw [isIntegral, decide_eq_false large, Bool.false_or, beq_iff_eq, signedMantissa]
      change parts.mantissa % 2 ^ (-parts.exponent).toNat = 0 ↔ _
      rw [← Nat.dvd_iff_mod_eq_zero]
      split
      · rw [Int.dvd_neg, Int.natCast_dvd_natCast]
      · rw [Int.natCast_dvd_natCast]
    rw [value_of_neg large, Rat.floor_intCast_div_natCast, eq_div_iff unit, divides]
    constructor
    · intro whole
      exact_mod_cast Int.ediv_mul_cancel whole
    · intro whole
      exact ⟨_, by rw [mul_comm]; exact_mod_cast whole.symm⟩

/-- Rounding to an integer moves a number by one half at most. -/
theorem Parts.roundToEven_near (parts : Parts) :
    |(parts.roundToEven : ℚ) - parts.value| ≤ 1 / 2 := by
  unfold roundToEven
  split
  · rename_i large
    rw [floor_eq, value_of_nonneg large, Int.floor_intCast, sub_self, abs_zero]
    norm_num
  · rename_i small
    have floor_le := Int.floor_le parts.value
    have lt_floor := Int.lt_floor_add_one parts.value
    have unit : (0 : ℚ) < (2 ^ (-parts.exponent).toNat : ℕ) := by positivity
    have rest : 2 * (parts.value - ⌊parts.value⌋) * (2 ^ (-parts.exponent).toNat : ℕ) =
        (2 * (parts.signedMantissa - ⌊parts.value⌋ * (2 ^ (-parts.exponent).toNat : ℕ)) : ℤ) := by
      have whole := value_of_neg small
      rw [eq_div_iff unit.ne'] at whole
      push_cast at whole ⊢
      linarith
    rw [floor_eq, ← signedMantissa, Nat.pow_eq, abs_le]
    dsimp only
    generalize (2 ^ (-parts.exponent).toNat : ℕ) = d at unit rest ⊢
    split
    · rename_i less
      have half : parts.value - ⌊parts.value⌋ < 1 / 2 := by
        have : ((2 * (parts.signedMantissa - ⌊parts.value⌋ * d) : ℤ) : ℚ) < d := by
          exact_mod_cast less
        rw [← rest] at this
        nlinarith
      constructor <;> linarith
    · rename_i notLess
      have half : 1 / 2 ≤ parts.value - ⌊parts.value⌋ := by
        have : (d : ℚ) ≤ (2 * (parts.signedMantissa - ⌊parts.value⌋ * d) : ℤ) := by
          exact_mod_cast not_lt.mp notLess
        rw [← rest] at this
        nlinarith
      split
      · push_cast
        constructor <;> linarith
      · rename_i notMore
        have exactly : parts.value - ⌊parts.value⌋ ≤ 1 / 2 := by
          have : ((2 * (parts.signedMantissa - ⌊parts.value⌋ * d) : ℤ) : ℚ) ≤ d := by
            exact_mod_cast not_lt.mp notMore
          rw [← rest] at this
          nlinarith
        split
        · constructor <;> linarith
        · push_cast
          constructor <;> linarith

theorem exists_shape (value : value? x = some q) :
    ∃ parts, shape x = .finite parts ∧ parts.value = q := by
  rw [value?_eq] at value
  split at value
  · rename_i parts form
    exact ⟨parts, form, Option.some.inj value⟩
  · cases value

/-- An integer that is a number is its value. -/
theorem value?_of_toInt? {n : ℤ} (whole : toInt? x = some n) : value? x = some (n : ℚ) := by
  rw [toInt?] at whole
  split at whole
  · rename_i parts form
    split at whole
    · rename_i integral
      cases whole
      rw [value?_eq, form]
      exact congrArg some (parts.isIntegral_iff.mp integral ▸ parts.floor_eq ▸ rfl)
    · cases whole
  · cases whole

theorem roundToEven?_near {n : ℤ} (value : value? x = some q) (rounded : roundToEven? x = some n) :
    |(n : ℚ) - q| ≤ 1 / 2 := by
  obtain ⟨parts, form, rfl⟩ := exists_shape value
  rw [roundToEven?, form] at rounded
  cases rounded
  exact parts.roundToEven_near

/-- The integer part of a number lies between the number and zero, less than one from the number. -/
theorem truncate?_near {n : ℤ} (value : value? x = some q) (truncated : truncate? x = some n) :
    |q - n| < 1 ∧ |q - n| ≤ |q| := by
  obtain ⟨parts, form, rfl⟩ := exists_shape value
  have floor_le := Int.floor_le parts.value
  have lt_floor := Int.lt_floor_add_one parts.value
  rw [truncate?, form] at truncated
  cases truncated
  rw [parts.floor_eq]
  cases negative : parts.negative with
  | false =>
      have up : 0 ≤ parts.value := by
        rw [Parts.value, Parts.signedMantissa, negative]
        simp only [Bool.false_eq_true, if_false]
        positivity
      have whole : (0 : ℚ) ≤ ⌊parts.value⌋ := by exact_mod_cast Int.floor_nonneg.mpr up
      rw [Bool.false_and, if_neg Bool.false_ne_true, abs_of_nonneg (by linarith), abs_of_nonneg up]
      constructor <;> linarith
  | true =>
      have down : parts.value ≤ 0 := by
        rw [Parts.value, Parts.signedMantissa, negative, if_pos rfl, Int.cast_neg,
          neg_mul, neg_nonpos]
        positivity
      rw [Bool.true_and]
      cases integral : parts.isIntegral with
      | true =>
          rw [Bool.not_true, if_neg Bool.false_ne_true, parts.isIntegral_iff.mp integral, sub_self,
            abs_zero]
          exact ⟨one_pos, abs_nonneg _⟩
      | false =>
          have apart : (⌊parts.value⌋ : ℚ) < parts.value := by
            refine lt_of_le_of_ne floor_le fun same => ?_
            rw [parts.isIntegral_iff.mpr same] at integral
            cases integral
          have below : ⌊parts.value⌋ + 1 ≤ 0 := by
            have : ((⌊parts.value⌋ : ℤ) : ℚ) < (0 : ℤ) := by
              push_cast
              linarith
            have : ⌊parts.value⌋ < 0 := by exact_mod_cast this
            omega
          have below' : (⌊parts.value⌋ : ℚ) + 1 ≤ 0 := by exact_mod_cast below
          rw [Bool.not_false, if_pos rfl, Int.cast_add, Int.cast_one, abs_of_nonpos (by linarith),
            abs_of_nonpos down]
          constructor <;> linarith

end Integers

end Scriptlet.Number
