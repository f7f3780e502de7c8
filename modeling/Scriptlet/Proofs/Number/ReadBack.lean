import Mathlib
import Scriptlet.Proofs.Number.Comparison
import Scriptlet.Proofs.Number.Numeral

/-!
# Numbers that read back

A number reads back when the number that is read from its display form is equal to it.  The JSON
form of such a number is then exact: an integer that is not too large for a number, or a literal
whose numeral has the number as its value.
-/

namespace Scriptlet.Number

/-- The number that is read from the display form is equal to the number. -/
def ReadsBack (x : Float) : Prop :=
  ∃ y, read? (display x).toList = some y ∧ (y == x) = true

/-! ## Finite and infinite numbers -/

open Float.Model in
theorem eq_infinity_of_isInf {x : Float} (infinite : x.isInf = true) :
    x = infinity ∨ x = -infinity := by
  have packed := UnpackedFloat.pack_unpack_of_valid x.toModel.valid
  change x.toModel.unpack.isInf = true at infinite
  change x.toModel.unpack.pack Format.binary64 = x.toBits.toBitVec at packed
  cases unpacked : x.toModel.unpack with
  | infinity sign =>
      rw [unpacked] at packed
      rw [← Float.toBits_inj, ← UInt64.toBitVec_inj, ← Float.toBits_inj, ← UInt64.toBitVec_inj,
        ← packed]
      cases sign
      · right; decide
      · left; decide
  | notANumber => rw [unpacked] at infinite; cases infinite
  | zero sign => rw [unpacked] at infinite; cases infinite
  | finite sign mantissa exponent positive => rw [unpacked] at infinite; cases infinite

/-- A number is written as null, as an integer or as a literal. -/
theorem toJson_cases (x : Float) :
    toJson x = .null ∨ (∃ n, toJson x = .int n) ∨ toJson x = .float x := by
  unfold toJson
  split
  · split
    · exact Or.inr (Or.inl ⟨_, rfl⟩)
    · exact Or.inr (Or.inr rfl)
  · exact Or.inl rfl

/-- A number that is equal to a finite one is not infinite. -/
theorem isInf_of_beq {x y : Float} {parts : Parts} (finite : shape x = .finite parts)
    (same : (y == x) = true) : y.isInf = false := by
  rcases eq_or_zero_of_beq same with rfl | ⟨rfl | rfl, -⟩
  · by_contra infinite
    have plus : shape infinity = .infinite false := by decide
    have minus : shape (-infinity) = .infinite true := by decide
    rcases eq_infinity_of_isInf (by simpa using infinite) with rfl | rfl
    · rw [plus] at finite
      cases finite
    · rw [minus] at finite
      cases finite
  · decide
  · decide

/-! ## Integers -/

theorem toJson_int {x : Float} {n : Int} (written : toJson x = .int n) :
    ∃ parts, shape x = .finite parts ∧ display x = toString n := by
  unfold toJson at written
  split at written
  · rename_i parts finite
    split at written
    · rename_i integral
      obtain rfl := Json.int.inj written
      exact ⟨parts, finite, by simp [display, finite, integral]⟩
    · cases written
  · cases written

/-- The most digits that the whole part of a finite number has. -/
def wholeLimit : Nat := 310

/-- An integer with too many digits reads as an infinite number. -/
theorem value_ofInt_of_large {n : Int} (large : wholeLimit < (Nat.toDigits 10 n.natAbs).length) :
    (Numeral.ofInt n).value.isInf = true := by
  have positive : n.natAbs ≠ 0 := by
    intro zero
    rw [zero] at large
    simp [wholeLimit] at large
  have magnitude : (Numeral.ofInt n).magnitude = infinity := by
    have size : (310 : Int) < (Nat.toDigits 10 n.natAbs).length + 0 := by
      have : 310 < (Nat.toDigits 10 n.natAbs).length := large
      omega
    simp only [Numeral.magnitude, Numeral.ofInt, Numeral.shift, List.append_nil, ofDigits_toDigits,
      List.length_nil, Int.ofNat_zero, Int.sub_zero, ofDecimal, if_neg positive, if_pos size]
  rw [Numeral.value, magnitude]
  split <;> decide

theorem value_ofInt {n : Int} (short : (Nat.toDigits 10 n.natAbs).length ≤ wholeLimit) :
    (Numeral.ofInt n).value = ofInt n := by
  have magnitude : (Numeral.ofInt n).magnitude = Float.ofScientific n.natAbs false 0 := by
    have notLong : ¬ (310 : Int) < (Nat.toDigits 10 n.natAbs).length + 0 := by
      have : (Nat.toDigits 10 n.natAbs).length ≤ 310 := short
      omega
    have notSmall : ¬ ((Nat.toDigits 10 n.natAbs).length : Int) + 0 < -330 := by omega
    simp only [Numeral.magnitude, Numeral.ofInt, Numeral.shift, List.append_nil, ofDigits_toDigits,
      List.length_nil, Int.ofNat_zero, Int.sub_zero, ofDecimal]
    by_cases zero : n.natAbs = 0
    · rw [if_pos zero, zero]
      decide
    · rw [if_neg zero, if_neg notLong, if_neg notSmall]
      rfl
  rw [Numeral.value, magnitude, ofInt]
  simp [Numeral.ofInt]

/-- The integer that a number is written as is short and not too large for a number. -/
theorem ofInt?_of_readsBack {x : Float} {n : Int} (written : toJson x = .int n)
    (readsBack : ReadsBack x) :
    (Nat.toDigits 10 n.natAbs).length ≤ wholeLimit ∧
      ∃ y, ofInt? n = some y ∧ (y == x) = true := by
  obtain ⟨parts, finite, display_eq⟩ := toJson_int written
  obtain ⟨y, read, same⟩ := readsBack
  rw [display_eq, ← Numeral.text_ofInt, Numeral.read?_text (Numeral.ofInt_valid n)] at read
  obtain rfl := Option.some.inj read
  have notInfinite := isInf_of_beq finite same
  have short : (Nat.toDigits 10 n.natAbs).length ≤ wholeLimit := by
    by_contra large
    rw [value_ofInt_of_large (by omega)] at notInfinite
    cases notInfinite
  rw [value_ofInt short] at same notInfinite
  exact ⟨short, ofInt n, by simp [ofInt?, notInfinite], same⟩

/-! ## Literals -/

theorem toJson_float {x y : Float} (written : toJson x = .float y) :
    y = x ∧ ∃ parts, shape x = .finite parts ∧ parts.mantissa ≠ 0 ∧ display x = literal x := by
  unfold toJson at written
  split at written
  · rename_i parts finite
    split at written
    · cases written
    · rename_i fractional
      obtain rfl := Json.float.inj written
      have mantissa : parts.mantissa ≠ 0 := by
        intro zero
        simp [Parts.isIntegral, zero] at fractional
      exact ⟨rfl, parts, finite, mantissa, by simp [display, finite, fractional]⟩
  · cases written

/-- The literal that a number is written as is a numeral with the number as its value. -/
theorem numeral_of_readsBack {x : Float} (written : toJson x = .float x)
    (readsBack : ReadsBack x) :
    ∃ numeral : Numeral, numeral.Valid ∧ numeral.Plain ∧ numeral.Marked ∧
      numeral.text = (literal x).toList ∧ numeral.value = x := by
  obtain ⟨-, parts, finite, mantissa, display_eq⟩ := toJson_float written
  obtain ⟨y, read, same⟩ := readsBack
  have notZero : ¬ (x = 0 ∨ x = -0) := by
    intro zero
    rw [toJson_zero zero] at written
    cases written
  have text := Numeral.literal_eq_text finite mantissa
  rw [display_eq, text, Numeral.read?_text (Numeral.ofDecimal_valid _ _)] at read
  obtain rfl := Option.some.inj read
  have value : (Numeral.ofDecimal parts.negative
      (shortest parts.mantissa parts.exponent)).value = x :=
    (eq_or_zero_of_beq same).resolve_right fun zeros => notZero zeros.2
  have positive : 0 < (shortest parts.mantissa parts.exponent).digits := by
    by_contra none
    have zero : (Numeral.ofDecimal parts.negative
        (shortest parts.mantissa parts.exponent)).magnitude = 0.0 := by
      have digits : (shortest parts.mantissa parts.exponent).digits = 0 := by omega
      generalize shortest parts.mantissa parts.exponent = d at digits
      obtain ⟨_, power⟩ := d
      obtain rfl := digits
      exact Numeral.magnitude_ofDecimal_zero _ _
    rw [Numeral.value, zero] at value
    apply notZero
    rw [← value]
    split
    · exact Or.inr (by decide)
    · exact Or.inl (by decide)
  exact ⟨_, Numeral.ofDecimal_valid _ _, Numeral.ofDecimal_plain _ positive,
    Numeral.ofDecimal_marked _ _, text.symm, value⟩

end Scriptlet.Number
