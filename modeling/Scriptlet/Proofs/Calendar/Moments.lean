import Scriptlet.Proofs.Calendar.Days
import Scriptlet.Proofs.Number.Arithmetic

/-!
# Moments of milliseconds

The moment of a number of milliseconds lies less than a millisecond from it, and exactly on it
within 272 years of 1970: the quotient by one thousand has so many digits there that the rounding to
microseconds takes back the error of the division.
-/

namespace Scriptlet

open Number Calendar

namespace Moment

/-- A moment has a date and a time of day. -/
structure IsValid (moment : Moment) : Prop where
  date : IsDate moment.year moment.month moment.day
  first : 1 ≤ moment.year
  last : moment.year ≤ 9999
  hour : moment.hour < 24
  minute : moment.minute < 60
  second : moment.second < 60
  microsecond : moment.microsecond < 1000000

instance (moment : Moment) : Decidable moment.IsValid :=
  decidable_of_iff
    ((1 ≤ moment.day ∧ moment.day ≤ Calendar.monthDays moment.year moment.month) ∧
      1 ≤ moment.year ∧ moment.year ≤ 9999 ∧ moment.hour < 24 ∧ moment.minute < 60 ∧
      moment.second < 60 ∧ moment.microsecond < 1000000)
    ⟨fun ⟨date, first, last, hour, minute, second, microsecond⟩ =>
      ⟨date, first, last, hour, minute, second, microsecond⟩,
      fun ⟨date, first, last, hour, minute, second, microsecond⟩ =>
      ⟨date, first, last, hour, minute, second, microsecond⟩⟩

/-- The whole seconds of a moment since the start of 1970. -/
def seconds (moment : Moment) : ℤ :=
  dayNumber moment.year moment.month moment.day * 86400 + moment.hour * 3600 + moment.minute * 60 +
    moment.second

/-- The microseconds of a moment since the start of 1970. -/
def microseconds (moment : Moment) : ℤ :=
  moment.seconds * 1000000 + moment.microsecond

/-- The whole milliseconds of a moment since the start of 1970. -/
def milliseconds (moment : Moment) : ℤ :=
  moment.seconds * 1000 + moment.microsecond / 1000

theorem milliseconds_eq (moment : Moment) : moment.milliseconds = moment.microseconds / 1000 := by
  rw [milliseconds, microseconds]
  omega

theorem ofSeconds?_spec {count : ℤ} {microsecond : ℕ} {moment : Moment}
    (found : ofSeconds? count microsecond = some moment) (small : microsecond < 1000000) :
    moment.IsValid ∧ moment.seconds = count ∧ moment.microsecond = microsecond := by
  unfold ofSeconds? at found
  rw [Int.fdiv_eq_ediv_of_nonneg _ (by norm_num)] at found
  dsimp only at found
  generalize whole : dateOfDay (count / 86400) = date at found
  split at found
  · rename_i within
    obtain ⟨isDate, number⟩ :=
      dateOfDay_spec (whole : _ = (date.1, date.2.1, date.2.2)) within.1
    simp only [firstYear, lastYear] at within
    cases found
    refine ⟨⟨isDate, ?_, ?_, ?_, ?_, ?_, small⟩, ?_, rfl⟩
    · dsimp only
      omega
    · dsimp only
      omega
    · dsimp only
      omega
    · dsimp only
      omega
    · dsimp only
      omega
    · rw [seconds, number]
      push_cast
      omega
  · cases found

/-- Moments have few seconds. -/
theorem IsValid.abs_seconds_lt {moment : Moment} (valid : moment.IsValid) :
    |moment.seconds| < 2 ^ 39 := by
  have days := abs_dayNumber_lt valid.date (by have := valid.last; omega)
  have hour := valid.hour
  have minute := valid.minute
  have second := valid.second
  rw [abs_lt] at days ⊢
  rw [seconds]
  omega

/-- The seconds of a moment are few, whatever its microseconds are. -/
theorem abs_lt_of_ofSeconds? {count : ℤ} {microsecond : ℕ} {moment : Moment}
    (found : ofSeconds? count microsecond = some moment) : |count| < 2 ^ 39 := by
  have whole : ofSeconds? count 0 = some { moment with microsecond := 0 } := by
    unfold ofSeconds? at found ⊢
    dsimp only at found ⊢
    split at found
    · rename_i within
      rw [if_pos within]
      cases found
      rfl
    · cases found
  obtain ⟨valid, seconds, -⟩ := ofSeconds?_spec whole (by norm_num)
  exact seconds ▸ valid.abs_seconds_lt

/-- The moment of whole seconds and a fraction in microseconds, which is negative before 1970 and
full if it is rounded up to a second. -/
def ofFraction? (whole fraction : ℤ) : Option Moment :=
  if 1000000 ≤ fraction then ofSeconds? (whole + 1) (fraction - 1000000).toNat
  else if fraction < 0 then ofSeconds? (whole - 1) (fraction + 1000000).toNat
  else ofSeconds? whole fraction.toNat

section Fractions

variable {whole fraction : ℤ} {moment : Moment}

/-- A negative or a full number of microseconds is taken from the seconds. -/
theorem ofFraction?_spec (found : ofFraction? whole fraction = some moment)
    (small : |fraction| ≤ 1000000) :
    moment.IsValid ∧ moment.microseconds = whole * 1000000 + fraction := by
  rw [abs_le] at small
  rw [ofFraction?] at found
  split_ifs at found
  all_goals
    obtain ⟨valid, seconds, rest⟩ := ofSeconds?_spec found (by omega)
    refine ⟨valid, ?_⟩
    rw [microseconds, seconds, rest]
    omega

theorem abs_le_of_ofFraction? (found : ofFraction? whole fraction = some moment) :
    |whole| ≤ 2 ^ 39 := by
  rw [ofFraction?] at found
  split_ifs at found
  all_goals
    have few := abs_lt_of_ofSeconds? found
    rw [abs_lt] at few
    rw [abs_le]
    omega

/-- The moment of milliseconds comes from the integer part of their quotient by one thousand and
from the rest of it. -/
theorem ofMilliseconds?_parts {milliseconds : Float}
    (found : ofMilliseconds? milliseconds = some moment) :
    ∃ whole fraction, truncate? (milliseconds / 1000.0) = some whole ∧
      roundToEven? ((milliseconds / 1000.0 - ofInt whole) * 1000000.0) = some fraction ∧
      ofFraction? whole fraction = some moment := by
  rw [ofMilliseconds?] at found
  split at found
  · cases found
  · rename_i whole integer
    split at found
    · cases found
    · rename_i fraction rounded
      exact ⟨whole, fraction, integer, rounded, found⟩

end Fractions

end Moment

/-! ## Milliseconds as seconds -/

section Milliseconds

variable {milliseconds total : Float} {n whole fraction : ℤ} {q : ℚ}

theorem value?_thousand : value? 1000.0 = some 1000 := by
  have form : shape 1000.0 = .finite ⟨false, 8796093022208000, -43⟩ := by
    decide +kernel
  rw [value?_eq, form]
  norm_num [Parts.value, Parts.signedMantissa]

theorem value?_million : value? 1000000.0 = some 1000000 := by
  have form : shape 1000000.0 = .finite ⟨false, 8589934592000000, -33⟩ := by
    decide +kernel
  rw [value?_eq, form]
  norm_num [Parts.value, Parts.signedMantissa]

theorem thousandth_le (nonzero : n ≠ 0) : 2 ^ (-10 : ℤ) ≤ |(n : ℚ) / 1000| := by
  have one : (1 : ℚ) ≤ |(n : ℚ)| := by exact_mod_cast Int.one_le_abs nonzero
  rw [abs_div]
  norm_num
  linarith

/-- The quotient of an integer by one thousand is rounded. -/
theorem value?_div_thousand (value : value? milliseconds = some (n : ℚ)) :
    ∃ q, value? (milliseconds / 1000.0) = some q ∧ Rounds (n / 1000) q := by
  refine value?_div value value?_thousand (by norm_num) ?_
  rcases eq_or_ne n 0 with rfl | nonzero
  · exact .inl Int.cast_zero
  · refine .inr (.of_bounds (a := -10) (b := 1023) (thousandth_le nonzero) ?_ (by norm_num) le_rfl)
    rw [abs_div, abs_of_pos (by norm_num : (0 : ℚ) < 1000), div_lt_iff₀ (by norm_num)]
    calc |(n : ℚ)| < 2 ^ (1024 : ℤ) := abs_lt_of_value? value
      _ = 2 ^ (1023 : ℤ) * 2 := by
        rw [show (1024 : ℤ) = 1023 + 1 by norm_num, zpow_add₀ two_ne_zero, zpow_one]
      _ ≤ 2 ^ (1023 : ℤ) * 1000 := mul_le_mul_of_nonneg_left (by norm_num) (by positivity)

/-- A rounded quotient is zero or not small. -/
theorem sizable_of_rounds (rounds : Rounds (n / 1000) q) : q = 0 ∨ 2 ^ (-900 : ℤ) ≤ |q| := by
  rcases eq_or_ne n 0 with rfl | nonzero
  · left
    exact (rounds.exact 0 0 (by norm_num) (by norm_num)).trans (by norm_num)
  · right
    by_contra small
    have := rounds.abs_lt (not_le.mp small)
    have := lt_of_two_zpow_lt (lt_of_le_of_lt (thousandth_le nonzero) this)
    omega

/-- The fraction of a second in whole microseconds. -/
theorem fraction_near (value : value? total = some q) (short : whole.natAbs < 2 ^ 53)
    (near : |q - whole| < 1) (less : |q - whole| ≤ |q|) (sizable : q = 0 ∨ 2 ^ (-900 : ℤ) ≤ |q|)
    (rounded : roundToEven? ((total - ofInt whole) * 1000000.0) = some fraction) :
    |(fraction : ℚ) - (q - whole) * 1000000| ≤ 1 / 2 + 1 / 1000 ∧ |fraction| ≤ 1000000 := by
  have rest := value?_sub_ofInt value short near less sizable
  have size : |(q - whole) * 1000000| = |q - whole| * 1000000 := by
    rw [abs_mul]
    norm_num
  have range : (q - whole) * 1000000 = 0 ∨ Normal ((q - whole) * 1000000) := by
    refine (normal_fraction value near less sizable).imp (fun zero => ?_) fun normal => ⟨?_, ?_⟩
    · rw [zero, zero_mul]
    · rw [size]
      exact normal.1.trans (le_mul_of_one_le_right (abs_nonneg _) (by norm_num))
    · rw [size]
      have large : (2 : ℚ) ^ (20 : ℤ) ≤ 2 ^ (1023 : ℤ) :=
        zpow_le_zpow_right₀ (by norm_num) (by norm_num)
      refine lt_of_lt_of_le ?_ large
      norm_num
      linarith
  obtain ⟨r, product, rounds⟩ := value?_mul rest value?_million range
  have half := roundToEven?_near product rounded
  have error : |r - (q - whole) * 1000000| ≤ 1 / 1000 := by
    refine (rounds.near 19 ?_).trans (by norm_num)
    rw [size]
    norm_num
    linarith
  have total : |(fraction : ℚ) - (q - whole) * 1000000| ≤ 1 / 2 + 1 / 1000 :=
    (abs_sub_le _ r _).trans (add_le_add half error)
  refine ⟨total, ?_⟩
  have bound : |(fraction : ℚ)| < 1000001 := by
    have := abs_sub_abs_le_abs_sub (fraction : ℚ) ((q - whole) * 1000000)
    linarith
  have : |fraction| < 1000001 := by exact_mod_cast bound
  omega

/-- Up to 2 ^ 33 seconds the division loses less than half a microsecond. -/
theorem div_thousand_near (rounds : Rounds (n / 1000) q) (early : n.natAbs ≤ 8589934592000) :
    |q - n / 1000| ≤ 2 ^ (-21 : ℤ) := by
  rcases eq_or_ne n.natAbs 8589934592000 with limit | before
  · have whole : (n : ℚ) / 1000 = (n / 1000 : ℤ) * 2 ^ (0 : ℤ) := by
      rw [zpow_zero, mul_one, Int.cast_div (by omega) (by norm_num)]
      norm_num
    rw [rounds.exact _ 0 whole (by omega), sub_self, abs_zero]
    positivity
  · refine rounds.near 32 ?_
    have few : |n| < 8589934592000 := by
      rw [Int.abs_eq_natAbs]
      omega
    have cast : |(n : ℚ)| < 8589934592000 := by exact_mod_cast few
    rw [abs_div, abs_of_pos (by norm_num : (0 : ℚ) < 1000), div_lt_iff₀ (by norm_num)]
    norm_num
    linarith

/-- What the division and the rounding to microseconds lose together. -/
theorem microseconds_near {bound : ℚ} (close : |q - n / 1000| ≤ bound)
    (apart : |(fraction : ℚ) - (q - whole) * 1000000| ≤ 1 / 2 + 1 / 1000) :
    |((whole * 1000000 + fraction - n * 1000 : ℤ) : ℚ)| ≤ 1 / 2 + 1 / 1000 + bound * 1000000 := by
  have error : ((whole * 1000000 + fraction - n * 1000 : ℤ) : ℚ) =
      (fraction - (q - whole) * 1000000) + (q - n / 1000) * 1000000 := by
    push_cast
    ring
  rw [error]
  refine (abs_add_le _ _).trans (add_le_add apart ?_)
  rw [abs_mul, abs_of_pos (by norm_num : (0 : ℚ) < 1000000)]
  linarith

/-- The moment of an integral number of milliseconds lies less than one millisecond from it, and
exactly on it if it is at most 2 ^ 33 seconds from the start of 1970. -/
theorem ofMilliseconds?_near {moment : Moment} (value : value? milliseconds = some (n : ℚ))
    (found : Moment.ofMilliseconds? milliseconds = some moment) :
    moment.IsValid ∧ |moment.microseconds - n * 1000| < 1000 ∧
      (n.natAbs ≤ 8589934592000 → moment.microseconds = n * 1000) := by
  obtain ⟨q, quotient, rounds⟩ := value?_div_thousand value
  obtain ⟨whole, fraction, integer, rounded, found⟩ := Moment.ofMilliseconds?_parts found
  obtain ⟨near, less⟩ := truncate?_near quotient integer
  -- There is a moment, so the seconds are few, and the division loses little.
  have few := Moment.abs_le_of_ofFraction? found
  obtain ⟨apart, small⟩ := fraction_near quotient (by rw [abs_le] at few; omega) near less
    (sizable_of_rounds rounds) rounded
  obtain ⟨valid, total⟩ := Moment.ofFraction?_spec found small
  rw [total]
  refine ⟨valid, ?_, fun early => ?_⟩
  · have size : |q| < 2 ^ (40 : ℤ) := by
      have seconds : |(whole : ℚ)| ≤ 2 ^ 39 := by exact_mod_cast few
      have := abs_sub_abs_le_abs_sub q whole
      norm_num at *
      linarith
    have error := microseconds_near (rounds.near 40 (rounds.abs_lt size)) apart
    have below := error.trans_lt (by norm_num : _ < (1000 : ℚ))
    exact_mod_cast below
  · have error := microseconds_near (div_thousand_near rounds early) apart
    have below := error.trans_lt (by norm_num : _ < (1 : ℚ))
    have none : |whole * 1000000 + fraction - n * 1000| < 1 := by exact_mod_cast below
    exact sub_eq_zero.mp (Int.abs_lt_one_iff.mp none)

/-- The whole milliseconds of a moment are those it was found for, or one less. -/
theorem ofMilliseconds?_milliseconds {moment : Moment} (value : value? milliseconds = some (n : ℚ))
    (found : Moment.ofMilliseconds? milliseconds = some moment) :
    moment.IsValid ∧ (moment.milliseconds = n ∨ moment.milliseconds = n - 1) ∧
      (n.natAbs ≤ 8589934592000 → moment.milliseconds = n) := by
  obtain ⟨valid, near, exactly⟩ := ofMilliseconds?_near value found
  rw [moment.milliseconds_eq]
  refine ⟨valid, ?_, fun early => ?_⟩
  · rw [abs_lt] at near
    omega
  · rw [exactly early]
    exact Int.mul_ediv_cancel n (by norm_num)

end Milliseconds

end Scriptlet
