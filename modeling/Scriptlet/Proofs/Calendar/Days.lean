import Mathlib
import Scriptlet.Calendar

/-!
# Days of the calendar

Days are counted year by year and month by month, with the lengths of the months and the rule for
leap years.  The date of a day that is found by dividing into eras, centuries and leap cycles is the
date that is counted to that day.
-/

namespace Scriptlet.Calendar

/-- A year has a leap day. -/
def IsLeap (year : ℕ) : Prop :=
  year % 4 = 0 ∧ (year % 100 ≠ 0 ∨ year % 400 = 0)

instance (year : ℕ) : Decidable (IsLeap year) :=
  inferInstanceAs (Decidable (_ ∧ _))

/-- The days of a month. -/
def monthDays (year : ℕ) : (month : ℕ) → ℕ
  | 2 => if IsLeap year then 29 else 28
  | 4 | 6 | 9 | 11 => 30
  | 1 | 3 | 5 | 7 | 8 | 10 | 12 => 31
  | _ => 0

/-- The days before a year, counted from the start of year zero. -/
def daysBeforeYear : (year : ℕ) → ℕ
  | 0 => 0
  | year + 1 => daysBeforeYear year + if IsLeap year then 366 else 365

/-- The days of a year before a month. -/
def daysBeforeMonth (year : ℕ) : (month : ℕ) → ℕ
  | 0 => 0
  | month + 1 => daysBeforeMonth year month + monthDays year month

/-- A day of a month exists. -/
def IsDate (year month day : ℕ) : Prop :=
  1 ≤ day ∧ day ≤ monthDays year month

/-- The number of a date, counted from the start of 1970. -/
def dayNumber (year month day : ℕ) : ℤ :=
  daysBeforeYear year + daysBeforeMonth year month + day - (daysBeforeYear 1970 + 1)

theorem IsDate.month {year month day : ℕ} (date : IsDate year month day) :
    1 ≤ month ∧ month ≤ 12 := by
  obtain ⟨low, high⟩ := date
  by_contra outside
  have empty : monthDays year month = 0 := by
    unfold monthDays
    split <;> first | rfl | omega
  omega

theorem monthDays_le (year month : ℕ) : monthDays year month ≤ 31 := by
  unfold monthDays
  split
  · split <;> omega
  all_goals omega

theorem daysBeforeMonth_le (year month : ℕ) : daysBeforeMonth year month ≤ 31 * month := by
  induction month with
  | zero => exact le_refl 0
  | succ month ih =>
      have := monthDays_le year month
      rw [daysBeforeMonth]
      omega

theorem daysBeforeYear_le (year : ℕ) : daysBeforeYear year ≤ 366 * year := by
  induction year with
  | zero => exact le_refl 0
  | succ year ih =>
      rw [daysBeforeYear]
      split <;> omega

theorem daysBeforeYear_succ (year : ℕ) :
    (daysBeforeYear (year + 1) : ℤ) = 365 * year + year / 4 - year / 100 + year / 400 + 366 := by
  induction year with
  | zero => rfl
  | succ year ih =>
      have fours : (year + 1) / 4 = year / 4 + if (year + 1) % 4 = 0 then 1 else 0 := by
        split <;> omega
      have hundreds : (year + 1) / 100 = year / 100 + if (year + 1) % 100 = 0 then 1 else 0 := by
        split <;> omega
      have eras : (year + 1) / 400 = year / 400 + if (year + 1) % 400 = 0 then 1 else 0 := by
        split <;> omega
      have hundred_four : (year + 1) % 100 = 0 → (year + 1) % 4 = 0 := by omega
      have era_hundred : (year + 1) % 400 = 0 → (year + 1) % 100 = 0 := by omega
      have days :
          (if IsLeap (year + 1) then 366 else 365) + (if (year + 1) % 100 = 0 then 1 else 0) =
          365 + (if (year + 1) % 4 = 0 then 1 else 0) + if (year + 1) % 400 = 0 then 1 else 0 := by
        unfold IsLeap
        grind
      rw [daysBeforeYear]
      zify at fours hundreds eras days
      rw [Nat.cast_add, ih]
      push_cast at *
      linarith

theorem daysBeforeYear_epoch : (daysBeforeYear 1970 : ℤ) = 719528 := by
  rw [daysBeforeYear_succ 1969]
  norm_num

/-- The dates of the first ten thousand years have small numbers. -/
theorem abs_dayNumber_lt {year month day : ℕ} (date : IsDate year month day)
    (early : year < 10000) :
    |dayNumber year month day| < 2 ^ 22 := by
  have days := daysBeforeYear_le year
  have months := daysBeforeMonth_le year month
  have last := monthDays_le year month
  have bounds := date.month
  rw [dayNumber, daysBeforeYear_epoch, abs_lt]
  unfold IsDate at date
  omega

/-! ## Years from March on -/

/-- A day of an era: `centuries` of 36524 days, `cycles` of four years, `years` of 365 days and a
day of the year.  The last day of a leap year ends a cycle, and that of a cycle that ends a century
does so only at the end of the era. -/
structure EraDay where
  centuries : ℕ
  cycles : ℕ
  years : ℕ
  dayOfYear : ℕ
  centuries_le : centuries ≤ 3
  cycles_le : cycles ≤ 24
  years_le : years ≤ 3
  dayOfYear_le : dayOfYear ≤ 365
  leap : dayOfYear = 365 → years = 3 ∧ (cycles = 24 → centuries = 3)

namespace EraDay

/-- The place of a day in its era. -/
def place (day : EraDay) : ℕ :=
  36524 * day.centuries + 1461 * day.cycles + 365 * day.years + day.dayOfYear

/-- The year of a day in its era. -/
def year (day : EraDay) : ℕ :=
  100 * day.centuries + 4 * day.cycles + day.years

theorem exists_of_place {place : ℕ} (inside : place < 146097) :
    ∃ day : EraDay, day.place = place := by
  obtain ⟨centuries, inCentury, centuries_le, century, last⟩ :
    ∃ centuries inCentury, centuries ≤ 3 ∧
      place = 36524 * centuries + inCentury ∧
      (inCentury < 36524 ∨ inCentury = 36524 ∧ centuries = 3) :=
    ⟨min (place / 36524) 3, place - 36524 * min (place / 36524) 3, by omega, by omega, by omega⟩
  obtain ⟨cycles, inCycle, cycle, short⟩ : ∃ cycles inCycle,
      inCentury = 1461 * cycles + inCycle ∧ inCycle < 1461 :=
    ⟨inCentury / 1461, inCentury % 1461, by omega, by omega⟩
  obtain ⟨years, dayOfYear, years_le, year, ends⟩ : ∃ years dayOfYear, years ≤ 3 ∧
      inCycle = 365 * years + dayOfYear ∧ (dayOfYear < 365 ∨ dayOfYear = 365 ∧ years = 3) :=
    ⟨min (inCycle / 365) 3, inCycle - 365 * min (inCycle / 365) 3, by omega, by omega, by omega⟩
  refine ⟨⟨centuries, cycles, years, dayOfYear, centuries_le, by omega, years_le, by omega, ?_⟩, ?_⟩
  · omega
  · simp only [EraDay.place]
    omega

/-- The year of a day is found from its place: what the leap days add to the years before is taken
away first. -/
theorem year_eq (day : EraDay) :
    (day.place - day.place / 1460 + day.place / 36524 - day.place / 146096) / 365 = day.year := by
  obtain ⟨centuries, cycles, years, dayOfYear, _, _, _, _, leap⟩ := day
  simp only [place, year]
  generalize whole : 36524 * centuries + 1461 * cycles + 365 * years + dayOfYear = place
  have hundreds : place / 36524 = centuries + place / 146096 := by
    -- The last day of an era would open a fifth century.
    by_cases last : place = 146096
    · have : centuries = 3 := by omega
      rw [last, this]
    · have inside : 36524 * centuries ≤ place ∧ place < 36524 * (centuries + 1) := by omega
      rw [Nat.div_eq_of_lt (by omega : place < 146096), add_zero]
      apply Nat.div_eq_of_lt_le <;> omega
  have fours : place / 1460 = 25 * centuries + cycles +
      (24 * centuries + cycles + 365 * years + dayOfYear) / 1460 := by omega
  have days (added : ℕ) (low : added ≤ dayOfYear) (high : dayOfYear ≤ added + 364) :
      (place - (25 * centuries + cycles + added) + (centuries + place / 146096) - place / 146096) /
        365 = 100 * centuries + 4 * cycles + years := by
    rw [← add_assoc, Nat.add_sub_cancel]
    apply Nat.div_eq_of_lt_le
    · omega
    · omega
  rw [hundreds, fours]
  by_cases late : 24 * centuries + cycles + 365 * years + dayOfYear < 1460
  · rw [Nat.div_eq_of_lt late]
    exact days 0 (by omega) (by omega)
  · have one : (24 * centuries + cycles + 365 * years + dayOfYear) / 1460 = 1 := by
      apply Nat.div_eq_of_lt_le <;> omega
    rw [one]
    exact days 1 (by omega) (by omega)

/-- The day of the year is found from the place and the year. -/
theorem dayOfYear_eq (day : EraDay) :
    day.place - (365 * day.year + day.year / 4 - day.year / 100) = day.dayOfYear := by
  obtain ⟨centuries, cycles, years, dayOfYear, _, _, _, _, leap⟩ := day
  simp only [place, year]
  omega

theorem year_lt (day : EraDay) : day.year < 400 := by
  obtain ⟨centuries, cycles, years, dayOfYear, _, _, _, _, leap⟩ := day
  simp only [year]
  omega

theorem place_eq (day : EraDay) :
    (day.place : ℤ) = 365 * day.year + day.year / 4 - day.year / 100 + day.dayOfYear := by
  obtain ⟨centuries, cycles, years, dayOfYear, _, _, _, _, leap⟩ := day
  simp only [place, year]
  omega

theorem place_lt (day : EraDay) : day.place < 146097 := by
  obtain ⟨centuries, cycles, years, dayOfYear, _, _, _, _, leap⟩ := day
  simp only [place]
  omega

/-- The last day of a long year comes before the March of a year that is divisible by four. -/
theorem isLeap_of_long (day : EraDay) (long : day.dayOfYear = 365) {next : ℕ}
    (follows : ∃ era : ℤ, (next : ℤ) = era * 400 + day.year + 1) : IsLeap next := by
  obtain ⟨centuries, cycles, years, dayOfYear, _, _, _, _, leap⟩ := day
  obtain ⟨era, follows⟩ := follows
  obtain ⟨rfl, ends⟩ := leap long
  simp only [year] at follows
  unfold IsLeap
  constructor
  · omega
  · by_cases last : cycles = 24
    · right
      have := ends last
      omega
    · left
      omega

end EraDay

/-! ## Dates of days -/

/-- The months from March on begin after as many days in every year. -/
theorem daysBefore_march (year : ℕ) {month : ℕ} (early : month < 10) :
    (daysBeforeYear year + daysBeforeMonth year (month + 3) : ℤ) =
      365 * year + year / 4 - year / 100 + year / 400 + 60 + (153 * month + 2) / 5 := by
  have next := daysBeforeYear_succ year
  rw [daysBeforeYear] at next
  have months : (daysBeforeMonth year (month + 3) : ℤ) =
      59 + (if IsLeap year then 1 else 0 : ℕ) + (153 * month + 2) / 5 := by
    interval_cases month <;> simp [daysBeforeMonth, monthDays] <;> split <;> norm_num
  rw [months]
  by_cases leap : IsLeap year
  · rw [if_pos leap] at next ⊢
    push_cast at next ⊢
    linarith
  · rw [if_neg leap] at next ⊢
    push_cast at next ⊢
    linarith

/-- January and February end a year that began in March. -/
theorem daysBefore_january (year : ℕ) {month : ℕ} (late : 10 ≤ month) (last : month ≤ 11) :
    (daysBeforeYear (year + 1) + daysBeforeMonth (year + 1) (month - 9) : ℤ) =
      365 * year + year / 4 - year / 100 + year / 400 + 60 + (153 * month + 2) / 5 := by
  have months : (daysBeforeMonth (year + 1) (month - 9) : ℤ) + 306 = (153 * month + 2) / 5 := by
    interval_cases month <;> rfl
  rw [daysBeforeYear_succ]
  omega

theorem isDate_march (year : ℕ) {month day : ℕ} (early : month < 10) (low : 1 ≤ day)
    (high : (153 * month + 2) / 5 + day ≤ (153 * (month + 1) + 2) / 5) :
    IsDate year (month + 3) day := by
  refine ⟨low, ?_⟩
  interval_cases month <;> simp only [monthDays] <;> omega

section Places

variable {day era : ℤ} {place : EraDay} {month : ℕ}

/-- The days before a day, counted in the year that began in March. -/
theorem days_of_place (placed : day + epochDay = era * eraDays + place.place) {civil : ℕ}
    (counts : (civil : ℤ) = era * 400 + place.year) :
    (365 * civil + civil / 4 - civil / 100 + civil / 400 + 60 : ℤ) + place.dayOfYear =
      day + 719528 := by
  have digits := place.place_eq
  have bounded := place.year_lt
  simp only [epochDay, eraDays] at placed
  have fours : (civil : ℤ) / 4 = 100 * era + place.year / 4 := by omega
  have hundreds : (civil : ℤ) / 100 = 4 * era + place.year / 100 := by omega
  have eras : (civil : ℤ) / 400 = era := by omega
  rw [fours, hundreds, eras, counts]
  linarith

/-- The month that is found for a day has begun, and the next one has not. -/
theorem day_lt_of_month (marches : (5 * place.dayOfYear + 2) / 153 = month) :
    (153 * month + 2) / 5 ≤ place.dayOfYear ∧ place.dayOfYear < (153 * (month + 1) + 2) / 5 := by
  omega

/-- A day from March to December. -/
theorem date_of_march (placed : day + epochDay = era * eraDays + place.place) {civil : ℕ}
    (counts : (civil : ℤ) = era * 400 + place.year)
    (marches : (5 * place.dayOfYear + 2) / 153 = month) (early : month < 10) :
    IsDate civil (month + 3) (place.dayOfYear - (153 * month + 2) / 5 + 1) ∧
      dayNumber civil (month + 3) (place.dayOfYear - (153 * month + 2) / 5 + 1) = day := by
  obtain ⟨begins, ends⟩ := day_lt_of_month marches
  refine ⟨isDate_march civil early (by omega) (by omega), ?_⟩
  have days := days_of_place placed counts
  rw [dayNumber, daysBeforeYear_epoch, daysBefore_march civil early]
  push_cast
  omega

/-- A day of January or February: the year that began in March has ended. -/
theorem date_of_january (placed : day + epochDay = era * eraDays + place.place) {ended : ℕ}
    (counts : (ended : ℤ) = era * 400 + place.year)
    (marches : (5 * place.dayOfYear + 2) / 153 = month) (late : 10 ≤ month) :
    IsDate (ended + 1) (month - 9) (place.dayOfYear - (153 * month + 2) / 5 + 1) ∧
      dayNumber (ended + 1) (month - 9) (place.dayOfYear - (153 * month + 2) / 5 + 1) = day := by
  obtain ⟨begins, ends⟩ := day_lt_of_month marches
  have short := place.dayOfYear_le
  refine ⟨⟨by omega, ?_⟩, ?_⟩
  · rcases (by omega : month = 10 ∨ month = 11) with rfl | rfl
    · simp only [monthDays]
      omega
    · by_cases leap : IsLeap (ended + 1)
      · simp only [monthDays, if_pos leap]
        omega
      · have common : place.dayOfYear ≠ 365 := fun last =>
          leap (place.isLeap_of_long last ⟨era, by omega⟩)
        simp only [monthDays, if_neg leap]
        omega
  · have days := days_of_place placed counts
    rw [dayNumber, daysBeforeYear_epoch, daysBefore_january ended late (by omega)]
    push_cast
    omega

end Places

theorem exists_place (day : ℤ) :
    ∃ (era : ℤ) (place : EraDay), day + epochDay = era * eraDays + place.place := by
  have inside : ((day + epochDay) % eraDays).toNat < 146097 := by
    simp only [eraDays]
    omega
  obtain ⟨place, place_eq⟩ := EraDay.exists_of_place inside
  refine ⟨(day + epochDay) / eraDays, place, ?_⟩
  rw [place_eq]
  simp only [eraDays, epochDay]
  omega

/-- The date that is found for a day is a date of the calendar, and its number is the day. -/
theorem dateOfDay_spec {day year : ℤ} {month dayOfMonth : ℕ}
    (found : dateOfDay day = (year, month, dayOfMonth)) (late : 1 ≤ year) :
    IsDate year.toNat month dayOfMonth ∧ dayNumber year.toNat month dayOfMonth = day := by
  obtain ⟨era, place, placed⟩ := exists_place day
  have inside := place.place_lt
  have whole : (day + epochDay).fdiv eraDays = era := by
    rw [placed]
    simp only [eraDays]
    rw [Int.fdiv_eq_ediv_of_nonneg _ (by norm_num)]
    omega
  have rest : (day + epochDay - era * eraDays).toNat = place.place := by omega
  simp only [dateOfDay, whole, rest, place.year_eq, place.dayOfYear_eq, Prod.mk.injEq] at found
  obtain ⟨rfl, rfl, rfl⟩ := found
  generalize marches : (5 * place.dayOfYear + 2) / 153 = m at late ⊢
  by_cases early : m < 10
  · rw [if_pos early] at late ⊢
    rw [if_neg (by omega : ¬ m + 3 ≤ 2)] at late ⊢
    exact date_of_march placed (by omega) marches early
  · rw [if_neg early] at late ⊢
    rw [if_pos (by have := place.dayOfYear_le; omega : m - 9 ≤ 2)] at late ⊢
    obtain ⟨ended, next⟩ : ∃ ended : ℕ, (era * 400 + place.year + 1).toNat = ended + 1 :=
      ⟨(era * 400 + place.year).toNat, by omega⟩
    rw [next]
    exact date_of_january placed (by omega) marches (by omega)

end Scriptlet.Calendar
