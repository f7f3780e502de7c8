import Scriptlet.Number.Parts

/-!
# Dates and times

A moment is a day of the calendar, extended to all years, and a time of that day. Moments are
counted in microseconds from the start of 1970; the years run from 1 to 9999.
-/

namespace Scriptlet

/-- A day and a time of day. -/
structure Moment where
  year : Nat
  month : Nat
  day : Nat
  hour : Nat
  minute : Nat
  second : Nat
  microsecond : Nat
  deriving DecidableEq, Repr

namespace Calendar

/-- The days from the first of March of year zero to the start of 1970. -/
def epochDay : Int := 719468

/-- The days of four hundred years. -/
def eraDays : Int := 146097

/-- The year, month and day of a day that is counted from the start of 1970. Years are first counted
from March on, so that the leap day is the last day of its year. -/
def dateOfDay (day : Int) : Int × Nat × Nat :=
  let shifted := day + epochDay
  let era := shifted.fdiv eraDays
  let dayOfEra := (shifted - era * eraDays).toNat
  let yearOfEra := (dayOfEra - dayOfEra / 1460 + dayOfEra / 36524 - dayOfEra / 146096) / 365
  let dayOfYear := dayOfEra - (365 * yearOfEra + yearOfEra / 4 - yearOfEra / 100)
  let monthFromMarch := (5 * dayOfYear + 2) / 153
  let dayOfMonth := dayOfYear - (153 * monthFromMarch + 2) / 5 + 1
  let month := if monthFromMarch < 10 then monthFromMarch + 3 else monthFromMarch - 9
  let year := era * 400 + yearOfEra + (if month ≤ 2 then 1 else 0)
  (year, month, dayOfMonth)

end Calendar

namespace Moment

/-- The first and the last year. -/
def firstYear : Int := 1

/-- The last year. -/
def lastYear : Int := 9999

/-- The moment of a number of whole seconds and microseconds since the start of 1970. -/
def ofSeconds? (seconds : Int) (microsecond : Nat) : Option Moment :=
  let day := seconds.fdiv 86400
  let rest := (seconds - day * 86400).toNat
  let (year, month, dayOfMonth) := Calendar.dateOfDay day
  if firstYear ≤ year ∧ year ≤ lastYear then
    some
      { year := year.toNat
        month := month
        day := dayOfMonth
        hour := rest / 3600
        minute := rest / 60 % 60
        second := rest % 60
        microsecond := microsecond }
  else none

/-- The moment of a number of milliseconds since the start of 1970. The quotient by one thousand is
rounded as a number, and its fraction to whole microseconds with ties to even. -/
def ofMilliseconds? (milliseconds : Float) : Option Moment :=
  let total := milliseconds / 1000.0
  match Number.truncate? total with
  | none => none
  | some whole =>
      match Number.roundToEven? ((total - Number.ofInt whole) * 1000000.0) with
      | none => none
      | some fraction =>
          if 1000000 ≤ fraction then ofSeconds? (whole + 1) (fraction - 1000000).toNat
          else if fraction < 0 then ofSeconds? (whole - 1) (fraction + 1000000).toNat
          else ofSeconds? whole fraction.toNat

/-- A number with at least `width` digits. -/
def padded (width n : Nat) : String :=
  let digits := Nat.toDigits 10 n
  String.ofList (List.replicate (width - digits.length) '0' ++ digits)

/-- The text of a moment, with milliseconds. -/
def iso (moment : Moment) : String :=
  toString moment.year ++ "-" ++ padded 2 moment.month ++ "-" ++ padded 2 moment.day ++ "T" ++
    padded 2 moment.hour ++ ":" ++ padded 2 moment.minute ++ ":" ++ padded 2 moment.second ++ "." ++
    padded 3 (moment.microsecond / 1000) ++ "Z"

end Moment

end Scriptlet
