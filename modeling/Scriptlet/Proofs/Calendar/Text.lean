import Scriptlet.Proofs.Calendar.Moments
import Scriptlet.Proofs.Number.Numeral

/-!
# Texts of moments

The text of a moment is read back field by field; what is lost is the part of a millisecond.
-/

namespace Scriptlet.Moment

open Text Number

/-! ## Whole milliseconds -/

/-- A moment without the part of a millisecond. -/
def truncated (moment : Moment) : Moment :=
  { moment with microsecond := moment.microsecond / 1000 * 1000 }

theorem IsValid.truncated {moment : Moment} (valid : moment.IsValid) :
    moment.truncated.IsValid where
  date := valid.date
  first := valid.first
  last := valid.last
  hour := valid.hour
  minute := valid.minute
  second := valid.second
  microsecond := (Nat.div_mul_le_self _ _).trans_lt valid.microsecond

theorem milliseconds_truncated (moment : Moment) :
    moment.truncated.milliseconds = moment.milliseconds := by
  rw [milliseconds, milliseconds]
  change moment.seconds * 1000 + ((moment.microsecond / 1000 * 1000 : ℕ) : ℤ) / 1000 = _
  push_cast
  omega

/-! ## Fields of a text -/

/-- Reads a number of `least` to `most` digits and the mark behind it. -/
def readField? (least most : ℕ) (mark : Char) (text : List Char) : Option (ℕ × List Char) :=
  let digits := text.takeWhile isDigit
  match text.dropWhile isDigit with
  | [] => none
  | c :: rest =>
      if c = mark ∧ least ≤ digits.length ∧ digits.length ≤ most then some (ofDigits digits, rest)
      else none

section Fields

variable {least most width n : ℕ} {mark : Char} {digits rest : List Char}

theorem readField?_digits (all : ∀ c ∈ digits, isDigit c = true) (enough : least ≤ digits.length)
    (few : digits.length ≤ most) (plain : isDigit mark = false) :
    readField? least most mark (digits ++ mark :: rest) = some (ofDigits digits, rest) := by
  have stops : Numeral.StopsDigits (mark :: rest) := by
    intro c head
    cases head
    exact plain
  rw [readField?, Numeral.takeWhile_isDigit all stops, Numeral.dropWhile_isDigit all stops]
  exact if_pos ⟨rfl, enough, few⟩

theorem readField?_toString (positive : 0 < width) (short : n < 10 ^ width)
    (plain : isDigit mark = false) :
    readField? 1 width mark ((toString n).toList ++ mark :: rest) = some (n, rest) := by
  change readField? 1 width mark (n.repr.toList ++ mark :: rest) = _
  rw [Nat.toList_repr,
    readField?_digits (fun c member => isDigit_of_mem_toDigits member) ?_ ?_ plain,
    ofDigits_toDigits]
  · exact List.length_pos_iff.mpr Nat.toDigits_ne_nil
  · exact (Nat.length_toDigits_le_iff (by decide) positive).mpr short

theorem readField?_padded (positive : 0 < width) (short : n < 10 ^ width)
    (plain : isDigit mark = false) :
    readField? width width mark ((padded width n).toList ++ mark :: rest) = some (n, rest) := by
  have length := (Nat.length_toDigits_le_iff (by decide : 1 < 10) positive).mpr short
  have size : (List.replicate (width - (Nat.toDigits 10 n).length) '0' ++
      Nat.toDigits 10 n).length = width := by
    rw [List.length_append, List.length_replicate]
    omega
  have all : ∀ c ∈ List.replicate (width - (Nat.toDigits 10 n).length) '0' ++ Nat.toDigits 10 n,
      isDigit c = true := by
    intro c member
    rcases List.mem_append.mp member with zero | digit
    · rw [List.eq_of_mem_replicate zero]
      decide
    · exact isDigit_of_mem_toDigits digit
  rw [padded, String.toList_ofList, readField?_digits all size.ge size.le plain,
    ofDigits_replicate_append, ofDigits_toDigits]

end Fields

/-! ## Reading a text -/

/-- Reads a text with a date and a time of day that has milliseconds. A year has at most four
digits; a date that the calendar does not have is refused. -/
def read? (text : String) : Option Moment := do
  let (year, rest) ← readField? 1 4 '-' text.toList
  let (month, rest) ← readField? 2 2 '-' rest
  let (day, rest) ← readField? 2 2 'T' rest
  let (hour, rest) ← readField? 2 2 ':' rest
  let (minute, rest) ← readField? 2 2 ':' rest
  let (second, rest) ← readField? 2 2 '.' rest
  let (millisecond, rest) ← readField? 3 3 'Z' rest
  let moment : Moment :=
    { year, month, day, hour, minute, second, microsecond := millisecond * 1000 }
  if rest = [] ∧ moment.IsValid then some moment else none

theorem toList_iso (moment : Moment) :
    moment.iso.toList =
      (toString moment.year).toList ++ '-' :: ((padded 2 moment.month).toList ++
        '-' :: ((padded 2 moment.day).toList ++ 'T' :: ((padded 2 moment.hour).toList ++
        ':' :: ((padded 2 moment.minute).toList ++ ':' :: ((padded 2 moment.second).toList ++
        '.' :: ((padded 3 (moment.microsecond / 1000)).toList ++ ['Z'])))))) := by
  have marks : "-".toList = ['-'] ∧ "T".toList = ['T'] ∧ ":".toList = [':'] ∧ ".".toList = ['.'] ∧
      "Z".toList = ['Z'] := by
    decide
  obtain ⟨dash, start, colon, point, stop⟩ := marks
  simp only [iso, String.toList_append, dash, start, colon, point, stop, List.append_assoc,
    List.cons_append, List.nil_append]

/-- The text of a moment is read as the moment without the part of a millisecond. -/
theorem read?_iso {moment : Moment} (valid : moment.IsValid) :
    read? moment.iso = some moment.truncated := by
  have bounds := valid.date.month
  have day := valid.date.2.trans (Calendar.monthDays_le moment.year moment.month)
  have first := valid.first
  have last := valid.last
  have hour := valid.hour
  have minute := valid.minute
  have second := valid.second
  have microsecond := valid.microsecond
  unfold read?
  simp only [Option.bind_eq_bind]
  rw [toList_iso, readField?_toString (by decide) (by omega) (by decide), Option.bind_some,
    readField?_padded (by decide) (by omega) (by decide), Option.bind_some,
    readField?_padded (by decide) (by omega) (by decide), Option.bind_some,
    readField?_padded (by decide) (by omega) (by decide), Option.bind_some,
    readField?_padded (by decide) (by omega) (by decide), Option.bind_some,
    readField?_padded (by decide) (by omega) (by decide), Option.bind_some,
    readField?_padded (by decide) (by omega) (by decide), Option.bind_some]
  exact if_pos ⟨rfl, valid.truncated⟩

end Scriptlet.Moment
