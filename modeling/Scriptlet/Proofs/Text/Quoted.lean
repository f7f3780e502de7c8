import Mathlib.Algebra.Group.Nat.Defs
import Mathlib.Data.List.Basic
import Mathlib.Tactic.SplitIfs
import Scriptlet.Text.Quoted

/-!
# Reading quoted texts

Every character inside of quotes is read back from what is written for it, whatever follows.  So a
quoted text is the quoted form of one text only.
-/

namespace Scriptlet.Text

/-! ## Digits in base sixteen -/

/-- The number that a digit in base sixteen stands for. -/
def hexValue (digit : Char) : Nat :=
  if digit.isDigit then digit.toNat - '0'.toNat else digit.toNat - 'a'.toNat + 10

/-- The number that digits in base sixteen stand for. -/
def readHex (digits : List Char) : Nat :=
  digits.foldl (fun n digit => 16 * n + hexValue digit) 0

theorem hexValue_digitChar {d : Nat} (small : d < 16) : hexValue d.digitChar = d := by
  have all : ∀ d < 16, hexValue (Nat.digitChar d) = d := by decide
  exact all d small

theorem readHex_append (digits : List Char) (digit : Char) :
    readHex (digits ++ [digit]) = 16 * readHex digits + hexValue digit := by
  rw [readHex, List.foldl_append]
  rfl

theorem readHex_toDigits (n : Nat) : readHex (Nat.toDigits 16 n) = n := by
  induction n using Nat.strongRecOn with
  | ind n ih =>
      rcases Nat.lt_or_ge n 16 with small | large
      · rw [Nat.toDigits_of_lt_base small]
        simp [readHex, hexValue_digitChar small]
      · rw [Nat.toDigits_of_base_le (by decide) large, readHex_append, ih (n / 16) (by omega),
          hexValue_digitChar (Nat.mod_lt n (by decide))]
        omega

theorem readHex_hexDigits (width n : Nat) : readHex (hexDigits width n) = n := by
  have zeros (count : Nat) (digits : List Char) :
      readHex (List.replicate count '0' ++ digits) = readHex digits := by
    induction count with
    | zero => rfl
    | succ count ih =>
        rw [← ih]
        rfl
  rw [hexDigits, zeros, readHex_toDigits]

theorem length_hexDigits {width n : Nat} (positive : 0 < width) (fits : n < 16 ^ width) :
    (hexDigits width n).length = width := by
  have short := (Nat.length_toDigits_le_iff (by decide : 1 < 16) positive).mpr fits
  rw [hexDigits, List.length_append, List.length_replicate]
  omega

/-! ## Characters inside of quotes -/

/-- Reads an escape of a character by its number. -/
def takeCode (width : Nat) (text : List Char) : Char × List Char :=
  (Char.ofNat (readHex (text.take width)), text.drop width)

/-- Reads a character that is written as an escape, from behind the backslash. -/
def takeEscape? : List Char → Option (Char × List Char)
  | [] => none
  | 'n' :: rest => some ('\n', rest)
  | 'r' :: rest => some ('\r', rest)
  | 't' :: rest => some ('\t', rest)
  | 'x' :: rest => some (takeCode 2 rest)
  | 'u' :: rest => some (takeCode 4 rest)
  | 'U' :: rest => some (takeCode 8 rest)
  | c :: rest => some (c, rest)

/-- Reads the first character from the inside of a quoted text. -/
def takeQuoted? : List Char → Option (Char × List Char)
  | [] => none
  | c :: rest => if c = '\\' then takeEscape? rest else some (c, rest)

theorem takeCode_hexDigits {width : Nat} {c : Char} (positive : 0 < width)
    (fits : c.toNat < 16 ^ width) (rest : List Char) :
    takeCode width (hexDigits width c.toNat ++ rest) = (c, rest) := by
  have length := length_hexDigits positive fits
  rw [takeCode, List.take_left' length, List.drop_left' length, readHex_hexDigits, Char.ofNat_toNat]

theorem takeQuoted?_codeEscape (c : Char) (rest : List Char) :
    takeQuoted? (codeEscape c ++ rest) = some (c, rest) := by
  have bound : c.toNat < 16 ^ 8 := by
    have valid := c.valid
    simp only [UInt32.isValidChar, Nat.isValidChar] at valid
    simp only [Char.toNat]
    omega
  unfold codeEscape
  dsimp only
  split
  · rename_i small
    exact congrArg some (takeCode_hexDigits (by decide) small rest)
  · split
    · rename_i small
      exact congrArg some (takeCode_hexDigits (by decide) small rest)
    · exact congrArg some (takeCode_hexDigits (by decide) bound rest)

/-- The marks that quotes can be. -/
def quoteMarks : List Char :=
  ['\'', '"']

theorem quoteMark_mem (text : List Char) : quoteMark text ∈ quoteMarks := by
  unfold quoteMark
  split <;> decide

/-- What is written for a character is read back. -/
theorem takeQuoted?_quoteChar {mark : Char} (isMark : mark ∈ quoteMarks) (c : Char)
    (rest : List Char) : takeQuoted? (quoteChar mark c ++ rest) = some (c, rest) := by
  unfold quoteChar
  split_ifs with special feed carriage tab printable
  · have escaped : c ∈ '\\' :: quoteMarks := by
      rcases special with rfl | rfl
      · exact List.mem_cons_of_mem _ isMark
      · exact List.mem_cons_self
    simp only [quoteMarks, List.mem_cons, List.not_mem_nil, or_false] at escaped
    rcases escaped with rfl | rfl | rfl <;> rfl
  · rw [feed]
    rfl
  · rw [carriage]
    rfl
  · rw [tab]
    rfl
  · exact if_neg fun backslash => special (.inr backslash)
  · exact takeQuoted?_codeEscape c rest

theorem quoteChar_append_inj {mark c d : Char} (isMark : mark ∈ quoteMarks)
    {rest others : List Char}
    (same : quoteChar mark c ++ rest = quoteChar mark d ++ others) : c = d ∧ rest = others := by
  have read := congrArg takeQuoted? same
  rw [takeQuoted?_quoteChar isMark, takeQuoted?_quoteChar isMark] at read
  exact Prod.mk.inj (Option.some.inj read)

/-- No character is written with the mark in front. -/
theorem quoteChar_eq_cons {mark : Char} (isMark : mark ∈ quoteMarks) (c : Char) :
    ∃ first more, quoteChar mark c = first :: more ∧ first ≠ mark := by
  have backslash : '\\' ≠ mark := by
    rintro rfl
    revert isMark
    decide
  unfold quoteChar codeEscape
  dsimp only
  split_ifs with special
  -- Everything but a plain character is written with a backslash in front.
  all_goals first
    | exact ⟨_, _, rfl, backslash⟩
    | exact ⟨_, _, rfl, fun same => special (.inl same)⟩

theorem quoteChar_append_ne {mark : Char} (isMark : mark ∈ quoteMarks) (c : Char)
    (rest others : List Char) : quoteChar mark c ++ rest ≠ mark :: others := by
  obtain ⟨first, more, written, other⟩ := quoteChar_eq_cons isMark c
  rw [written]
  exact fun same => other (List.cons.inj same).1

/-! ## Texts -/

theorem flatMap_quoteChar_inj {mark : Char} (isMark : mark ∈ quoteMarks) (text other : List Char)
    (same : text.flatMap (quoteChar mark) ++ [mark] = other.flatMap (quoteChar mark) ++ [mark]) :
    text = other := by
  induction text generalizing other with
  | nil =>
      cases other with
      | nil => rfl
      | cons d others =>
          rw [List.flatMap_cons, List.append_assoc] at same
          exact absurd same.symm (quoteChar_append_ne isMark _ _ _)
  | cons c rest ih =>
      rw [List.flatMap_cons, List.append_assoc] at same
      cases other with
      | nil => exact absurd same (quoteChar_append_ne isMark _ _ _)
      | cons d others =>
          rw [List.flatMap_cons, List.append_assoc] at same
          obtain ⟨rfl, behind⟩ := quoteChar_append_inj isMark same
          rw [ih others behind]

theorem toList_quoted (text : String) :
    (quoted text).toList = quoteMark text.toList ::
      (text.toList.flatMap (quoteChar (quoteMark text.toList)) ++ [quoteMark text.toList]) :=
  String.toList_ofList

/-- A quoted text is the quoted form of one text only. -/
theorem quoted_injective : Function.Injective quoted := by
  intro text other same
  have chars := congrArg String.toList same
  rw [toList_quoted, toList_quoted] at chars
  obtain ⟨marks, inside⟩ := List.cons.inj chars
  rw [← marks] at inside
  exact String.toList_inj.mp (flatMap_quoteChar_inj (quoteMark_mem _) _ _ inside)

end Scriptlet.Text
