import Mathlib.Tactic.IntervalCases
import Scriptlet.Number.Format
import Scriptlet.Number.Reading

/-!
# Numerals

A numeral is a decimal text taken apart: a sign, the digits before the point, the digits behind it
and an exponent.  The texts of integers and the literal forms of numbers are texts of numerals, and
a number that is read from the text of a numeral is the value of the numeral.
-/

namespace Scriptlet.Number

open Text

/-! ## Digits -/

theorem isDigit_eq_isDigit (c : Char) : Text.isDigit c = c.isDigit := rfl

/-- The ten digits. -/
def digitCharacters : List Char :=
  ['0', '1', '2', '3', '4', '5', '6', '7', '8', '9']

theorem mem_digitCharacters {c : Char} (digit : Text.isDigit c = true) : c ∈ digitCharacters := by
  obtain ⟨low, high⟩ : '0' ≤ c ∧ c ≤ '9' := by simpa [Text.isDigit] using digit
  have digits : ∀ n, 48 ≤ n → n ≤ 57 → Char.ofNat n ∈ digitCharacters := by
    intro n low high
    interval_cases n <;> decide
  rw [← Char.ofNat_toNat c]
  exact digits c.toNat low high

/-- What is true of the ten digits is true of every digit. -/
theorem of_isDigit (p : Char → Prop) [DecidablePred p]
    (digits : digitCharacters.all (fun c => p c) = true) {c : Char}
    (digit : Text.isDigit c = true) : p c :=
  of_decide_eq_true (List.all_eq_true.mp digits c (mem_digitCharacters digit))

theorem ne_of_isDigit {c other : Char} (digit : Text.isDigit c = true)
    (plain : Text.isDigit other = false) : c ≠ other := by
  rintro rfl
  rw [digit] at plain
  cases plain

theorem isDigit_of_mem_toDigits {n : Nat} {c : Char} (member : c ∈ Nat.toDigits 10 n) :
    Text.isDigit c = true := by
  rw [isDigit_eq_isDigit]
  exact Nat.isDigit_of_mem_toDigits (by decide) (by decide) member

theorem ofDigits_eq_ofDigitChars (digits : List Char) :
    ofDigits digits = Nat.ofDigitChars 10 digits 0 := by
  have steps : (fun n c => n * 10 + asciiDigit c) = fun n c => 10 * n + (c.toNat - '0'.toNat) := by
    funext n c
    rw [asciiDigit, Nat.mul_comm]
  rw [ofDigits, steps]
  rfl

theorem ofDigits_toDigits (n : Nat) : ofDigits (Nat.toDigits 10 n) = n := by
  rw [ofDigits_eq_ofDigitChars]
  exact Nat.ofDigitChars_toDigits (by decide) (by decide)

theorem ofDigits_replicate_append (count : Nat) (digits : List Char) :
    ofDigits (List.replicate count '0' ++ digits) = ofDigits digits := by
  induction count with
  | zero => rfl
  | succ count ih => exact ih

theorem ofDigits_of_zeros {digits : List Char} (zeros : ∀ c ∈ digits, c = '0') :
    ofDigits digits = 0 := by
  rw [List.eq_replicate_of_mem zeros, ← List.append_nil (List.replicate _ _),
    ofDigits_replicate_append]
  rfl

/-- The digits of a positive number do not start with zero. -/
theorem head?_toDigits_ne_zero {n : Nat} (positive : 0 < n) :
    (Nat.toDigits 10 n).head? ≠ some '0' := by
  induction n using Nat.strongRecOn with
  | ind n ih =>
      by_cases small : n < 10
      · rw [Nat.toDigits_of_lt_base small]
        have digit : ∀ n < 10, 0 < n → ([Nat.digitChar n] : List Char).head? ≠ some '0' := by
          decide
        exact digit n small positive
      · rw [Nat.toDigits_of_base_le (by decide) (by omega), List.head?_append]
        have front := ih (n / 10) (by omega) (by omega)
        obtain ⟨c, rest, front_eq⟩ := List.exists_cons_of_ne_nil (Nat.toDigits_ne_nil (n := n / 10)
          (b := 10))
        rw [front_eq] at front ⊢
        simpa using front

/-! ## The parts of a numeral -/

/-- A decimal text taken apart. -/
structure Numeral where
  negative : Bool
  /-- The digits before the point. -/
  whole : List Char
  /-- The digits behind the point; without digits there is no point. -/
  fraction : List Char := []
  /-- Whether the exponent is negative, and its digits. -/
  exponent : Option (Bool × List Char) := none

namespace Numeral

/-- The point with the digits behind it. -/
def fractionText : List Char → List Char
  | [] => []
  | c :: rest => '.' :: c :: rest

/-- The exponent with its sign. -/
def exponentText : Option (Bool × List Char) → List Char
  | none => []
  | some (down, digits) => 'e' :: (if down then '-' else '+') :: digits

/-- The text without the sign. -/
def size (numeral : Numeral) : List Char :=
  numeral.whole ++ (fractionText numeral.fraction ++ exponentText numeral.exponent)

/-- The text of a numeral. -/
def text (numeral : Numeral) : List Char :=
  if numeral.negative then '-' :: numeral.size else numeral.size

/-- A numeral is made of digits and has some before the point. -/
structure Valid (numeral : Numeral) : Prop where
  whole : ∀ c ∈ numeral.whole, isDigit c = true
  whole_ne : numeral.whole ≠ []
  fraction : ∀ c ∈ numeral.fraction, isDigit c = true
  exponent : ∀ down digits, numeral.exponent = some (down, digits) →
    digits ≠ [] ∧ ∀ c ∈ digits, isDigit c = true

/-- The exponent as an integer. -/
def shift (numeral : Numeral) : Int :=
  match numeral.exponent with
  | none => 0
  | some (down, digits) => if down then -(ofDigits digits : Int) else ofDigits digits

/-- The number nearest to the decimal, without the sign. -/
def magnitude (numeral : Numeral) : Float :=
  ofDecimal (ofDigits (numeral.whole ++ numeral.fraction))
    (numeral.shift - (numeral.fraction.length : Int))

/-- The number nearest to the decimal. -/
def value (numeral : Numeral) : Float :=
  if numeral.negative then -numeral.magnitude else numeral.magnitude

/-! ## Reading a numeral -/

/-- The text goes on with something that is no digit. -/
def StopsDigits (text : List Char) : Prop :=
  ∀ c, text.head? = some c → isDigit c = false

theorem takeWhile_isDigit {digits rest : List Char} (all : ∀ c ∈ digits, isDigit c = true)
    (stops : StopsDigits rest) : (digits ++ rest).takeWhile isDigit = digits := by
  rw [List.takeWhile_append_of_pos all]
  cases rest with
  | nil => simp
  | cons c rest => simp [stops c rfl]

theorem dropWhile_isDigit {digits rest : List Char} (all : ∀ c ∈ digits, isDigit c = true)
    (stops : StopsDigits rest) : (digits ++ rest).dropWhile isDigit = rest := by
  rw [List.dropWhile_append_of_pos all]
  cases rest with
  | nil => rfl
  | cons c rest => simp [stops c rfl]

theorem stopsDigits_exponentText (exponent : Option (Bool × List Char)) {rest : List Char}
    (stops : StopsDigits rest) : StopsDigits (exponentText exponent ++ rest) := by
  cases exponent with
  | none => exact stops
  | some exponent =>
      rintro c head
      obtain rfl : 'e' = c := by simpa [exponentText] using head
      decide

theorem stopsDigits_fractionText (fraction : List Char) {rest : List Char}
    (stops : StopsDigits rest) : StopsDigits (fractionText fraction ++ rest) := by
  cases fraction with
  | nil => exact stops
  | cons digit digits =>
      rintro c head
      obtain rfl : '.' = c := by simpa [fractionText] using head
      decide

/-- A character of a numeral is a digit, a point, the mark of an exponent or a sign. -/
theorem mem_text {numeral : Numeral} (valid : numeral.Valid) {c : Char}
    (member : c ∈ numeral.text) :
    isDigit c = true ∨ c = '.' ∨ c = 'e' ∨ c = '+' ∨ c = '-' := by
  have inSize (inside : c ∈ numeral.size) :
      isDigit c = true ∨ c = '.' ∨ c = 'e' ∨ c = '+' ∨ c = '-' := by
    rcases List.mem_append.mp inside with inWhole | inside
    · exact Or.inl (valid.whole c inWhole)
    rcases List.mem_append.mp inside with inFraction | inExponent
    · have digits := valid.fraction
      cases fraction_eq : numeral.fraction with
      | nil => simp [fraction_eq, fractionText] at inFraction
      | cons digit rest =>
          rw [fraction_eq] at inFraction digits
          rcases List.mem_cons.mp inFraction with rfl | inDigits
          · exact Or.inr (Or.inl rfl)
          · exact Or.inl (digits c inDigits)
    · cases exponent_eq : numeral.exponent with
      | none => simp [exponent_eq, exponentText] at inExponent
      | some exponent =>
          obtain ⟨down, digits⟩ := exponent
          rw [exponent_eq] at inExponent
          have digitsValid := (valid.exponent down digits exponent_eq).2
          rcases List.mem_cons.mp inExponent with rfl | inExponent
          · exact Or.inr (Or.inr (Or.inl rfl))
          rcases List.mem_cons.mp inExponent with rfl | inDigits
          · cases down <;> simp
          · exact Or.inl (digitsValid c inDigits)
  unfold text at member
  split at member
  · rcases List.mem_cons.mp member with rfl | member
    · simp
    · exact inSize member
  · exact inSize member

theorem plainDigit_of_mem_text {numeral : Numeral} (valid : numeral.Valid) {c : Char}
    (member : c ∈ numeral.text) : plainDigit c = c ∧ isBlank c = false ∧ c ≠ '_' := by
  rcases mem_text valid member with digit | rfl | rfl | rfl | rfl
  · exact of_isDigit (fun c => plainDigit c = c ∧ isBlank c = false ∧ c ≠ '_') (by decide) digit
  all_goals decide

theorem dropWhile_isBlank {text : List Char} (visible : ∀ c ∈ text, isBlank c = false) :
    text.dropWhile isBlank = text := by
  cases text with
  | nil => rfl
  | cons c rest => simp [visible c List.mem_cons_self]

theorem strip_of_visible {text : List Char} (visible : ∀ c ∈ text, isBlank c = false) :
    strip text = text := by
  have backwards : ∀ c ∈ text.reverse, isBlank c = false := by
    intro c member
    exact visible c (List.mem_reverse.mp member)
  rw [strip, dropWhile_isBlank visible, dropWhile_isBlank backwards, List.reverse_reverse]

theorem dropUnderscores_of_absent {before : Char} {text : List Char} (plain : before ≠ '_')
    (absent : ∀ c ∈ text, c ≠ '_') : dropUnderscores before text = some text := by
  induction text generalizing before with
  | nil => simp [dropUnderscores, plain]
  | cons c rest ih =>
      have here : c ≠ '_' := absent c List.mem_cons_self
      have later := ih here fun other member => absent other (List.mem_cons_of_mem c member)
      simp [dropUnderscores, here, plain, later]

theorem readExponent?_exponentText {numeral : Numeral} (valid : numeral.Valid) :
    readExponent? (exponentText numeral.exponent) = some numeral.shift := by
  cases exponent_eq : numeral.exponent with
  | none => simp [exponentText, readExponent?, shift, exponent_eq]
  | some exponent =>
      obtain ⟨down, digits⟩ := exponent
      obtain ⟨digits_ne, digitsValid⟩ := valid.exponent down digits exponent_eq
      have all : digits.all isDigit = true := List.all_eq_true.mpr digitsValid
      cases down <;> simp [exponentText, readExponent?, shift, exponent_eq, digits_ne, all]

theorem readUnsigned?_size {numeral : Numeral} (valid : numeral.Valid) :
    readUnsigned? numeral.size = some numeral.magnitude := by
  have ends : StopsDigits (exponentText numeral.exponent) := by
    have nothing : StopsDigits [] := by simp [StopsDigits]
    simpa using stopsDigits_exponentText numeral.exponent nothing
  have stops := stopsDigits_fractionText numeral.fraction ends
  have whole := takeWhile_isDigit valid.whole stops
  have afterWhole := dropWhile_isDigit valid.whole stops
  have exponent := readExponent?_exponentText valid
  unfold readUnsigned? size
  rw [whole, afterWhole]
  cases fraction_eq : numeral.fraction with
  | nil =>
      have noPoint : (if (numeral.whole.isEmpty && true) = true then none
          else (readExponent? (exponentText numeral.exponent)).map fun power =>
            ofDecimal (ofDigits (numeral.whole ++ [])) (power - ([] : List Char).length)) =
          some numeral.magnitude := by
        rw [exponent]
        simp [valid.whole_ne, magnitude, fraction_eq]
      rw [← noPoint]
      cases numeral.exponent <;> rfl
  | cons digit digits =>
      have digitsValid := valid.fraction
      rw [fraction_eq] at digitsValid
      have fraction := takeWhile_isDigit digitsValid ends
      have afterFraction := dropWhile_isDigit digitsValid ends
      simp only [fractionText, List.cons_append] at fraction afterFraction ⊢
      rw [fraction, afterFraction, exponent]
      simp [magnitude, fraction_eq]

/-- The first character of a numeral without its sign is a digit. -/
theorem head_size {numeral : Numeral} (valid : numeral.Valid) :
    ∃ c rest, numeral.size = c :: rest ∧ isDigit c = true := by
  obtain ⟨c, rest, whole_eq⟩ := List.exists_cons_of_ne_nil valid.whole_ne
  have digit := valid.whole c (by rw [whole_eq]; exact List.mem_cons_self)
  exact ⟨c, _, by rw [size, whole_eq, List.cons_append], digit⟩

theorem readMagnitude?_size {numeral : Numeral} (valid : numeral.Valid) :
    readMagnitude? numeral.size = some numeral.magnitude := by
  obtain ⟨c, rest, size_eq, digit⟩ := head_size valid
  have lower : c.toLower = c := of_isDigit (fun c => c.toLower = c) (by decide) digit
  have noName (name : List Char) (starts : name.head?.map isDigit = some false) :
      String.ofList (numeral.size.map Char.toLower) ≠ String.ofList name := by
    intro same
    have texts := congrArg String.toList same
    rw [String.toList_ofList, String.toList_ofList, size_eq, List.map_cons, lower] at texts
    rw [← texts] at starts
    simp [digit] at starts
  unfold readMagnitude?
  split
  · rename_i found
    exact absurd found (noName ['i', 'n', 'f'] (by decide))
  · rename_i found
    exact absurd found (noName "infinity".toList (by decide))
  · rename_i found
    exact absurd found (noName "nan".toList (by decide))
  · exact readUnsigned?_size valid

/-- A number that is read from the text of a numeral is the value of the numeral. -/
theorem read?_text {numeral : Numeral} (valid : numeral.Valid) :
    read? numeral.text = some numeral.value := by
  have plain : numeral.text.map plainDigit = numeral.text := by
    have each : ∀ c ∈ numeral.text, plainDigit c = id c := by
      intro c member
      exact (plainDigit_of_mem_text valid member).1
    rw [List.map_congr_left each, List.map_id]
  have visible : strip numeral.text = numeral.text := by
    apply strip_of_visible
    intro c member
    exact (plainDigit_of_mem_text valid member).2.1
  have whole : dropUnderscores ' ' numeral.text = some numeral.text := by
    apply dropUnderscores_of_absent (by decide)
    intro c member
    exact (plainDigit_of_mem_text valid member).2.2
  have magnitude := readMagnitude?_size valid
  obtain ⟨c, rest, size_eq, digit⟩ := head_size valid
  unfold read?
  rw [visible, plain, whole]
  cases sign : numeral.negative with
  | true => simp [text, value, sign, magnitude]
  | false =>
      have notMinus : c ≠ '-' := ne_of_isDigit digit (by decide)
      have notPlus : c ≠ '+' := ne_of_isDigit digit (by decide)
      rw [size_eq] at magnitude
      simp only [text, value, sign, size_eq, Bool.false_eq_true, if_false]
      split <;> simp_all

/-! ## Integers -/

/-- The numeral of an integer. -/
def ofInt (n : Int) : Numeral :=
  { negative := decide (n < 0), whole := Nat.toDigits 10 n.natAbs }

theorem ofInt_valid (n : Int) : (ofInt n).Valid where
  whole _ member := isDigit_of_mem_toDigits member
  whole_ne := Nat.toDigits_ne_nil
  fraction _ member := by cases member
  exponent _ _ found := by cases found

theorem text_ofInt (n : Int) : (ofInt n).text = (toString n).toList := by
  have size_eq : (ofInt n).size = Nat.toDigits 10 n.natAbs := by
    simp [size, ofInt, fractionText, exponentText]
  rw [text, size_eq]
  cases n with
  | ofNat n =>
      have sign : (ofInt (Int.ofNat n)).negative = false := by simp [ofInt]
      rw [sign]
      exact Nat.toList_repr.symm
  | negSucc n =>
      have sign : (ofInt (Int.negSucc n)).negative = true := by simp [ofInt, Int.negSucc_lt_zero]
      rw [sign]
      change '-' :: Nat.toDigits 10 (n + 1) = ("-" ++ (n + 1).repr).toList
      rw [String.toList_append, Nat.toList_repr]
      rfl

/-! ## Literals -/

/-- The numeral that a positive decimal is written as, with a sign. -/
def ofDecimal (negative : Bool) (d : Decimal) : Numeral :=
  let digits := Nat.toDigits 10 d.digits
  let point : Int := digits.length + d.power
  if literalLayout.leastPositional ≤ point - 1 ∧ point - 1 < literalLayout.firstScientific then
    if point ≤ 0 then
      { negative, whole := ['0'], fraction := List.replicate (-point).toNat '0' ++ digits }
    else if (digits.length : Int) ≤ point then
      { negative
        whole := digits ++ List.replicate (point.toNat - digits.length) '0'
        fraction := ['0'] }
    else { negative, whole := digits.take point.toNat, fraction := digits.drop point.toNat }
  else
    let size := Nat.toDigits 10 (point - 1).natAbs
    { negative
      whole := digits.take 1
      fraction := digits.drop 1
      exponent := some (decide (point - 1 < 0),
        List.replicate (literalLayout.exponentWidth - size.length) '0' ++ size) }

theorem negative_ofDecimal (negative : Bool) (d : Decimal) :
    (ofDecimal negative d).negative = negative := by
  unfold ofDecimal
  dsimp only
  split_ifs <;> rfl

theorem fractionText_of_ne_nil {fraction : List Char} (nonempty : fraction ≠ []) :
    fractionText fraction = '.' :: fraction := by
  cases fraction with
  | nil => exact absurd rfl nonempty
  | cons => rfl

theorem size_ofDecimal (negative : Bool) (d : Decimal) :
    (ofDecimal negative d).size = d.render := by
  have digits_ne : Nat.toDigits 10 d.digits ≠ [] := Nat.toDigits_ne_nil
  unfold ofDecimal Decimal.render
  dsimp only
  split_ifs with positionally before behind
  · have fraction_ne (count : Nat) :
        List.replicate count '0' ++ Nat.toDigits 10 d.digits ≠ [] := by simp [digits_ne]
    rw [size, positional, if_pos before, fractionText_of_ne_nil (fraction_ne _)]
    simp [exponentText]
  · simp [size, positional, before, behind, exponentText, fractionText]
  · have fraction_ne : (Nat.toDigits 10 d.digits).drop
        ((Nat.toDigits 10 d.digits).length + d.power).toNat ≠ [] := by
      rw [Ne, List.drop_eq_nil_iff]
      omega
    rw [size, positional, if_neg before, if_neg behind, fractionText_of_ne_nil fraction_ne]
    simp [exponentText]
  · simp only [size, scientific, exponentText]
    cases (Nat.toDigits 10 d.digits).drop 1 with
    | nil => simp [fractionText]
    | cons => simp [fractionText]

/-- The digits of the numeral of a decimal are those of the decimal and zeros. -/
theorem mem_ofDecimal {negative : Bool} {d : Decimal} {c : Char}
    (member : c ∈ (ofDecimal negative d).whole ++ (ofDecimal negative d).fraction) :
    c = '0' ∨ c ∈ Nat.toDigits 10 d.digits := by
  unfold ofDecimal at member
  dsimp only at member
  split_ifs at member with positionally before behind
  · simp only [List.mem_append, List.mem_singleton, List.mem_replicate] at member
    tauto
  · simp only [List.mem_append, List.mem_singleton, List.mem_replicate] at member
    tauto
  · rw [List.take_append_drop] at member
    exact Or.inr member
  · rw [List.take_append_drop] at member
    exact Or.inr member

theorem ofDecimal_valid (negative : Bool) (d : Decimal) : (ofDecimal negative d).Valid := by
  have digits_ne : Nat.toDigits 10 d.digits ≠ [] := Nat.toDigits_ne_nil
  have digits {c : Char} (member : c = '0' ∨ c ∈ Nat.toDigits 10 d.digits) : isDigit c = true := by
    rcases member with rfl | member
    · decide
    · exact isDigit_of_mem_toDigits member
  constructor
  case whole =>
    intro c member
    exact digits (mem_ofDecimal (List.mem_append_left _ member))
  case fraction =>
    intro c member
    exact digits (mem_ofDecimal (List.mem_append_right _ member))
  case whole_ne =>
    unfold ofDecimal
    dsimp only
    split_ifs with positionally before behind
    · exact List.cons_ne_nil _ _
    · simp [digits_ne]
    · rw [Ne, List.take_eq_nil_iff]
      rintro (none | empty)
      · omega
      · exact digits_ne empty
    · simp [digits_ne]
  case exponent =>
    intro down size found
    unfold ofDecimal at found
    dsimp only at found
    split_ifs at found with positionally before behind
    obtain ⟨rfl, rfl⟩ := Prod.mk.inj (Option.some.inj found)
    constructor
    · simp [Nat.toDigits_ne_nil]
    · intro c member
      rcases List.mem_append.mp member with inZeros | inSize
      · exact digits (Or.inl (List.eq_of_mem_replicate inZeros))
      · exact isDigit_of_mem_toDigits inSize

/-- The digits before the point do not start with a zero, unless there is only that zero. -/
def Plain (numeral : Numeral) : Prop :=
  numeral.whole = ['0'] ∨ numeral.whole.head? ≠ some '0'

/-- The numeral has a point or an exponent. -/
def Marked (numeral : Numeral) : Prop :=
  numeral.fraction ≠ [] ∨ numeral.exponent.isSome = true

theorem ofInt_plain (n : Int) : (ofInt n).Plain := by
  rcases Nat.eq_zero_or_pos n.natAbs with zero | positive
  · left
    simp [ofInt, zero]
  · right
    exact head?_toDigits_ne_zero positive

theorem ofDecimal_plain (negative : Bool) {d : Decimal} (positive : 0 < d.digits) :
    (ofDecimal negative d).Plain := by
  have first := head?_toDigits_ne_zero positive
  obtain ⟨c, rest, digits_eq⟩ := List.exists_cons_of_ne_nil (Nat.toDigits_ne_nil (n := d.digits)
    (b := 10))
  unfold ofDecimal
  dsimp only
  rw [digits_eq] at first ⊢
  split_ifs with positionally before behind
  · exact Or.inl rfl
  · exact Or.inr first
  · right
    obtain ⟨point, point_eq⟩ : ∃ point,
        (((c :: rest).length : Int) + d.power).toNat = point + 1 :=
      ⟨(((c :: rest).length : Int) + d.power).toNat - 1, by omega⟩
    rw [point_eq]
    exact first
  · exact Or.inr first

theorem ofDecimal_marked (negative : Bool) (d : Decimal) : (ofDecimal negative d).Marked := by
  have digits_ne : Nat.toDigits 10 d.digits ≠ [] := Nat.toDigits_ne_nil
  unfold ofDecimal
  dsimp only
  split_ifs with positionally before behind
  · left
    simp [digits_ne]
  · exact Or.inl (List.cons_ne_nil _ _)
  · left
    rw [Ne, List.drop_eq_nil_iff]
    omega
  · exact Or.inr rfl

/-- A decimal without digits other than zero is zero. -/
theorem magnitude_ofDecimal_zero (negative : Bool) (power : Int) :
    (ofDecimal negative ⟨0, power⟩).magnitude = 0.0 := by
  have zeros : ∀ c ∈ (ofDecimal negative ⟨0, power⟩).whole ++
      (ofDecimal negative ⟨0, power⟩).fraction, c = '0' := by
    intro c member
    rcases mem_ofDecimal member with zero | member
    · exact zero
    · simpa using member
  rw [magnitude, ofDigits_of_zeros zeros]
  rfl

/-- The literal form of a number with a mantissa is the text of a numeral. -/
theorem literal_eq_text {x : Float} {parts : Parts} (finite : shape x = .finite parts)
    (mantissa : parts.mantissa ≠ 0) :
    (literal x).toList =
      (ofDecimal parts.negative (shortest parts.mantissa parts.exponent)).text := by
  rw [text, negative_ofDecimal, size_ofDecimal]
  simp [literal, finite, mantissa]

end Numeral
end Scriptlet.Number
