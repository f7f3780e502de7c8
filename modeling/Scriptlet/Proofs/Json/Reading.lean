import Scriptlet.Proofs.Number.ReadBack
import Scriptlet.Json.Reader
import Scriptlet.Json.Writer

/-!
# Reading what was written

A JSON value that can be the form of a script value is read back from its compact text as it was
written.  The reader looks at one character to know what comes next, so each part is read from the
front of any text that goes on in a way that can follow it.
-/

namespace Scriptlet.Json

open Text Number

/-! ## Numbers -/

/-- The text ends, or goes on with what may follow a value inside brackets. -/
def Closes (rest : List Char) : Prop :=
  ∀ c, rest.head? = some c → c = ',' ∨ c = ']' ∨ c = '\x7d'

theorem Closes.stopsDigits {rest : List Char} (closes : Closes rest) :
    Numeral.StopsDigits rest := by
  intro c head
  rcases closes c head with rfl | rfl | rfl <;> decide

theorem wholeDigits_size {numeral : Numeral} (valid : numeral.Valid) (plain : numeral.Plain)
    {rest : List Char} (stops : Numeral.StopsDigits rest) :
    wholeDigits (numeral.whole ++ rest) = numeral.whole := by
  have digits := Numeral.takeWhile_isDigit valid.whole stops
  rcases plain with zero | first
  · rw [zero]
    rfl
  · obtain ⟨c, others, whole_eq⟩ := List.exists_cons_of_ne_nil valid.whole_ne
    rw [whole_eq] at first digits ⊢
    have notZero : c ≠ '0' := by simpa using first
    rw [List.cons_append] at digits ⊢
    unfold wholeDigits
    split
    · rename_i same
      exact absurd (List.cons.inj same).1 notZero
    · exact digits

theorem exponentPart_of_closes {rest : List Char} (closes : Closes rest) :
    exponentPart rest = none := by
  cases rest with
  | nil => rfl
  | cons c rest =>
      rcases closes c rfl with rfl | rfl | rfl <;> simp [exponentPart]

theorem exponentPart_exponentText {numeral : Numeral} (valid : numeral.Valid) {rest : List Char}
    (closes : Closes rest) :
    exponentPart (Numeral.exponentText numeral.exponent ++ rest) =
      numeral.exponent.map fun part => (true, part) := by
  cases exponent_eq : numeral.exponent with
  | none => exact exponentPart_of_closes closes
  | some part =>
      obtain ⟨down, digits⟩ := part
      obtain ⟨digits_ne, digitsValid⟩ := valid.exponent down digits exponent_eq
      have taken := Numeral.takeWhile_isDigit digitsValid closes.stopsDigits
      cases down <;> simp [Numeral.exponentText, exponentPart, taken, digits_ne]

theorem fractionDigits_exponentText (exponent : Option (Bool × List Char)) {rest : List Char}
    (closes : Closes rest) : fractionDigits (Numeral.exponentText exponent ++ rest) = [] := by
  cases exponent with
  | some part => rfl
  | none =>
      cases rest with
      | nil => rfl
      | cons c rest => rcases closes c rfl with rfl | rfl | rfl <;> rfl

theorem fractionDigits_fractionText {numeral : Numeral} (valid : numeral.Valid) {rest : List Char}
    (closes : Closes rest) :
    fractionDigits (Numeral.fractionText numeral.fraction ++
      (Numeral.exponentText numeral.exponent ++ rest)) = numeral.fraction := by
  have digitsValid := valid.fraction
  cases fraction_eq : numeral.fraction with
  | nil => exact fractionDigits_exponentText numeral.exponent closes
  | cons digit digits =>
      rw [fraction_eq] at digitsValid
      exact Numeral.takeWhile_isDigit digitsValid
        (Numeral.stopsDigits_exponentText numeral.exponent closes.stopsDigits)

theorem drop_fractionText (fraction rest : List Char) :
    (Numeral.fractionText fraction ++ rest).drop
      (if fraction.isEmpty then 0 else fraction.length + 1) = rest := by
  cases fraction with
  | nil => rfl
  | cons digit digits =>
      change (digits ++ rest).drop digits.length = rest
      exact List.drop_left

theorem splitSign_text {numeral : Numeral} (valid : numeral.Valid) (rest : List Char) :
    splitSign (numeral.text ++ rest) = (numeral.negative, numeral.size ++ rest) := by
  cases sign : numeral.negative with
  | true => simp [Numeral.text, sign, splitSign]
  | false =>
      obtain ⟨c, others, head, digit⟩ := Numeral.head_size valid
      have notMinus : c ≠ '-' := ne_of_isDigit digit (by decide)
      rw [Numeral.text, sign, head]
      simp [splitSign, notMinus]

/-- What is read from the text of a numeral. -/
def ofNumeral (numeral : Numeral) : Json :=
  if numeral.fraction.isEmpty && numeral.exponent.isNone then
    .int (if numeral.negative then -(ofDigits numeral.whole : Int) else ofDigits numeral.whole)
  else .float numeral.value

theorem readNumber_text {numeral : Numeral} (valid : numeral.Valid) (plain : numeral.Plain)
    (short : numeral.Marked ∨ numeral.whole.length ≤ digitLimit)
    {rest : List Char} (closes : Closes rest) (position : Nat) :
    ∃ stop, readNumber ⟨position, numeral.text ++ rest⟩ =
      .ok (ofNumeral numeral, ⟨stop, rest⟩) := by
  have afterWhole : Numeral.StopsDigits (Numeral.fractionText numeral.fraction ++
      (Numeral.exponentText numeral.exponent ++ rest)) :=
    Numeral.stopsDigits_fractionText _
      (Numeral.stopsDigits_exponentText _ closes.stopsDigits)
  have whole := wholeDigits_size valid plain afterWhole
  have fraction := fractionDigits_fractionText valid closes
  have exponent := exponentPart_exponentText valid closes
  have size_eq : numeral.size ++ rest = numeral.whole ++
      (Numeral.fractionText numeral.fraction ++
        (Numeral.exponentText numeral.exponent ++ rest)) := by
    simp [Numeral.size]
  have whole_ne : numeral.whole.isEmpty = false := by simp [valid.whole_ne]
  unfold readNumber
  simp only [splitSign_text valid rest]
  rw [size_eq, whole, whole_ne, List.drop_left, fraction, drop_fractionText, exponent]
  cases exponent_eq : numeral.exponent with
  | some part =>
      obtain ⟨down, digits⟩ := part
      have dropped : (Numeral.exponentText (some (down, digits)) ++ rest).drop
          (digits.length + 1 + 1) = rest := by
        change (digits ++ rest).drop digits.length = rest
        exact List.drop_left
      have form : ofNumeral numeral = .float (if numeral.negative then
            -ofDecimal (ofDigits (numeral.whole ++ numeral.fraction))
              ((if down then -(ofDigits digits : Int) else ofDigits digits) -
                (numeral.fraction.length : Int))
          else ofDecimal (ofDigits (numeral.whole ++ numeral.fraction))
              ((if down then -(ofDigits digits : Int) else ofDigits digits) -
                (numeral.fraction.length : Int))) := by
        simp [ofNumeral, exponent_eq, Numeral.value, Numeral.magnitude, Numeral.shift]
      simp only [Option.map_some, if_true, dropped]
      rw [form]
      exact ⟨_, rfl⟩
  | none =>
      simp only [Option.map_none, Numeral.exponentText, List.nil_append]
      cases fraction_eq : numeral.fraction with
      | nil =>
          have limit : ¬ digitLimit < numeral.whole.length := by
            rcases short with (marked | marked) | short
            · exact absurd fraction_eq marked
            · simp [exponent_eq] at marked
            · omega
          have form : ofNumeral numeral = .int (if numeral.negative then
              -(ofDigits numeral.whole : Int) else ofDigits numeral.whole) := by
            simp [ofNumeral, exponent_eq, fraction_eq]
          simp only [List.isEmpty_nil, if_true, if_neg limit]
          rw [form]
          exact ⟨_, rfl⟩
      | cons digit digits =>
          have form : ofNumeral numeral = .float (if numeral.negative then
                -ofDecimal (ofDigits (numeral.whole ++ digit :: digits))
                  (-((digit :: digits).length : Int))
              else ofDecimal (ofDigits (numeral.whole ++ digit :: digits))
                  (-((digit :: digits).length : Int))) := by
            simp [ofNumeral, exponent_eq, fraction_eq, Numeral.value, Numeral.magnitude,
              Numeral.shift]
          simp only [List.isEmpty_cons, Bool.false_eq_true, if_false]
          rw [form]
          exact ⟨_, rfl⟩

theorem ofNumeral_marked {numeral : Numeral} (marked : numeral.Marked) :
    ofNumeral numeral = .float numeral.value := by
  rcases marked with point | exponent
  · simp [ofNumeral, point]
  · simp [ofNumeral, Option.isNone_iff_eq_none, Option.isSome_iff_ne_none.mp exponent]

theorem ofNumeral_ofInt (n : Int) : ofNumeral (.ofInt n) = .int n := by
  have digits : ofDigits (Numeral.ofInt n).whole = n.natAbs := ofDigits_toDigits _
  have signed : (if n < 0 then -(n.natAbs : Int) else n.natAbs) = n := by
    split <;> omega
  rw [ofNumeral, digits]
  simpa [Numeral.ofInt] using signed

/-! ## Texts -/

/-- A character is written as a short escape, as the code of a control character or as itself. -/
theorem escapeChar_cases (c : Char) :
    (∃ mark, escapeChar c = ['\\', mark] ∧ simpleEscape? mark = some c ∧ mark ≠ 'u') ∨
      (escapeChar c = '\\' :: 'u' :: hexDigits 4 c.toNat ∧ c.toNat < 0x20) ∨
      (escapeChar c = [c] ∧ c ≠ '"' ∧ c ≠ '\\' ∧ ¬ c.toNat < 0x20) := by
  unfold escapeChar
  split
  case isTrue same => exact .inl ⟨'"', rfl, by rw [same]; decide, by decide⟩
  split
  case isTrue same => exact .inl ⟨'\\', rfl, by rw [same]; decide, by decide⟩
  split
  case isTrue same => exact .inl ⟨'n', rfl, by rw [same]; decide, by decide⟩
  split
  case isTrue same => exact .inl ⟨'r', rfl, by rw [same]; decide, by decide⟩
  split
  case isTrue same => exact .inl ⟨'t', rfl, by rw [same]; decide, by decide⟩
  split
  case isTrue same => exact .inl ⟨'b', rfl, by rw [same]; decide, by decide⟩
  split
  case isTrue same => exact .inl ⟨'f', rfl, by rw [same]; decide, by decide⟩
  split
  case isTrue control => exact .inr (.inl ⟨rfl, control⟩)
  case isFalse quote backslash _ _ _ _ _ control =>
    exact .inr (.inr ⟨rfl, quote, backslash, control⟩)

/-- The code of a control character is read as the character. -/
theorem codeEscape_hexDigits {c : Char} (control : c.toNat < 0x20) (position : Nat)
    {rest : List Char} (rest_ne : rest ≠ []) :
    Json.codeEscape position (hexDigits 4 c.toNat ++ rest) = .ok (c, 4) ∧
      (hexDigits 4 c.toNat ++ rest).drop 4 = rest := by
  have codes : ∀ n < 0x20, (hexDigits 4 n).length = 4 ∧ codeUnit? (hexDigits 4 n) = some n := by
    decide
  obtain ⟨width, unit⟩ := codes c.toNat control
  have taken : (hexDigits 4 c.toNat ++ rest).take 4 = hexDigits 4 c.toNat :=
     List.take_left' width
  have dropped : (hexDigits 4 c.toNat ++ rest).drop 4 = rest :=
     List.drop_left' width
  have read : codeUnit? (hexDigits 4 c.toNat ++ rest) = some c.toNat := by
    rw [← unit, codeUnit?, taken, codeUnit?, List.take_of_length_le (by omega)]
  have low : ¬ (0xD800 ≤ c.toNat ∧ c.toNat ≤ 0xDBFF) := by omega
  have plain : ¬ (0xD800 ≤ c.toNat ∧ c.toNat ≤ 0xDFFF) := by omega
  simp [Json.codeEscape, dropped, read, low, ofCodeUnit, plain, rest_ne]

/-- The inside of a text is read back from its escaped form. -/
theorem readText_escaped (opening : Nat) (content rest : List Char) {bound : Nat}
    (enough : content.length < bound) (position : Nat) (read : List Char) :
    ∃ stop, readText opening bound ⟨position, content.flatMap escapeChar ++ '"' :: rest⟩ read =
      .ok (String.ofList (read.reverse ++ content), ⟨stop, rest⟩) := by
  induction content generalizing bound position read with
  | nil =>
      obtain ⟨bound, rfl⟩ : ∃ n, bound = n + 1 := ⟨bound - 1, by simp at enough; omega⟩
      exact ⟨position + 1, by simp [readText, Cursor.next]⟩
  | cons c content ih =>
      obtain ⟨bound, rfl⟩ : ∃ n, bound = n + 1 := ⟨bound - 1, by simp at enough; omega⟩
      have enough' : content.length < bound := by simpa using enough
      have further (position : Nat) := ih enough' position (c :: read)
      simp only [List.reverse_cons, List.append_assoc, List.singleton_append] at further
      rw [List.flatMap_cons, List.append_assoc]
      rcases escapeChar_cases c with ⟨mark, escaped, meant, notCode⟩ | ⟨escaped, control⟩ |
        ⟨escaped, notQuote, notBackslash, visible⟩
      · obtain ⟨stop, rest_read⟩ := further (position + 2)
        use stop
        rw [escaped, ← rest_read]
        simp [readText, Cursor.next, meant]
      · obtain ⟨stop, rest_read⟩ := further (position + (4 + 2))
        use stop
        rw [escaped, ← rest_read]
        have rest_ne : content.flatMap escapeChar ++ '"' :: rest ≠ [] := by simp
        obtain ⟨decoded, dropped⟩ := codeEscape_hexDigits control position rest_ne
        simp [readText, Cursor.next, decoded, dropped]
      · obtain ⟨stop, rest_read⟩ := further (position + 1)
        use stop
        rw [escaped, ← rest_read]
        simp [readText, Cursor.next, notBackslash, visible]

theorem length_le_flatMap_escapeChar (content : List Char) :
    content.length ≤ (content.flatMap escapeChar).length := by
  induction content with
  | nil => simp
  | cons c content ih =>
      have nonempty : 0 < (escapeChar c).length := by
        rcases escapeChar_cases c with ⟨mark, escaped, -⟩ | ⟨escaped, -⟩ | ⟨escaped, -⟩ <;>
          simp [escaped]
      rw [List.flatMap_cons, List.length_append, List.length_cons]
      omega

/-! ## Brackets -/

/-- The text goes on with something that is no separator. -/
def Visible (text : List Char) : Prop :=
  ∀ c, text.head? = some c → Cursor.isSeparator c = false

theorem skip_of_visible {rest : List Char} (visible : Visible rest) (position : Nat) :
    (Cursor.mk position rest).skip = ⟨position, rest⟩ := by
  cases rest with
  | nil => rfl
  | cons c rest => simp [Cursor.skip, Cursor.next, visible c rfl]

theorem Closes.visible {rest : List Char} (closes : Closes rest) : Visible rest := by
  intro c head
  rcases closes c head with rfl | rfl | rfl <;> decide

/-- Parts joined by commas. -/
def joined (parts : List (List Char)) : List Char :=
  (parts.intersperse [',']).flatten

theorem joined_cons_cons (part next : List Char) (parts : List (List Char)) :
    joined (part :: next :: parts) = part ++ ',' :: joined (next :: parts) := by
  simp [joined, List.intersperse]

theorem length_le_joined (parts : List (List Char)) :
    parts.length ≤ (joined parts).length + 1 := by
  induction parts with
  | nil => simp
  | cons part parts ih =>
      cases parts with
      | nil => simp
      | cons next parts =>
          rw [joined_cons_cons]
          simp only [List.length_append, List.length_cons] at ih ⊢
          omega

theorem length_le_joined_of_mem {part : List Char} {parts : List (List Char)}
    (member : part ∈ parts) : part.length ≤ (joined parts).length := by
  induction parts with
  | nil => cases member
  | cons first parts ih =>
      cases parts with
      | nil =>
          obtain rfl := List.mem_singleton.mp member
          simp [joined]
      | cons next parts =>
          rw [joined_cons_cons, List.length_append, List.length_cons]
          rcases List.mem_cons.mp member with rfl | member
          · omega
          · have := ih member
            omega

theorem renderItems_eq_map (items : List Json) : renderItems items = items.map render := by
  induction items with
  | nil => rfl
  | cons item items ih => rw [renderItems, ih, List.map_cons]

/-- A field as it stands between braces. -/
def renderField (field : String × Json) : List Char :=
  renderText field.1 ++ ':' :: render field.2

theorem renderFields_eq_map (fields : List (String × Json)) :
    renderFields fields = fields.map renderField := by
  induction fields with
  | nil => rfl
  | cons field fields ih =>
      obtain ⟨name, value⟩ := field
      rw [renderFields, ih, List.map_cons, renderField]

/-- The reader `value` reads a value back from the front of a text that can follow it. -/
def ReadsValue (value : Cursor → Except Failure (Json × Cursor)) (json : Json) : Prop :=
  ∀ rest, Closes rest → ∀ position,
    ∃ stop, value ⟨position, json.render ++ rest⟩ = .ok (json, ⟨stop, rest⟩)

theorem closes_cons_bracket (rest : List Char) : Closes (']' :: rest) := by
  rintro c ⟨⟩
  simp

theorem closes_cons_brace (rest : List Char) : Closes ('\x7d' :: rest) := by
  rintro c ⟨⟩
  simp

theorem closes_cons_comma (rest : List Char) : Closes (',' :: rest) := by
  rintro c ⟨⟩
  simp

theorem visible_joined {part : List Char} {parts : List (List Char)} (nonempty : part ≠ [])
    (visible : Visible part) (rest : List Char) : Visible (joined (part :: parts) ++ rest) := by
  obtain ⟨c, others, rfl⟩ := List.exists_cons_of_ne_nil nonempty
  cases parts with
  | nil => simpa [joined, Visible] using visible
  | cons next parts => simpa [joined_cons_cons, Visible] using visible

/-- The items of a list are read back up to its closing bracket. -/
theorem readItems_joined {value : Cursor → Except Failure (Json × Cursor)} {item : Json}
    {items : List Json} (reads : ∀ json ∈ item :: items, ReadsValue value json)
    (starts : ∀ json ∈ item :: items, json.render ≠ [] ∧ Visible json.render)
    (rest : List Char) {bound : Nat} (enough : items.length < bound) (position : Nat)
    (read : List Json) :
    ∃ stop, readItems value bound
        ⟨position, joined ((item :: items).map render) ++ ']' :: rest⟩ read =
      .ok (read.reverse ++ item :: items, ⟨stop, rest⟩) := by
  induction items generalizing item bound position read with
  | nil =>
      obtain ⟨bound, rfl⟩ : ∃ n, bound = n + 1 := ⟨bound - 1, by omega⟩
      obtain ⟨stop, value_read⟩ :=
        reads item List.mem_cons_self _ (closes_cons_bracket rest) position
      use stop + 1
      have text_eq : joined ([item].map render) = item.render := by simp [joined]
      rw [readItems, text_eq, value_read]
      simp [bind, Except.bind, skip_of_visible (closes_cons_bracket rest).visible, Cursor.next]
  | cons next items ih =>
      obtain ⟨bound, rfl⟩ : ∃ n, bound = n + 1 := ⟨bound - 1, by omega⟩
      rw [List.map_cons, List.map_cons, joined_cons_cons, List.append_assoc, List.cons_append,
        ← List.map_cons]
      obtain ⟨stop, value_read⟩ := reads item List.mem_cons_self _
        (closes_cons_comma (joined ((next :: items).map render) ++ ']' :: rest)) position
      have later : ∀ json ∈ next :: items, json ∈ item :: next :: items :=
        fun json member => List.mem_cons_of_mem item member
      obtain ⟨stop', rest_read⟩ := ih (fun json member => reads json (later json member))
        (fun json member => starts json (later json member))
        (by simpa using enough) (stop + 1) (item :: read)
      use stop'
      obtain ⟨next_ne, next_visible⟩ := starts next (by simp)
      have visible : Visible (joined (next.render :: items.map render) ++ ']' :: rest) :=
        visible_joined next_ne next_visible _
      rw [readItems, value_read]
      simp only [bind, Except.bind, skip_of_visible (closes_cons_comma _).visible, Cursor.next]
      rw [List.map_cons, skip_of_visible visible, ← List.map_cons, rest_read]
      simp

/-- The name of a field is read with its colon. -/
theorem readName_renderText (name : String) {rest : List Char} (visible : Visible rest)
    {bound : Nat} (enough : (renderText name).length < bound) (position : Nat) :
    ∃ stop, readName bound ⟨position, renderText name ++ ':' :: rest⟩ =
      .ok (name, ⟨stop, rest⟩) := by
  have short : name.toList.length < bound := by
    have := length_le_flatMap_escapeChar name.toList
    simp only [renderText, List.length_cons, List.length_append] at enough
    omega
  obtain ⟨stop, text_read⟩ :=
    readText_escaped position name.toList (':' :: rest) short (position + 1) []
  use stop + 1
  have colon : Visible (':' :: rest) := by
    rintro c ⟨⟩
    decide
  simp only [renderText, List.cons_append, List.append_assoc, List.nil_append, readName,
    Cursor.next, text_read, bind, Except.bind, skip_of_visible colon, skip_of_visible visible]
  simp

/-- A new name is put at the end. -/
theorem put_of_distinct {read fields : List (String × Json)} {field : String × Json}
    (distinct : ((read ++ field :: fields).map (·.1)).Nodup) :
    Assoc.put read field.1 field.2 = read ++ [field] := by
  induction read with
  | nil => rfl
  | cons first read ih =>
      simp only [List.cons_append, List.map_cons, List.nodup_cons] at distinct
      have different : first.1 ≠ field.1 := by
        intro same
        exact distinct.1 (by simp [same])
      simp [Assoc.put, different, ih distinct.2]

/-- A field is read in two steps, its name with the colon and its value. -/
theorem readName_renderField {value : Cursor → Except Failure (Json × Cursor)}
    {field : String × Json} (reads : ReadsValue value field.2)
    (starts : field.2.render ≠ [] ∧ Visible field.2.render) {limit : Nat}
    (short : (renderText field.1).length < limit) {rest : List Char} (closes : Closes rest)
    (position : Nat) :
    ∃ middle stop, readName limit ⟨position, renderField field ++ rest⟩ = .ok (field.1, middle) ∧
      value middle = .ok (field.2, ⟨stop, rest⟩) := by
  have visible : Visible (field.2.render ++ rest) := by
    obtain ⟨c, others, render_eq⟩ := List.exists_cons_of_ne_nil starts.1
    simpa [render_eq, Visible] using starts.2
  obtain ⟨middle, name_read⟩ := readName_renderText field.1 visible short position
  obtain ⟨stop, value_read⟩ := reads rest closes middle
  rw [renderField, List.append_assoc, List.cons_append]
  exact ⟨_, stop, name_read, value_read⟩

/-- The fields of an object with distinct names are read back up to its closing brace. -/
theorem readFields_joined {value : Cursor → Except Failure (Json × Cursor)}
    {field : String × Json} {fields : List (String × Json)}
    (reads : ∀ entry ∈ field :: fields, ReadsValue value entry.2)
    (starts : ∀ entry ∈ field :: fields, entry.2.render ≠ [] ∧ Visible entry.2.render)
    (rest : List Char) {bound : Nat} (enough : fields.length < bound) {limit : Nat}
    (short : ∀ entry ∈ field :: fields, (renderText entry.1).length < limit) (position : Nat)
    (read : List (String × Json))
    (distinct : ((read ++ field :: fields).map (·.1)).Nodup) :
    ∃ stop, readFields (readName limit) value bound
        ⟨position, joined ((field :: fields).map renderField) ++ '\x7d' :: rest⟩ read =
      .ok (read ++ field :: fields, ⟨stop, rest⟩) := by
  induction fields generalizing field bound position read with
  | nil =>
      obtain ⟨bound, rfl⟩ : ∃ n, bound = n + 1 := ⟨bound - 1, by omega⟩
      obtain ⟨middle, stop, name_read, value_read⟩ :=
        readName_renderField (reads field List.mem_cons_self) (starts field List.mem_cons_self)
          (short field List.mem_cons_self) (closes_cons_brace rest) position
      use stop + 1
      have text_eq : joined ([field].map renderField) = renderField field := by simp [joined]
      rw [readFields, text_eq, name_read]
      simp only [bind, Except.bind, value_read, skip_of_visible (closes_cons_brace rest).visible,
        put_of_distinct distinct, Cursor.next]
  | cons next fields ih =>
      obtain ⟨bound, rfl⟩ : ∃ n, bound = n + 1 := ⟨bound - 1, by omega⟩
      rw [List.map_cons, List.map_cons, joined_cons_cons, List.append_assoc, List.cons_append,
        ← List.map_cons]
      obtain ⟨middle, stop, name_read, value_read⟩ :=
        readName_renderField (reads field List.mem_cons_self) (starts field List.mem_cons_self)
          (short field List.mem_cons_self)
          (closes_cons_comma (joined ((next :: fields).map renderField) ++ '\x7d' :: rest)) position
      have later : ∀ entry ∈ next :: fields, entry ∈ field :: next :: fields :=
        fun entry member => List.mem_cons_of_mem field member
      obtain ⟨stop', rest_read⟩ := ih (fun entry member => reads entry (later entry member))
        (fun entry member => starts entry (later entry member)) (by simpa using enough)
        (fun entry member => short entry (later entry member)) (stop + 1) (read ++ [field])
        (by simpa using distinct)
      use stop'
      have visible : Visible (joined ((next :: fields).map renderField) ++ '\x7d' :: rest) :=
        visible_joined (by simp [renderField, renderText])
          (by rintro c ⟨⟩; decide) _
      rw [readFields, name_read]
      simp only [bind, Except.bind, value_read, skip_of_visible (closes_cons_comma _).visible,
        put_of_distinct distinct, Cursor.next, skip_of_visible visible]
      rw [rest_read]
      simp

/-! ## Values -/

/-- The JSON values that are the forms of script values: their numbers read back, the names of a
record are distinct, and brackets are nested at most `depth` levels. -/
inductive Canonical : (depth : Nat) → Json → Prop
  | null (depth : Nat) : Canonical depth .null
  | bool (depth : Nat) (value : Bool) : Canonical depth (.bool value)
  | number (depth : Nat) (x : Float)
      (readsBack : ∀ parts, Number.shape x = .finite parts → ReadsBack x) :
      Canonical depth (Number.toJson x)
  | text (depth : Nat) (value : String) : Canonical depth (.text value)
  | list (depth : Nat) (items : List Json) (canonical : ∀ item ∈ items, Canonical depth item) :
      Canonical (depth + 1) (.list items)
  | object (depth : Nat) (fields : List (String × Json))
      (distinct : (fields.map (·.1)).Nodup)
      (canonical : ∀ field ∈ fields, Canonical depth field.2) :
      Canonical (depth + 1) (.object fields)

/-- The numeral that a number other than null is written as. -/
theorem numeral_of_number {x : Float}
    (readsBack : ∀ parts, Number.shape x = .finite parts → ReadsBack x) :
    Number.toJson x = .null ∨ ∃ numeral : Numeral, numeral.Valid ∧ numeral.Plain ∧
      (numeral.Marked ∨ numeral.whole.length ≤ digitLimit) ∧
      (Number.toJson x).render = numeral.text ∧ ofNumeral numeral = Number.toJson x := by
  rcases toJson_cases x with none | ⟨n, form⟩ | form
  · exact Or.inl none
  · right
    obtain ⟨parts, finite, -⟩ := toJson_int form
    obtain ⟨short, -⟩ := ofInt?_of_readsBack form (readsBack parts finite)
    have limit : (Numeral.ofInt n).whole.length ≤ digitLimit := le_trans short (by decide)
    rw [form, render]
    exact ⟨.ofInt n, Numeral.ofInt_valid n, Numeral.ofInt_plain n, Or.inr limit,
      (Numeral.text_ofInt n).symm, ofNumeral_ofInt n⟩
  · right
    obtain ⟨-, parts, finite, -⟩ := toJson_float form
    obtain ⟨numeral, valid, plain, marked, text, value⟩ :=
      numeral_of_readsBack form (readsBack parts finite)
    rw [form, render]
    exact ⟨numeral, valid, plain, Or.inl marked, text.symm, by rw [ofNumeral_marked marked, value]⟩

/-- What starts with neither a quote nor a bracket is a word or a number. -/
theorem readValue_scalar {c : Char} (plain : c ∉ ['"', '[', '\x7b']) (bound depth position : Nat)
    (rest : List Char) :
    readValue bound depth ⟨position, c :: rest⟩ = readScalar ⟨position, c :: rest⟩ := by
  obtain ⟨notQuote, notBracket, notBrace⟩ : c ≠ '"' ∧ c ≠ '[' ∧ c ≠ '\x7b' := by
    simpa using plain
  cases depth <;> simp [readValue]

/-- A numeral is no word, so a number is read from it. -/
theorem readValue_text {numeral : Numeral} (valid : numeral.Valid) (bound depth position : Nat)
    (rest : List Char) :
    readValue bound depth ⟨position, numeral.text ++ rest⟩ =
      readNumber ⟨position, numeral.text ++ rest⟩ := by
  obtain ⟨c, others, size_eq, digit⟩ := Numeral.head_size valid
  have different (first : Char) (noDigit : isDigit first = false) : first ≠ c :=
    (ne_of_isDigit digit noDigit).symm
  cases sign : numeral.negative with
  | true =>
      have text_eq : numeral.text ++ rest = '-' :: c :: (others ++ rest) := by
        simp [Numeral.text, sign, size_eq]
      rw [text_eq, readValue_scalar (by decide)]
      simp [readScalar, words, different 'I' (by decide)]
  | false =>
      have text_eq : numeral.text ++ rest = c :: (others ++ rest) := by
        simp [Numeral.text, sign, size_eq]
      have plain : c ∉ ['"', '[', '\x7b'] := by
        simp [(different '"' (by decide)).symm, (different '[' (by decide)).symm,
          (different '\x7b' (by decide)).symm]
      rw [text_eq, readValue_scalar plain]
      simp [readScalar, words, different 'n' (by decide), different 't' (by decide),
        different 'f' (by decide), different 'N' (by decide), different 'I' (by decide),
        different '-' (by decide)]

theorem readScalar_null (position : Nat) (rest : List Char) :
    readScalar ⟨position, render .null ++ rest⟩ = .ok (.null, ⟨position + 4, rest⟩) := by
  have width : "null".length = 4 := rfl
  simp [readScalar, render, words, width, Cursor.next]

theorem readScalar_true (position : Nat) (rest : List Char) :
    readScalar ⟨position, render (.bool true) ++ rest⟩ =
      .ok (.bool true, ⟨position + 4, rest⟩) := by
  have width : "true".length = 4 := rfl
  simp [readScalar, render, words, width, Cursor.next]

theorem readScalar_false (position : Nat) (rest : List Char) :
    readScalar ⟨position, render (.bool false) ++ rest⟩ =
      .ok (.bool false, ⟨position + 5, rest⟩) := by
  have width : "false".length = 5 := rfl
  simp [readScalar, render, words, width, Cursor.next]

theorem starts_text {numeral : Numeral} (valid : numeral.Valid) :
    ∃ c rest, numeral.text = c :: rest ∧ Cursor.isSeparator c = false ∧ c ≠ ']' ∧
      c ≠ '\uFEFF' := by
  obtain ⟨c, others, size_eq, digit⟩ := Numeral.head_size valid
  cases sign : numeral.negative with
  | true => exact ⟨'-', _, by rw [Numeral.text, sign, if_pos rfl], by decide, by decide, by decide⟩
  | false =>
      have text_eq : numeral.text = c :: others := by simp [Numeral.text, sign, size_eq]
      exact ⟨c, others, text_eq, of_isDigit (Cursor.isSeparator · = false) (by decide) digit,
        ne_of_isDigit digit (by decide), ne_of_isDigit digit (by decide)⟩

/-- The text of a value starts with something visible that closes no list. -/
theorem Canonical.starts {depth : Nat} {json : Json} (canonical : Canonical depth json) :
    ∃ c rest, json.render = c :: rest ∧ Cursor.isSeparator c = false ∧ c ≠ ']' ∧
      c ≠ '\uFEFF' := by
  cases canonical with
  | null => exact ⟨_, _, rfl, by decide, by decide, by decide⟩
  | bool depth value => cases value <;> exact ⟨_, _, rfl, by decide, by decide, by decide⟩
  | number depth x readsBack =>
      rcases numeral_of_number readsBack with none | ⟨numeral, valid, -, -, text, -⟩
      · rw [none]
        exact ⟨_, _, rfl, by decide, by decide, by decide⟩
      · rw [text]
        exact starts_text valid
  | text depth value => exact ⟨_, _, rfl, by decide, by decide, by decide⟩
  | list depth items canonical => exact ⟨_, _, rfl, by decide, by decide, by decide⟩
  | object depth fields distinct canonical => exact ⟨_, _, rfl, by decide, by decide, by decide⟩

theorem Canonical.visible {depth : Nat} {json : Json} (canonical : Canonical depth json) :
    json.render ≠ [] ∧ Visible json.render := by
  obtain ⟨c, rest, render_eq, visible, -⟩ := canonical.starts
  rw [render_eq]
  constructor
  · exact List.cons_ne_nil c rest
  · rintro _ ⟨⟩
    exact visible

theorem readValue_bracket {c : Char} (visible : Cursor.isSeparator c = false) (opens : c ≠ ']')
    (bound depth position : Nat) (rest : List Char) :
    readValue bound (depth + 1) ⟨position, '[' :: c :: rest⟩ = (do
      let (items, cursor) ← readItems (readValue bound depth) bound ⟨position + 1, c :: rest⟩ []
      return (.list items, cursor)) := by
  have skipped : Visible (c :: rest) := by
    rintro _ ⟨⟩
    exact visible
  simp only [readValue, Cursor.next, skip_of_visible skipped]
  split
  · rename_i same
    exact absurd (List.cons.inj same).1 opens
  · rfl

theorem readValue_brace (bound depth position : Nat) (rest : List Char) :
    readValue bound (depth + 1) ⟨position, '\x7b' :: '"' :: rest⟩ = (do
      let (fields, cursor) ← readFields (readName bound) (readValue bound depth) bound
        ⟨position + 1, '"' :: rest⟩ []
      return (.object fields, cursor)) := by
  have skipped : Visible ('"' :: rest) := by
    rintro _ ⟨⟩
    decide
  simp [readValue, Cursor.next, skip_of_visible skipped]

theorem render_list_cons (item : Json) (items : List Json) :
    render (.list (item :: items)) = '[' :: (joined ((item :: items).map render) ++ [']']) := by
  simp [render, bracketed, renderItems_eq_map, joined]

theorem render_object_cons (field : String × Json) (fields : List (String × Json)) :
    render (.object (field :: fields)) =
      '\x7b' :: (joined ((field :: fields).map renderField) ++ ['\x7d']) := by
  simp [render, bracketed, renderFields_eq_map, joined]

/-- A list is longer than each of its items. -/
theorem length_render_item_lt {item : Json} {items : List Json} (member : item ∈ items) :
    item.render.length < (render (.list items)).length := by
  cases items with
  | nil => cases member
  | cons first items =>
      have part := length_le_joined_of_mem (List.mem_map_of_mem (f := render) member)
      rw [render_list_cons, List.length_cons, List.length_append]
      omega

/-- An object is longer than the name and the value of each of its fields together. -/
theorem length_render_field_lt {field : String × Json} {fields : List (String × Json)}
    (member : field ∈ fields) :
    (renderText field.1).length + field.2.render.length < (render (.object fields)).length := by
  cases fields with
  | nil => cases member
  | cons first fields =>
      have part := length_le_joined_of_mem (List.mem_map_of_mem (f := renderField) member)
      simp only [renderField, List.length_append, List.length_cons] at part
      rw [render_object_cons, List.length_cons, List.length_append]
      omega

/-- A list is read back when its items are. -/
theorem readsValue_list {bound limit : Nat} {items : List Json}
    (enough : (render (.list items)).length < bound)
    (starts : ∀ item ∈ items, ∃ c rest, item.render = c :: rest ∧
      Cursor.isSeparator c = false ∧ c ≠ ']')
    (reads : ∀ item ∈ items, ReadsValue (readValue bound limit) item) :
    ReadsValue (readValue bound (limit + 1)) (.list items) := by
  intro rest closes position
  cases items with
  | nil =>
      have visible : Visible (']' :: rest) := (closes_cons_bracket rest).visible
      simp [render, renderItems, bracketed, readValue, Cursor.next, skip_of_visible visible]
  | cons item items =>
      have count := length_le_joined ((item :: items).map render)
      rw [render_list_cons, List.length_cons, List.length_append] at enough
      simp only [List.length_map, List.length_cons] at count
      have visible : ∀ json ∈ item :: items, json.render ≠ [] ∧ Visible json.render := by
        intro json member
        obtain ⟨c, others, head, visible, -⟩ := starts json member
        rw [head]
        exact ⟨List.cons_ne_nil c others, by rintro _ ⟨⟩; exact visible⟩
      obtain ⟨stop, items_read⟩ := readItems_joined reads visible rest
        (by omega : items.length < bound) (position + 1) []
      obtain ⟨c, others, head, visible, opens⟩ := starts item List.mem_cons_self
      obtain ⟨tail, text_eq⟩ : ∃ tail,
          joined ((item :: items).map render) ++ ']' :: rest = c :: tail := by
        cases items with
        | nil => simp [joined, head]
        | cons next items => simp [joined_cons_cons, head]
      rw [text_eq] at items_read
      use stop
      rw [render_list_cons, List.cons_append, List.append_assoc, List.singleton_append, text_eq,
        readValue_bracket visible opens, items_read]
      rfl

/-- An object with distinct names is read back when its values are. -/
theorem readsValue_object {bound limit : Nat} {fields : List (String × Json)}
    (enough : (render (.object fields)).length < bound) (distinct : (fields.map (·.1)).Nodup)
    (visible : ∀ field ∈ fields, field.2.render ≠ [] ∧ Visible field.2.render)
    (reads : ∀ field ∈ fields, ReadsValue (readValue bound limit) field.2) :
    ReadsValue (readValue bound (limit + 1)) (.object fields) := by
  intro rest closes position
  cases fields with
  | nil =>
      have visible : Visible ('\x7d' :: rest) := (closes_cons_brace rest).visible
      simp [render, renderFields, bracketed, readValue, Cursor.next, skip_of_visible visible]
  | cons field fields =>
      have short : ∀ entry ∈ field :: fields, (renderText entry.1).length < bound := by
        intro entry member
        have part := length_render_field_lt member
        omega
      have count := length_le_joined ((field :: fields).map renderField)
      rw [render_object_cons, List.length_cons, List.length_append] at enough
      simp only [List.length_map, List.length_cons] at count
      obtain ⟨stop, fields_read⟩ := readFields_joined reads visible rest
        (by omega : fields.length < bound) short (position + 1) [] (by simpa using distinct)
      obtain ⟨tail, text_eq⟩ : ∃ tail,
          joined ((field :: fields).map renderField) ++ '\x7d' :: rest = '"' :: tail := by
        cases fields with
        | nil => simp [joined, renderField, renderText]
        | cons next fields => simp [joined_cons_cons, renderField, renderText]
      rw [text_eq] at fields_read
      use stop
      rw [render_object_cons, List.cons_append, List.append_assoc, List.singleton_append, text_eq,
        readValue_brace, fields_read]
      rfl

theorem Canonical.readsValue {depth : Nat} {json : Json} (canonical : Canonical depth json)
    {bound limit : Nat} (enough : json.render.length < bound) (deep : depth ≤ limit) :
    ReadsValue (readValue bound limit) json := by
  induction canonical generalizing limit with
  | null =>
      intro rest closes position
      exact ⟨_, (readValue_scalar (by decide) bound limit position _).trans
        (readScalar_null position rest)⟩
  | bool depth value =>
      intro rest closes position
      cases value with
      | true =>
          exact ⟨_, (readValue_scalar (by decide) bound limit position _).trans
            (readScalar_true position rest)⟩
      | false =>
          exact ⟨_, (readValue_scalar (by decide) bound limit position _).trans
            (readScalar_false position rest)⟩
  | number depth x readsBack =>
      intro rest closes position
      rcases numeral_of_number readsBack with none | ⟨numeral, valid, plain, short, text, form⟩
      · rw [none]
        exact ⟨_, (readValue_scalar (by decide) bound limit position _).trans
          (readScalar_null position rest)⟩
      · rw [text, readValue_text valid, ← form]
        exact readNumber_text valid plain short closes position
  | text depth value =>
      intro rest closes position
      have short : value.toList.length < bound := by
        have := length_le_flatMap_escapeChar value.toList
        simp only [render, renderText, List.length_cons, List.length_append] at enough
        omega
      obtain ⟨stop, text_read⟩ :=
        readText_escaped position value.toList rest short (position + 1) []
      use stop
      cases limit <;>
        simp [render, renderText, readValue, Cursor.next, text_read, bind, Except.bind, pure,
          Except.pure]
  | list depth items canonical ih =>
      obtain ⟨limit, rfl⟩ : ∃ n, limit = n + 1 := ⟨limit - 1, by omega⟩
      refine readsValue_list enough (fun item member => ?_) fun item member => ?_
      · obtain ⟨c, rest, head, visible, opens, -⟩ := (canonical item member).starts
        exact ⟨c, rest, head, visible, opens⟩
      · have part := length_render_item_lt member
        exact ih item member (by omega) (by omega)
  | object depth fields distinct canonical ih =>
      obtain ⟨limit, rfl⟩ : ∃ n, limit = n + 1 := ⟨limit - 1, by omega⟩
      refine readsValue_object enough distinct
        (fun field member => (canonical field member).visible)
        fun field member => ?_
      have part := length_render_field_lt member
      exact ih field member (by omega) (by omega)

/-- The text of a value is read as the value. -/
theorem Canonical.read_render {depth : Nat} {json : Json} (canonical : Canonical depth json)
    {limit : Nat} (deep : depth ≤ limit) : read limit json.render = .ok json := by
  obtain ⟨c, rest, render_eq, -, -, notMark⟩ := canonical.starts
  have closes : Closes [] := by
    rintro c ⟨⟩
  obtain ⟨stop, value_read⟩ :=
    canonical.readsValue (Nat.lt_add_one json.render.length) deep [] closes 0
  rw [List.append_nil] at value_read
  have skipped := skip_of_visible canonical.visible.2 0
  have ends := skip_of_visible closes.visible stop
  unfold Json.read
  split
  · rename_i marked
    rw [render_eq] at marked
    exact absurd (List.cons.inj marked).1 notMark
  · rw [skipped, value_read]
    simp [bind, Except.bind, ends, pure, Except.pure]

end Scriptlet.Json
