import Scriptlet.Json
import Scriptlet.Number.Reading

/-!
# Reading JSON

A text is read from left to right and the first character that does not fit ends the reading with a
problem at its position. Beyond the standard the names `NaN`, `Infinity` and `-Infinity` are read as
numbers. A name that is repeated in an object keeps its first place and its last value.
-/

namespace Scriptlet
namespace Json

open Text

/-- What is wrong with a text that is no JSON. -/
inductive Problem where
  | expectingValue
  | expectingComma
  | expectingColon
  | expectingName
  | extraData
  | badEscape
  | badCodeEscape
  | controlCharacter
  | unterminated
  | byteOrderMark
  deriving DecidableEq, Repr

/-- The wording of a problem. -/
def Problem.message : Problem → String
  | .expectingValue => "Expecting value"
  | .expectingComma => "Expecting ',' delimiter"
  | .expectingColon => "Expecting ':' delimiter"
  | .expectingName => "Expecting property name enclosed in double quotes"
  | .extraData => "Extra data"
  | .badEscape => "Invalid \\escape"
  | .badCodeEscape => "Invalid \\uXXXX escape"
  | .controlCharacter => "Invalid control character at"
  | .unterminated => "Unterminated string starting at"
  | .byteOrderMark => "Unexpected UTF-8 BOM (decode using utf-8-sig)"

/-- Why a text was not read. -/
inductive Failure where
  | invalid (problem : Problem) (position : Nat)
  /-- An integer has too many digits. -/
  | digits (count : Nat)
  /-- The brackets are nested too deep. -/
  | tooDeep
  deriving DecidableEq, Repr

/-- The most digits that an integer may have. -/
def digitLimit : Nat := 4300

/-- The wording for an integer with too many digits. -/
def digitsMessage (count : Nat) : String :=
  s!"Exceeds the limit ({digitLimit} digits) for integer string conversion: " ++
    s!"value has {count} digits; use sys.set_int_max_str_digits() to increase the limit"

/-- The wording of a problem at a position of a text. -/
def problemMessage (text : List Char) (problem : Problem) (position : Nat) : String :=
  let before := text.take position
  let line := before.count '\n' + 1
  let column := (before.reverse.takeWhile (· != '\n')).length + 1
  s!"{problem.message}: line {line} column {column} (char {position})"

/-- A place in a text: its position and the characters from there on. -/
structure Cursor where
  position : Nat
  rest : List Char

namespace Cursor

/-- The cursor `count` characters further, where `rest` is left. -/
def next (cursor : Cursor) (rest : List Char) (count : Nat := 1) : Cursor :=
  ⟨cursor.position + count, rest⟩

/-- Whether a character may stand between the parts of a JSON text. -/
def isSeparator (c : Char) : Bool :=
  c == ' ' || c == '\t' || c == '\n' || c == '\r'

/-- The cursor after the separators. -/
def skip (cursor : Cursor) : Cursor :=
  cursor.next (cursor.rest.dropWhile isSeparator) (cursor.rest.takeWhile isSeparator).length

end Cursor

/-- The value of a digit in base sixteen. -/
def hexValue? (c : Char) : Option Nat :=
  if '0' ≤ c ∧ c ≤ '9' then some (c.toNat - 48)
  else if 'a' ≤ c ∧ c ≤ 'f' then some (c.toNat - 87)
  else if 'A' ≤ c ∧ c ≤ 'F' then some (c.toNat - 55)
  else none

/-- The value of the first four characters as digits in base sixteen. -/
def codeUnit? (text : List Char) : Option Nat :=
  (text.take 4).foldl
    (fun value? c => do return (← value?) * 16 + (← hexValue? c)) (some 0)

/-- The character of a code unit; half of a pair has none of its own. -/
def ofCodeUnit (unit : Nat) : Char :=
  if 0xD800 ≤ unit ∧ unit ≤ 0xDFFF then '\uFFFD' else Char.ofNat unit

/-- The character after `\u` and the number of characters that it takes; `rest` follows the `u`, and
`position` is that of the backslash. -/
def codeEscape (position : Nat) (rest : List Char) : Except Failure (Char × Nat) :=
  if (rest.drop 4).isEmpty then .error (.invalid .badCodeEscape (position + 1))
  else match codeUnit? rest with
    | none => .error (.invalid .badCodeEscape (position + 1))
    | some unit =>
        let after := rest.drop 4
        let isFirstHalf := 0xD800 ≤ unit ∧ unit ≤ 0xDBFF
        if isFirstHalf ∧ !(after.drop 6).isEmpty ∧ ['\\', 'u'].isPrefixOf after then
          match codeUnit? (after.drop 2) with
          | none => .error (.invalid .badCodeEscape (position + 7))
          | some second =>
              if 0xDC00 ≤ second ∧ second ≤ 0xDFFF then
                .ok (Char.ofNat (0x10000 + (unit - 0xD800) * 0x400 + (second - 0xDC00)), 10)
              else .ok (ofCodeUnit unit, 4)
        else .ok (ofCodeUnit unit, 4)

/-- The character that a backslash and `c` stand for. -/
def simpleEscape? (c : Char) : Option Char :=
  if c = '"' ∨ c = '\\' ∨ c = '/' then some c
  else if c = 'b' then some '\x08'
  else if c = 'f' then some '\x0c'
  else if c = 'n' then some '\n'
  else if c = 'r' then some '\r'
  else if c = 't' then some '\t'
  else none

/-- Reads the inside of a text whose opening quote is at `opening`; `read` holds its characters so
far, in reverse, and `bound` is at least the number of characters left. -/
def readText (opening : Nat) :
    (bound : Nat) → Cursor → (read : List Char) → Except Failure (String × Cursor)
  | 0, _, _ => .error (.invalid .unterminated opening)
  | bound + 1, cursor, read =>
      match cursor.rest with
      | [] => .error (.invalid .unterminated opening)
      | '"' :: rest => .ok (String.ofList read.reverse, cursor.next rest)
      | ['\\'] => .error (.invalid .unterminated opening)
      | '\\' :: 'u' :: rest =>
          match codeEscape cursor.position rest with
          | .error failure => .error failure
          | .ok (c, width) =>
              readText opening bound (cursor.next (rest.drop width) (width + 2)) (c :: read)
      | '\\' :: c :: rest =>
          match simpleEscape? c with
          | none => .error (.invalid .badEscape cursor.position)
          | some c => readText opening bound (cursor.next rest 2) (c :: read)
      | c :: rest =>
          if c.toNat < 0x20 then .error (.invalid .controlCharacter cursor.position)
          else readText opening bound (cursor.next rest) (c :: read)

/-- The digits of the fraction at the front of a text, if there is one. -/
def fractionDigits (text : List Char) : List Char :=
  match text with
  | '.' :: rest => rest.takeWhile isDigit
  | _ => []

/-- The sign and the digits of the exponent at the front of a text, if there is one. -/
def exponentPart (text : List Char) : Option (Bool × Bool × List Char) :=
  match text with
  | mark :: rest =>
      if mark = 'e' ∨ mark = 'E' then
        let (signed, negative, digits) := match rest with
          | '-' :: digits => (true, true, digits.takeWhile isDigit)
          | '+' :: digits => (true, false, digits.takeWhile isDigit)
          | digits => (false, false, digits.takeWhile isDigit)
        if digits.isEmpty then none else some (signed, negative, digits)
      else none
  | [] => none

/-- The digits of the whole part of a number at the front of a text: a zero alone, or digits that do
not start with zero. -/
def wholeDigits (text : List Char) : List Char :=
  match text with
  | '0' :: _ => ['0']
  | _ => text.takeWhile isDigit

/-- Whether a text starts with a minus sign, and the text without it. -/
def splitSign : List Char → Bool × List Char
  | '-' :: rest => (true, rest)
  | rest => (false, rest)

/-- Reads a number; if there is none, a value is missing at the cursor. -/
def readNumber (cursor : Cursor) : Except Failure (Json × Cursor) :=
  let (negative, size) := splitSign cursor.rest
  let whole := wholeDigits size
  if whole.isEmpty then .error (.invalid .expectingValue cursor.position)
  else
    let afterWhole := size.drop whole.length
    let fraction := fractionDigits afterWhole
    let fractionWidth := if fraction.isEmpty then 0 else fraction.length + 1
    let afterFraction := afterWhole.drop fractionWidth
    let signWidth := if negative then 1 else 0
    let finish (value : Json) (rest : List Char) (width : Nat) : Except Failure (Json × Cursor) :=
      .ok (value, cursor.next rest (signWidth + whole.length + fractionWidth + width))
    let signed (x : Float) : Json := .float (if negative then -x else x)
    match exponentPart afterFraction with
    | some (explicitSign, down, digits) =>
        let size := Number.ofDigits digits
        let exponent : Int := if down then -(size : Int) else size
        let width := digits.length + 1 + (if explicitSign then 1 else 0)
        let value := Number.ofDecimal (Number.ofDigits (whole ++ fraction))
          (exponent - (fraction.length : Int))
        finish (signed value) (afterFraction.drop width) width
    | none =>
        if fraction.isEmpty then
          if digitLimit < whole.length then .error (.digits whole.length)
          else
            let n := Number.ofDigits whole
            finish (.int (if negative then -(n : Int) else n)) afterFraction 0
        else
          finish (signed (Number.ofDecimal (Number.ofDigits (whole ++ fraction))
            (-(fraction.length : Int)))) afterFraction 0

/-- The words that stand for values. -/
def words : List (String × Json) :=
  [("null", .null), ("true", .bool true), ("false", .bool false), ("NaN", .float Number.notANumber),
    ("Infinity", .float Number.infinity), ("-Infinity", .float (-Number.infinity))]

/-- Reads a word or a number. -/
def readScalar (cursor : Cursor) : Except Failure (Json × Cursor) :=
  match words.find? fun word => word.1.toList.isPrefixOf cursor.rest with
  | some (word, value) => .ok (value, cursor.next (cursor.rest.drop word.length) word.length)
  | none => readNumber cursor

/-- Reads the items of a list up to its closing bracket, at most `bound` of them; `read` holds the
items so far, in reverse. -/
def readItems (value : Cursor → Except Failure (Json × Cursor)) :
    (bound : Nat) → Cursor → (read : List Json) → Except Failure (List Json × Cursor)
  | 0, cursor, _ => .error (.invalid .expectingValue cursor.position)
  | bound + 1, cursor, read => do
      let (item, cursor) ← value cursor
      let cursor := cursor.skip
      match cursor.rest with
      | ']' :: rest => .ok ((item :: read).reverse, cursor.next rest)
      | ',' :: rest => readItems value bound (cursor.next rest).skip (item :: read)
      | _ => .error (.invalid .expectingComma cursor.position)

/-- Reads the name of a field with its colon. -/
def readName (bound : Nat) (cursor : Cursor) : Except Failure (String × Cursor) :=
  match cursor.rest with
  | '"' :: rest => do
      let (name, cursor) ← readText cursor.position bound (cursor.next rest) []
      let cursor := cursor.skip
      match cursor.rest with
      | ':' :: rest => .ok (name, (cursor.next rest).skip)
      | _ => .error (.invalid .expectingColon cursor.position)
  | _ => .error (.invalid .expectingName cursor.position)

/-- Reads the fields of an object up to its closing brace, at most `bound` of them. -/
def readFields (name : Cursor → Except Failure (String × Cursor))
    (value : Cursor → Except Failure (Json × Cursor)) :
    (bound : Nat) → Cursor → (read : Assoc Json) → Except Failure (Assoc Json × Cursor)
  | 0, cursor, _ => .error (.invalid .expectingName cursor.position)
  | bound + 1, cursor, read => do
      let (key, cursor) ← name cursor
      let (field, cursor) ← value cursor
      let read := read.put key field
      let cursor := cursor.skip
      match cursor.rest with
      | '\x7d' :: rest => .ok (read, cursor.next rest)
      | ',' :: rest => readFields name value bound (cursor.next rest).skip read
      | _ => .error (.invalid .expectingComma cursor.position)

/-- Reads a value with brackets nested at most `depth` levels; `bound` is more than the number of
characters left, so that no list, object or text has more parts. -/
def readValue (bound depth : Nat) (cursor : Cursor) : Except Failure (Json × Cursor) :=
  match cursor.rest with
  | '"' :: rest => do
      let (content, cursor) ← readText cursor.position bound (cursor.next rest) []
      return (.text content, cursor)
  | '[' :: rest =>
      match depth with
      | 0 => .error .tooDeep
      | depth + 1 =>
          let cursor := (cursor.next rest).skip
          match cursor.rest with
          | ']' :: rest => .ok (.list [], cursor.next rest)
          | _ => do
              let (items, cursor) ← readItems (readValue bound depth) bound cursor []
              return (.list items, cursor)
  | '\x7b' :: rest =>
      match depth with
      | 0 => .error .tooDeep
      | depth + 1 =>
          let cursor := (cursor.next rest).skip
          match cursor.rest with
          | '\x7d' :: rest => .ok (.object [], cursor.next rest)
          | _ => do
              let (fields, cursor) ←
                readFields (readName bound) (readValue bound depth) bound cursor []
              return (.object fields, cursor)
  | [] => .error (.invalid .expectingValue cursor.position)
  | _ :: _ => readScalar cursor

/-- Reads a whole text as one value with brackets nested at most `depth` levels. -/
def read (depth : Nat) (text : List Char) : Except Failure Json :=
  match text with
  | '\uFEFF' :: _ => .error (.invalid .byteOrderMark 0)
  | _ => do
      let (value, cursor) ← readValue (text.length + 1) depth (Cursor.mk 0 text).skip
      let cursor := cursor.skip
      if cursor.rest.isEmpty then return value
      else throw (.invalid .extraData cursor.position)

end Json
end Scriptlet
