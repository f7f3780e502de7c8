import Scriptlet.Yaml
import Scriptlet.Number.Reading

/-!
# Plain scalars

A scalar that is written without quotes is a null, a boolean, an integer or a number if it looks
like one, and a text otherwise.
-/

namespace Scriptlet
namespace Yaml

/-- The spellings of null. -/
def nullWords : List String :=
  ["", "~", "null", "Null", "NULL"]

/-- The spellings of true. -/
def trueWords : List String :=
  ["yes", "Yes", "YES", "true", "True", "TRUE", "on", "On", "ON"]

/-- The spellings of false. -/
def falseWords : List String :=
  ["no", "No", "NO", "false", "False", "FALSE", "off", "Off", "OFF"]

/-- The value of a digit in a base up to sixteen. -/
def digitIn? (base : Nat) (c : Char) : Option Nat :=
  let value :=
    if '0' ≤ c ∧ c ≤ '9' then c.toNat - '0'.toNat
    else if 'a' ≤ c ∧ c ≤ 'f' then c.toNat - 'a'.toNat + 10
    else if 'A' ≤ c ∧ c ≤ 'F' then c.toNat - 'A'.toNat + 10
    else base
  if value < base then some value else none

/-- The number of a run of digits in a base, among which underscores may stand. -/
def digitsIn? (base : Nat) (digits : List Char) : Option Nat :=
  match digits.filter (· != '_') with
  | [] => none
  | digits => digits.foldlM (fun n c => (digitIn? base c).map (n * base + ·)) 0

/-- An integer without a sign, in base two, eight, ten or sixteen. -/
def natural? : List Char → Option Nat
  | ['0'] => some 0
  | '0' :: 'b' :: digits => digitsIn? 2 digits
  | '0' :: 'x' :: digits => digitsIn? 16 digits
  | '0' :: digits => digitsIn? 8 ('0' :: digits)
  | '_' :: _ => none
  | digits => digitsIn? 10 digits

/-- An integer. -/
def integer? : List Char → Option Int
  | '-' :: rest => (natural? rest).map fun n => -(n : Int)
  | '+' :: rest => (natural? rest).map Int.ofNat
  | rest => (natural? rest).map Int.ofNat

/-- Whether a text ends with an exponent that has a sign, or has none at all. -/
def hasSignedExponent (text : List Char) : Bool :=
  match text.dropWhile fun c => c != 'e' && c != 'E' with
  | [] => true
  | _ :: sign :: digits =>
      (sign == '+' || sign == '-') && !digits.isEmpty && digits.all Text.isDigit
  | _ => false

/-- A number without a sign: it has a point, and its exponent has a sign. -/
def decimal? (text : List Char) : Option Float :=
  match text with
  | '_' :: _ => none
  | '.' :: '_' :: _ => none
  | _ =>
      let text := text.filter (· != '_')
      if text.contains '.' && hasSignedExponent text then Number.readUnsigned? text else none

/-- The infinite numbers and the number that is none. -/
def specialNumber? (text : String) : Option Float :=
  if [".inf", ".Inf", ".INF", "+.inf", "+.Inf", "+.INF"].contains text then some Number.infinity
  else if ["-.inf", "-.Inf", "-.INF"].contains text then some (-Number.infinity)
  else if [".nan", ".NaN", ".NAN"].contains text then some Number.notANumber
  else none

/-- A number. A number that starts with its point has no sign. -/
def number? (text : List Char) : Option Float :=
  match specialNumber? (String.ofList text) with
  | some x => some x
  | none =>
      match text with
      | '-' :: '.' :: _ => none
      | '+' :: '.' :: _ => none
      | '-' :: rest => (decimal? rest).map (- ·)
      | '+' :: rest => decimal? rest
      | rest => decimal? rest

/-- The value of a scalar that is written without quotes. -/
def ofPlain (text : List Char) : Yaml :=
  let word := String.ofList text
  if nullWords.contains word then .null
  else if trueWords.contains word then .bool true
  else if falseWords.contains word then .bool false
  else match integer? text with
    | some n => .int n
    | none =>
        match number? text with
        | some x => .float x
        | none => .text word

end Yaml
end Scriptlet
