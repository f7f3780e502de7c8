import Scriptlet.Number.Parts
import Scriptlet.Text.Digit
import Scriptlet.Text.Blank

/-!
# Reading numbers

Decimal texts are read exactly and rounded once. Number literals of the language are a run of digits
with at most one point; the indices in the names of array items allow more: a sign, an exponent,
underscores between digits, digits of any script, and names for the numbers that are not finite.
-/

namespace Scriptlet.Number

open Text

/-- The number that a run of digits stands for. -/
def ofDigits (digits : List Char) : Nat :=
  digits.foldl (fun n c => n * 10 + asciiDigit c) 0

/-- `digits * 10 ^ power`, rounded to nearest with ties to even. The powers beyond the range of
numbers are decided by the size of the decimal alone. -/
def ofDecimal (digits : Nat) (power : Int) : Float :=
  if digits = 0 then 0.0
  else
    let size : Int := (Nat.toDigits 10 digits).length + power
    if 310 < size then infinity
    else if size < -330 then 0.0
    else if 0 ≤ power then Float.ofScientific digits false power.toNat
    else Float.ofScientific digits true (-power).toNat

/-- The number of a run of digits with at most one point. -/
def ofLexeme (lexeme : List Char) : Float :=
  let whole := lexeme.takeWhile isDigit
  let fraction := (lexeme.dropWhile isDigit).drop 1
  ofDecimal (ofDigits (whole ++ fraction)) (-(fraction.length : Int))

/-- A digit of any script as an ASCII digit; other characters stay. -/
def plainDigit (c : Char) : Char :=
  match digitValue? c with
  | some n => Char.ofNat ('0'.toNat + n)
  | none => c

/-- Takes out the underscores, each of which must stand between two digits; `before` is the
character before the text. -/
def dropUnderscores (before : Char) : List Char → Option (List Char)
  | [] => if before = '_' then none else some []
  | c :: rest =>
      if c = '_' then
        if isDigit before then dropUnderscores c rest else none
      else if before = '_' && !isDigit c then none
      else (dropUnderscores c rest).map (c :: ·)

/-- The exponent at the end of a number, zero if there is none. -/
def readExponent? : List Char → Option Int
  | [] => some 0
  | mark :: rest =>
      if mark = 'e' ∨ mark = 'E' then
        let (negative, digits) := match rest with
          | '-' :: digits => (true, digits)
          | '+' :: digits => (false, digits)
          | digits => (false, digits)
        if digits.isEmpty || !digits.all isDigit then none
        else some (if negative then -(ofDigits digits : Int) else ofDigits digits)
      else none

/-- An unsigned decimal with an optional point and exponent. -/
def readUnsigned? (text : List Char) : Option Float :=
  let whole := text.takeWhile isDigit
  let (fraction, rest) := match text.dropWhile isDigit with
    | '.' :: rest => (rest.takeWhile isDigit, rest.dropWhile isDigit)
    | rest => ([], rest)
  if whole.isEmpty && fraction.isEmpty then none
  else (readExponent? rest).map fun exponent =>
    ofDecimal (ofDigits (whole ++ fraction)) (exponent - fraction.length)

/-- The magnitude of a number: a decimal, or a name of an infinite or undefined number in any
case. -/
def readMagnitude? (text : List Char) : Option Float :=
  match String.ofList (text.map Char.toLower) with
  | "inf" | "infinity" => some infinity
  | "nan" => some notANumber
  | _ => readUnsigned? text

/-- Reads a number from a whole text, apart from the white space around it. -/
def read? (text : List Char) : Option Float :=
  match dropUnderscores ' ' ((strip text).map plainDigit) with
  | none => none
  | some ('-' :: rest) => (readMagnitude? rest).map (- ·)
  | some ('+' :: rest) => readMagnitude? rest
  | some rest => readMagnitude? rest

end Scriptlet.Number
