import Scriptlet.Token
import Scriptlet.Fault
import Scriptlet.Number.Reading
import Scriptlet.Text.Blank
import Scriptlet.Text.Letter
import Scriptlet.Text.Lines

/-!
# From characters to tokens

Layout, that is white space and comments, is skipped; then the longest lexeme at the front of the
text is taken off. Every step hands on exactly the characters that it did not use.
-/

namespace Scriptlet
namespace Lexer

open Text

/-- Skips layout from a location. Inside a comment everything up to the next line feed is layout. -/
def skipLayout : (comment : Bool) → Location → List Char → Location × List Char
  | _, place, [] => (place, [])
  | true, place, c :: rest => skipLayout (c != '\n') (place.advance c) rest
  | false, place, c :: rest =>
      if isBlank c then skipLayout false (place.advance c) rest
      else if c = '#' then skipLayout true (place.advance c) rest
      else (place, c :: rest)

/-- The characters of a lexeme, what it stands for, and the characters after it. -/
structure Piece where
  lexeme : List Char
  lexical : Lexical
  rest : List Char

/-- The character that a backslash and `c` stand for inside a text. -/
def unescape (c : Char) : Char :=
  if c = 'n' then '\n' else if c = 't' then '\t' else c

/-- Reads the inside of a text up to its closing quote: the characters it stands for, the characters
read with the quote, and the characters after them. The first two have been collected in reverse. -/
def textBody (mark : Char) :
    (value read : List Char) → List Char → Option (List Char × List Char × List Char)
  | _, _, [] => none
  | _, _, ['\\'] => none
  | value, read, '\\' :: c :: rest => textBody mark (unescape c :: value) (c :: '\\' :: read) rest
  | value, read, c :: rest =>
      if c = mark then some (value.reverse, (c :: read).reverse, rest)
      else textBody mark (c :: value) (c :: read) rest

/-- The longest run of digits with at most one point, and the characters after it. -/
def numberRun (text : List Char) : List Char × List Char :=
  let whole := text.takeWhile isDigit
  match text.dropWhile isDigit with
  | '.' :: rest => (whole ++ '.' :: rest.takeWhile isDigit, rest.dropWhile isDigit)
  | rest => (whole, rest)

/-- The longest run of name characters and of points before a name start, and the characters after
it. -/
def nameRun : List Char → List Char × List Char
  | [] => ([], [])
  | [c] => if isNamePart c then ([c], []) else ([], [c])
  | c :: next :: rest =>
      if isNamePart c || (c = '.' && isNameStart next) then
        let (run, rest) := nameRun (next :: rest)
        (c :: run, rest)
      else ([], c :: next :: rest)

/-- What a word stands for: a keyword, or a name. -/
def ofWord (word : String) : Lexical :=
  match Keyword.ofText? word with
  | some keyword => .keyword keyword
  | none => .name word

/-- Whether a number starts with `c`, which is followed by `rest`. -/
def startsNumber (c : Char) (rest : List Char) : Bool :=
  isDigit c || (c = '.' && (rest.head?.map isDigit).getD false)

/-- Takes the first lexeme off a text that starts with `c` and is not layout. -/
def takePiece (c : Char) (rest : List Char) : Except Cause Piece :=
  if c = '"' ∨ c = '\'' then
    match textBody c [] [] rest with
    | some (value, read, after) => .ok ⟨c :: read, .text (String.ofList value), after⟩
    | none => .error .unterminatedText
  else if startsNumber c rest then
    let (run, after) := numberRun (c :: rest)
    .ok ⟨run, .number (Number.ofLexeme run), after⟩
  else if isNameStart c then
    let (run, after) := nameRun (c :: rest)
    .ok ⟨run, ofWord (String.ofList run), after⟩
  else
    match Symbol.leading? (c :: rest) with
    | some symbol => .ok ⟨symbol.chars, .symbol symbol, (c :: rest).drop symbol.chars.length⟩
    | none => .error (.unexpectedCharacter c)

/-- The span of an error at the character `c` followed by `rest`: an unterminated text reaches to
the end of the input, an unexpected character is one character wide. -/
def faultSpan (cause : Cause) (place : Location) (c : Char) (rest : List Char) : Span :=
  match cause with
  | .unterminatedText => ⟨place, place.after (c :: rest)⟩
  | _ => ⟨place, place.advance c⟩

/-- The tokens of a text, and the error that ended the reading, if any. -/
structure Reading where
  tokens : List Token
  error : Option ScriptError

/-- Reads tokens from a location on, after those already read, in reverse; `fuel` exceeds the number
of characters left. -/
def readFrom (source : String) :
    (fuel : Nat) → Location → List Char → (tokens : List Token) → Reading
  | 0, _, _, tokens => ⟨tokens.reverse, none⟩
  | fuel + 1, place, text, tokens =>
      match skipLayout false place text with
      | (place, []) => ⟨(⟨.finish, "", ⟨place, place⟩⟩ :: tokens).reverse, none⟩
      | (place, c :: rest) =>
          match takePiece c rest with
          | .error cause =>
              ⟨tokens.reverse, some
                { cause := cause
                  span := some (faultSpan cause place c rest)
                  sourceLine := line? source place.line }⟩
          | .ok piece =>
              let stop := place.after piece.lexeme
              readFrom source fuel stop piece.rest
                (⟨piece.lexical, String.ofList piece.lexeme, ⟨place, stop⟩⟩ :: tokens)

/-- The tokens of a source text as far as it can be read. -/
def read (source : String) (file : Option String) : Reading :=
  readFrom source (source.length + 1) (Location.start file) source.toList []

/-- The tokens of a source text. -/
def lex (source : String) (file : Option String) : Except ScriptError (List Token) :=
  let reading := read source file
  match reading.error with
  | some error => .error error
  | none => .ok reading.tokens

end Lexer
end Scriptlet
