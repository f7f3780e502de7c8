/-!
# Lines of a text

A text is cut into lines at every line-break character, and a carriage return followed by a line
feed counts as one break. A break at the end of the text opens no further line.
-/

namespace Scriptlet.Text

/-- Whether a character ends a line. -/
def isLineBreak (c : Char) : Bool :=
  c == '\n' || c == '\r' || c == '\x0b' || c == '\x0c' || c == '\x1c' || c == '\x1d' ||
    c == '\x1e' || c == '\u0085' || c == '\u2028' || c == '\u2029'

/-- The lines of a text of which `held`, in reverse, is the start of the first line. -/
def linesAfter : List Char → List Char → List (List Char)
  | held, [] => if held.isEmpty then [] else [held.reverse]
  | held, '\r' :: '\n' :: rest => held.reverse :: linesAfter [] rest
  | held, c :: rest =>
      if isLineBreak c then held.reverse :: linesAfter [] rest else linesAfter (c :: held) rest

/-- The lines of a text, without the characters that end them. -/
def lines (text : String) : List String :=
  (linesAfter [] text.toList).map String.ofList

/-- Line number `n` of a text, counted from one. -/
def line? (text : String) (n : Nat) : Option String :=
  if n = 0 then none else (lines text)[n - 1]?

/-- The characters of a file, with every carriage return, alone or before a line feed, read as a
line feed. -/
def normalizeBreaks : List Char → List Char
  | [] => []
  | '\r' :: '\n' :: rest => '\n' :: normalizeBreaks rest
  | '\r' :: rest => '\n' :: normalizeBreaks rest
  | c :: rest => c :: normalizeBreaks rest

end Scriptlet.Text
