import Scriptlet.Yaml.Scalar

/-!
# Reading YAML

The part of YAML that configuration files use: block tables and block lists, which are told apart by
indentation, tables and lists in brackets, plain and quoted scalars, comments and the markers of a
document. A text that is no single document of this kind is not read.
-/

namespace Scriptlet
namespace Yaml

/-! ## Lines -/

/-- A line without the blanks at its start. -/
structure Line where
  indent : Nat
  text : List Char
  deriving Repr

namespace Line

/-- The line of a text. -/
def ofText (chars : List Char) : Line :=
  let blanks := chars.takeWhile (· = ' ')
  ⟨blanks.length, chars.drop blanks.length⟩

/-- Whether a line holds nothing but a comment. -/
def isComment (line : Line) : Bool :=
  line.text.head? == some '#'

/-- Whether a line holds nothing or nothing but a comment. -/
def isBlank (line : Line) : Bool :=
  line.text.isEmpty || line.isComment

/-- Whether three characters and a blank start a line. -/
def startsWithMark (mark : Char) (line : Line) : Bool :=
  line.indent == 0 && match line.text with
    | [a, b, c] => a == mark && b == mark && c == mark
    | a :: b :: c :: d :: _ => a == mark && b == mark && c == mark && d == ' '
    | _ => false

/-- Whether a line starts a document. -/
def isStart (line : Line) : Bool :=
  line.startsWithMark '-'

/-- Whether a line starts or ends a document. -/
def isMarker (line : Line) : Bool :=
  line.isStart || line.startsWithMark '.'

/-- Whether a line starts an item of a block list. -/
def startsItem (line : Line) : Bool :=
  match line.text with
  | ['-'] => true
  | '-' :: ' ' :: _ => true
  | _ => false

end Line

/-- The lines that are left, without those that hold nothing. -/
def dropBlank (lines : List Line) : List Line :=
  lines.dropWhile Line.isBlank

/-- Whether a character ends a line. -/
def isBreak (c : Char) : Bool :=
  c == '\n' || c == '\u0085' || c == '\u2028' || c == '\u2029'

/-- The lines of a text of which `held`, in reverse, is the start of the first line. -/
def linesFrom : (held : List Char) → List Char → List Line
  | held, [] => [.ofText held.reverse]
  | held, c :: rest =>
      if isBreak c then .ofText held.reverse :: linesFrom [] rest else linesFrom (c :: held) rest

/-- The text of lines. -/
def flatten (chars : List Char) (rest : List Line) : List Char :=
  chars ++ rest.flatMap fun line => '\n' :: (List.replicate line.indent ' ' ++ line.text)

/-- The lines after a value in brackets or quotes; nothing but a comment may follow it on its own
line. -/
def linesAfterValue (chars : List Char) : Option (List Line) :=
  match linesFrom [] chars with
  | line :: rest => if line.isBlank then some rest else none
  | [] => some []

/-! ## Scalars -/

/-- Takes blanks and line breaks: how many breaks there were, and what follows. -/
def takeBreaks : (count : Nat) → List Char → Nat × List Char
  | count, ' ' :: rest => takeBreaks count rest
  | count, '\n' :: rest => takeBreaks (count + 1) rest
  | count, rest => (count, rest)

/-- What a number of line breaks inside a scalar stands for, in reverse. -/
def foldBreaks (count : Nat) : List Char :=
  if count = 1 then [' '] else List.replicate (count - 1) '\n'

/-- The character that a backslash and `c` stand for. -/
def escaped? : Char → Option Char
  | '0' => some '\x00'
  | 'a' => some '\x07'
  | 'b' => some '\x08'
  | 't' => some '\t'
  | '\t' => some '\t'
  | 'n' => some '\n'
  | 'v' => some '\x0b'
  | 'f' => some '\x0c'
  | 'r' => some '\r'
  | 'e' => some '\x1b'
  | ' ' => some ' '
  | '"' => some '"'
  | '\\' => some '\\'
  | '/' => some '/'
  | 'N' => some '\u0085'
  | '_' => some '\u00a0'
  | 'L' => some '\u2028'
  | 'P' => some '\u2029'
  | _ => none

/-- How many digits follow a backslash and `c`. -/
def escapeWidth? : Char → Option Nat
  | 'x' => some 2
  | 'u' => some 4
  | 'U' => some 8
  | _ => none

/-- Reads the inside of a quoted scalar; `read` holds its characters so far, in reverse. -/
def quotedRest (mark : Char) : (fuel : Nat) → List Char → (read : List Char) →
    Option (List Char × List Char)
  | 0, _, _ => none
  | _ + 1, [], _ => none
  | fuel + 1, c :: rest, read =>
      if c = mark then
        if mark = '\'' && rest.head? == some '\'' then
          quotedRest mark fuel (rest.drop 1) ('\'' :: read)
        else some (read.reverse, rest)
      else if c = '\n' then
        let (count, rest) := takeBreaks 1 rest
        quotedRest mark fuel rest (foldBreaks count ++ read.dropWhile (· = ' '))
      else if c = '\\' && mark = '"' then
        match rest with
        | [] => none
        | e :: rest =>
            if e = '\n' then
              let (count, rest) := takeBreaks 0 rest
              quotedRest mark fuel rest (List.replicate count '\n' ++ read)
            else match escapeWidth? e with
              | some width =>
                  if (rest.take width).length = width then
                    match digitsIn? 16 (rest.take width) with
                    | some n => quotedRest mark fuel (rest.drop width) (Char.ofNat n :: read)
                    | none => none
                  else none
              | none =>
                  match escaped? e with
                  | some c => quotedRest mark fuel rest (c :: read)
                  | none => none
      else quotedRest mark fuel rest (c :: read)

/-- Reads a quoted scalar: its text and what follows. -/
def quotedScalar? : List Char → Option (Yaml × List Char)
  | mark :: rest =>
      (quotedRest mark (rest.length + 1) rest []).map fun (chars, rest) =>
        (.text (String.ofList chars), rest)
  | [] => none

/-- Whether a character is a quote. -/
def isQuote (c : Char) : Bool :=
  c == '"' || c == '\''

/-- The characters that part values in brackets. -/
def isFlowMark (c : Char) : Bool :=
  c == ',' || c == '[' || c == ']' || c == '\x7b' || c == '\x7d'

/-- The characters that no plain scalar starts with. -/
def isIndicator (c : Char) : Bool :=
  isFlowMark c || isQuote c || " \t\n-?:#&*!|>%@`".toList.contains c

/-- Whether a text starts with a plain scalar. -/
def startsPlain (inFlow : Bool) : List Char → Bool
  | [] => false
  | c :: rest =>
      if !isIndicator c then true
      else
        let separated := match rest with
          | [] => true
          | d :: _ => d == ' ' || d == '\t' || d == '\n'
        !separated && (c == '-' || (!inFlow && (c == '?' || c == ':')))

/-- Whether a colon in front of a text ends a plain scalar. -/
def endsKey (inFlow : Bool) : List Char → Bool
  | [] => true
  | c :: _ => c == ' ' || c == '\t' || c == '\n' || (inFlow && isFlowMark c)

/-- The part of a plain scalar on one line; `read` holds it so far, in reverse. -/
def plainRun (inFlow : Bool) : List Char → (read : List Char) → List Char × List Char
  | [], read => (read, [])
  | c :: rest, read =>
      if c = '\n' || c = '\t' then (read, c :: rest)
      else if c = ':' && endsKey inFlow rest then (read, c :: rest)
      else if c = '#' && (read.head?.getD ' ') == ' ' then (read, c :: rest)
      else if inFlow && (isFlowMark c || c == '?') then (read, c :: rest)
      else plainRun inFlow rest (c :: read)

/-- The part of a plain scalar on one line, without the blanks at its end, and what follows. -/
def plainPart (inFlow : Bool) (chars : List Char) : List Char × List Char :=
  let (read, rest) := plainRun inFlow chars []
  ((read.dropWhile (· = ' ')).reverse, rest)

/-! ## Values in brackets -/

/-- Takes blanks, line breaks and comments; `comment` says whether a comment is being skipped. -/
def skipFlow : (comment : Bool) → List Char → List Char
  | _, [] => []
  | true, c :: rest => skipFlow (c != '\n') rest
  | false, c :: rest =>
      if c = ' ' || c = '\n' then skipFlow false rest
      else if c = '#' then skipFlow true rest
      else c :: rest

/-- Reads a plain scalar in brackets, which may go on over several lines. -/
def flowPlain : (fuel : Nat) → List Char → (read : List Char) → Option (Yaml × List Char)
  | 0, _, _ => none
  | fuel + 1, chars, read =>
      let (part, rest) := plainPart true chars
      let read := read ++ part
      match rest with
      | '\n' :: more =>
          let (count, more) := takeBreaks 1 more
          match more with
          | [] => some (ofPlain read, [])
          | c :: _ =>
              if isFlowMark c || c == '#' || c == ':' then some (ofPlain read, more)
              else flowPlain fuel more (read ++ (foldBreaks count).reverse)
      | _ => some (ofPlain read, rest)

/-- Whether a value can be the key of a table. -/
def isKey : Yaml → Bool
  | .list _ | .table _ => false
  | _ => true

/-- Reads what follows a key in brackets: its value, or nothing. -/
def flowEntryValue (value : List Char → Option (Yaml × List Char)) (closing : Char)
    (chars : List Char) : Option (Yaml × List Char) :=
  match chars with
  | ':' :: rest =>
      match skipFlow false rest with
      | [] => none
      | c :: more => if c = ',' || c = closing then some (.null, c :: more) else value (c :: more)
  | _ => some (.null, chars)

/-- Reads the items of a list in brackets. -/
def flowItems (value : List Char → Option (Yaml × List Char)) : (fuel : Nat) → List Char →
    (read : List Yaml) → Option (Yaml × List Char)
  | 0, _, _ => none
  | fuel + 1, chars, read =>
      match skipFlow false chars with
      | [] => none
      | ']' :: rest => some (.list read.reverse, rest)
      | chars =>
          match value chars with
          | none => none
          | some (item, rest) =>
              let rest := skipFlow false rest
              let item? :=
                if rest.head? == some ':' then
                  if isKey item then
                    (flowEntryValue value ']' rest).map fun (value, rest) =>
                      (.table [(item, value)], skipFlow false rest)
                  else none
                else some (item, rest)
              match item? with
              | some (item, ',' :: rest) => flowItems value fuel rest (item :: read)
              | some (item, ']' :: rest) => some (.list (item :: read).reverse, rest)
              | _ => none

/-- Reads the entries of a table in brackets. -/
def flowEntries (value : List Char → Option (Yaml × List Char)) : (fuel : Nat) → List Char →
    (read : List (Yaml × Yaml)) → Option (Yaml × List Char)
  | 0, _, _ => none
  | fuel + 1, chars, read =>
      match skipFlow false chars with
      | [] => none
      | '\x7d' :: rest => some (.table read, rest)
      | chars =>
          match value chars with
          | none => none
          | some (key, rest) =>
              if !isKey key then none
              else match flowEntryValue value '\x7d' (skipFlow false rest) with
                | none => none
                | some (item, rest) =>
                    let read := putEntry key item read
                    match skipFlow false rest with
                    | ',' :: rest => flowEntries value fuel rest read
                    | '\x7d' :: rest => some (.table read, rest)
                    | _ => none

/-- Reads a value in brackets or inside brackets. -/
def flowValue : (fuel : Nat) → List Char → Option (Yaml × List Char)
  | 0, _ => none
  | fuel + 1, chars =>
      match chars with
      | [] => none
      | c :: rest =>
          if c = '[' then flowItems (flowValue fuel) (rest.length + 1) rest []
          else if c = '\x7b' then flowEntries (flowValue fuel) (rest.length + 1) rest []
          else if isQuote c then quotedScalar? chars
          else if startsPlain true chars then flowPlain (chars.length + 1) chars []
          else none

/-! ## Blocks -/

/-- Reads on a plain scalar over the lines that are indented enough; `blanks` counts the empty lines
since its last part. -/
def plainLines (least : Nat) : List Line → (blanks : Nat) → (read : List Char) →
    Option (Yaml × List Line)
  | [], _, read => some (ofPlain read, [])
  | line :: rest, blanks, read =>
      if line.text.isEmpty then plainLines least rest (blanks + 1) read
      else if line.isComment || line.indent < least || line.isMarker then
        some (ofPlain read, line :: rest)
      else
        let (part, after) := plainPart false line.text
        let read := read ++ (foldBreaks (blanks + 1)).reverse ++ part
        match after with
        | [] => plainLines least rest 0 read
        | '#' :: _ => some (ofPlain read, rest)
        | _ => none

/-- Reads a value that starts on a line; lines that go on with it are indented `least` or more. -/
def inlineValue (least : Nat) (chars : List Char) (rest : List Line) : Option (Yaml × List Line) :=
  match chars with
  | [] => none
  | c :: _ =>
      if c = '[' || c = '\x7b' then do
        let chars := flatten chars rest
        let (value, after) ← flowValue (chars.length + 1) chars
        return (value, ← linesAfterValue after)
      else if isQuote c then do
        let (value, after) ← quotedScalar? (flatten chars rest)
        return (value, ← linesAfterValue after)
      else if startsPlain false chars then
        let (part, after) := plainPart false chars
        match after with
        | [] => plainLines least rest 0 part
        | '#' :: _ => some (ofPlain part, rest)
        | _ => none
      else none

/-- The key at the start of a line and the text after its colon. -/
def keyOf? (chars : List Char) : Option (Yaml × List Char) :=
  match chars with
  | [] => none
  | c :: _ =>
      if isQuote c then do
        let (key, after) ← quotedScalar? chars
        match after.dropWhile (· = ' ') with
        | ':' :: rest => if endsKey false rest then some (key, rest) else none
        | _ => none
      else if startsPlain false chars then
        match plainPart false chars with
        | (part, ':' :: rest) => some (ofPlain part, rest)
        | _ => none
      else none

/-- The text after a mark at the start of a line, without blanks; a comment counts as nothing. -/
def contentAfter (chars : List Char) : List Char :=
  match chars.dropWhile (· = ' ') with
  | '#' :: _ => []
  | content => content

mutual

/-- Reads a value whose lines are indented by `least` or more. -/
def blockValue : (fuel least : Nat) → List Line → Option (Yaml × List Line)
  | 0, _, _ => none
  | fuel + 1, least, lines =>
      match dropBlank lines with
      | [] => some (.null, [])
      | line :: rest =>
          if line.indent < least || line.isMarker then some (.null, line :: rest)
          else if line.startsItem then blockItems fuel line.indent (line :: rest) []
          else if (keyOf? line.text).isSome then blockEntries fuel line.indent (line :: rest) []
          else inlineValue least line.text rest

/-- Reads the items of a block list. -/
def blockItems : (fuel indent : Nat) → List Line → (read : List Yaml) → Option (Yaml × List Line)
  | 0, _, _, _ => none
  | fuel + 1, indent, lines, read =>
      match dropBlank lines with
      | [] => some (.list read.reverse, [])
      | line :: rest =>
          if line.indent < indent || line.isMarker then some (.list read.reverse, line :: rest)
          else if indent < line.indent then none
          else if !line.startsItem then some (.list read.reverse, line :: rest)
          else
            let content := contentAfter (line.text.drop 1)
            let lines :=
              if content.isEmpty then rest
              else ⟨line.indent + (line.text.length - content.length), content⟩ :: rest
            match blockValue fuel (indent + 1) lines with
            | some (item, lines) => blockItems fuel indent lines (item :: read)
            | none => none

/-- Reads the entries of a block table. -/
def blockEntries : (fuel indent : Nat) → List Line → (read : List (Yaml × Yaml)) →
    Option (Yaml × List Line)
  | 0, _, _, _ => none
  | fuel + 1, indent, lines, read =>
      match dropBlank lines with
      | [] => some (.table read, [])
      | line :: rest =>
          if line.indent < indent || line.isMarker then some (.table read, line :: rest)
          else if indent < line.indent then none
          else match keyOf? line.text with
            | none => none
            | some (key, after) =>
                match entryValue fuel indent (contentAfter after) rest with
                | some (value, lines) => blockEntries fuel indent lines (putEntry key value read)
                | none => none

/-- Reads the value of an entry of a block table. A block list may be indented like the table. -/
def entryValue : (fuel indent : Nat) → (content : List Char) → List Line →
    Option (Yaml × List Line)
  | 0, _, _, _ => none
  | fuel + 1, indent, content, rest =>
      if !content.isEmpty then inlineValue (indent + 1) content rest
      else match dropBlank rest with
        | line :: lines =>
            if line.indent = indent && line.startsItem then
              blockItems fuel indent (line :: lines) []
            else blockValue fuel (indent + 1) (line :: lines)
        | [] => some (.null, [])

end

/-! ## Documents -/

/-- The characters that a document may hold. -/
def isAllowed (c : Char) : Bool :=
  let n := c.toNat
  n == 0x9 || n == 0xA || n == 0xD || (0x20 ≤ n && n ≤ 0x7E) || n == 0x85 ||
    (0xA0 ≤ n && n ≤ 0xFFFD) || 0x10000 ≤ n

/-- Whether nothing but the end of a document is left. -/
def isFinished (lines : List Line) : Bool :=
  match dropBlank lines with
  | [] => true
  | line :: rest => line.isMarker && !line.isStart && (dropBlank rest).isEmpty

/-- Reads the value of a document. -/
def readLines (lines : List Line) : Option (Yaml × List Line) :=
  let fuel := 4 * ((flatten [] lines).length + 1)
  match dropBlank lines with
  | line :: rest =>
      if line.isStart then
        let content := contentAfter (line.text.drop 3)
        if content.isEmpty then blockValue fuel 0 rest else inlineValue 0 content rest
      else blockValue fuel 0 (line :: rest)
  | [] => some (.null, [])

/-- Reads a text that is a single document. -/
def read? (chars : List Char) : Option Yaml :=
  let chars := match chars with
    | '\uFEFF' :: rest => rest
    | chars => chars
  if !chars.all isAllowed then none
  else match readLines (linesFrom [] chars) with
    | some (value, rest) => if isFinished rest then some value else none
    | none => none

end Yaml
end Scriptlet
