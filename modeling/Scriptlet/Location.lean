/-!
# Places in a source text

A location is a character position with its line and column; a new line begins after a line feed and
nowhere else. A span runs from one location to another.
-/

namespace Scriptlet

/-- A position in a source text. Lines and columns count from one, offsets from zero. -/
structure Location where
  line : Nat := 1
  column : Nat := 1
  offset : Nat := 0
  /-- The name of the file that holds the text. -/
  file : Option String := none
  deriving DecidableEq, Repr, Inhabited

namespace Location

/-- The location after one character. -/
def advance (place : Location) (c : Char) : Location :=
  if c = '\n' then { place with line := place.line + 1, column := 1, offset := place.offset + 1 }
  else { place with column := place.column + 1, offset := place.offset + 1 }

/-- The location after a sequence of characters. -/
def after (place : Location) (text : List Char) : Location :=
  text.foldl advance place

/-- The location `width` columns further on the same line. -/
def shift (place : Location) (width : Nat) : Location :=
  { place with column := place.column + width, offset := place.offset + width }

/-- The start of a text from the given file. -/
def start (file : Option String) : Location :=
  { file := file }

/-- The part of a rendered location that names the file; an empty name is left out. -/
def fileLabel (place : Location) : String :=
  match place.file with
  | some name => if name.isEmpty then "" else name ++ ":"
  | none => ""

/-- A location as `file:line:column`. -/
def render (place : Location) : String :=
  s!"{place.fileLabel}{place.line}:{place.column}"

@[simp]
theorem after_nil (place : Location) : place.after [] = place := rfl

@[simp]
theorem after_cons (place : Location) (c : Char) (text : List Char) :
    place.after (c :: text) = (place.advance c).after text := rfl

theorem after_append (place : Location) (left right : List Char) :
    place.after (left ++ right) = (place.after left).after right := by
  simp [after, List.foldl_append]

end Location

/-- A range of a source text. -/
structure Span where
  start : Location
  stop : Location
  deriving DecidableEq, Repr, Inhabited

namespace Span

/-- A span as `file:line:column-line:column`. -/
def render (span : Span) : String :=
  s!"{span.start.render}-{span.stop.line}:{span.stop.column}"

/-- The least span that starts with the first and ends with the second. -/
def through (first second : Span) : Span :=
  ⟨first.start, second.stop⟩

end Span

end Scriptlet
