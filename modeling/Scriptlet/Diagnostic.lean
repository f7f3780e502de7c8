import Scriptlet.Location

/-!
# Diagnostics

A diagnostic is a message with a code, a severity and, when it is known, the place in the source
that it is about. Its text form quotes the source line and marks the place with carets.
-/

namespace Scriptlet

/-- How serious a diagnostic is. -/
inductive Severity where
  | error
  | warning
  | info
  | hint
  deriving DecidableEq, Repr

namespace Severity

/-- The word for a severity. -/
def label : Severity → String
  | .error => "error"
  | .warning => "warning"
  | .info => "info"
  | .hint => "hint"

/-- The severity that a word names. -/
def ofLabel? : String → Option Severity
  | "error" => some .error
  | "warning" => some .warning
  | "info" => some .info
  | "hint" => some .hint
  | _ => none

end Severity

/-- A message about a source text. -/
structure Diagnostic where
  code : String
  message : String
  severity : Severity := .error
  span : Option Span := none
  /-- The line of the source on which the span starts. -/
  sourceLine : Option String := none
  hints : List String := []
  deriving DecidableEq, Repr

namespace Diagnostic

/-- Text padded on the left to a width. -/
def padLeft (width : Nat) (text : String) : String :=
  String.ofList (List.replicate (width - text.length) ' ') ++ text

/-- The first line of a diagnostic. -/
def header (d : Diagnostic) : String :=
  let place := match d.span with
    | some span => span.start.render ++ ": "
    | none => ""
  s!"{place}{d.severity.label}[{d.code}]: {d.message}"

/-- How many carets mark a span on its first line. -/
def caretCount (span : Span) (sourceLine : String) : Nat :=
  let stop := if span.start.line = span.stop.line then span.stop.column else sourceLine.length + 1
  max 1 (stop - span.start.column)

/-- The line of carets under a quoted source line. -/
def marker (span : Span) (sourceLine : String) : String :=
  "    | " ++ String.ofList (List.replicate (span.start.column - 1) ' ') ++
    String.ofList (List.replicate (caretCount span sourceLine) '^')

/-- The quoted source line with its carets. -/
def excerpt (d : Diagnostic) : List String :=
  match d.span, d.sourceLine with
  | some span, some sourceLine =>
      ["  |", s!"{padLeft 3 (toString span.start.line)} | {sourceLine}", marker span sourceLine]
  | _, _ => []

/-- The lines of the text form of a diagnostic, with or without the source excerpt. -/
def lines (d : Diagnostic) (showSource : Bool) : List String :=
  d.header :: ((if showSource then d.excerpt else []) ++ d.hints.map ("    = hint: " ++ ·))

/-- The text form of a diagnostic. -/
def format (d : Diagnostic) (showSource : Bool := true) : String :=
  "\n".intercalate (d.lines showSource)

/-- Gives a diagnostic a place unless it has one. -/
def locate (d : Diagnostic) (span : Span) (sourceLine : Option String) : Diagnostic :=
  match d.span with
  | some _ => d
  | none => { d with span := some span, sourceLine := sourceLine }

end Diagnostic

end Scriptlet
