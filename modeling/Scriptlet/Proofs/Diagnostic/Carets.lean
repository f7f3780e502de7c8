import Mathlib.Algebra.Group.Nat.Defs
import Scriptlet.Diagnostic

/-!
# Quoted lines and their carets

The text of a diagnostic quotes a source line behind its number, and the line below marks it with
carets.  The number is padded to three columns and the carets are indented for three.  As long as
the number has no more digits, the first caret stands below the character at which the span starts;
every further digit moves the quoted line, but not the carets, one column to the right.
-/

namespace Scriptlet
namespace Diagnostic

variable {d : Diagnostic} {span : Span} {source : String}

/-! ## The quoted line -/

/-- What stands in front of a quoted source line: the number of the line and a bar. -/
def lineLabel (line : Nat) : String :=
  padLeft 3 (toString line) ++ " | "

theorem length_padLeft (width : Nat) (text : String) :
    (padLeft width text).length = max width text.length := by
  simp only [padLeft, String.length_append, String.length_ofList, List.length_replicate]
  omega

theorem length_lineLabel (line : Nat) :
    (lineLabel line).length = max 3 (toString line).length + 3 := by
  rw [lineLabel, String.length_append, length_padLeft]
  rfl

theorem length_toString_le_iff {line width : Nat} (positive : 0 < width) :
    (toString line).length ≤ width ↔ line < 10 ^ width := by
  rw [Nat.toString_eq_ofList_toDigits, String.length_ofList,
    Nat.length_toDigits_le_iff (by decide) positive]

/-! ## The line of carets -/

/-- How many characters stand in front of the first column on the line of carets. -/
def markerIndent : Nat := 6

theorem marker_toList (span : Span) (source : String) :
    (marker span source).toList =
      ("    | ".toList ++ List.replicate (span.start.column - 1) ' ') ++
        List.replicate (caretCount span source) '^' := by
  simp only [marker, String.toList_append, String.toList_ofList]

theorem caretCount_pos (span : Span) (source : String) : 0 < caretCount span source :=
  Nat.lt_of_lt_of_le Nat.zero_lt_one (Nat.le_max_left _ _)

theorem idxOf_caret (span : Span) (source : String) :
    (marker span source).toList.idxOf '^' = markerIndent + (span.start.column - 1) := by
  have blank : '^' ∉ "    | ".toList ++ List.replicate (span.start.column - 1) ' ' := by
    simp
  obtain ⟨more, count_eq⟩ := Nat.exists_eq_add_of_lt (caretCount_pos span source)
  rw [marker_toList, List.idxOf_append, if_neg blank, count_eq, Nat.zero_add, List.replicate_succ,
    List.idxOf_cons_self, Nat.zero_add, List.length_append, List.length_replicate]
  rfl

theorem length_marker (span : Span) (source : String) :
    (marker span source).length =
      markerIndent + (span.start.column - 1) + caretCount span source := by
  rw [← String.length_toList, marker_toList, List.length_append, List.length_append,
    List.length_replicate, List.length_replicate]
  rfl

/-- The carets of a span that starts and ends within a line end at most one position behind it. -/
theorem caretCount_le (inside : span.start.column - 1 ≤ source.length)
    (ends : span.start.line = span.stop.line → span.stop.column ≤ source.length + 1) :
    span.start.column - 1 + caretCount span source ≤ source.length + 1 := by
  unfold caretCount
  split
  · rename_i same
    have stops := ends same
    dsimp only
    omega
  · dsimp only
    omega

/-! ## The text -/

theorem excerpt_eq (placed : d.span = some span) (quoted : d.sourceLine = some source) :
    d.excerpt = ["  |", lineLabel span.start.line ++ source, marker span source] := by
  simp only [excerpt, placed, quoted, lineLabel]
  rfl

/-- Two lines stand in a text, one below the other, and nothing else stands on them. -/
def HasLines (text first second : String) : Prop :=
  ∃ above below, text = above ++ "\n" ++ first ++ "\n" ++ second ++ below ∧
    (below = "" ∨ ∃ rest, below = "\n" ++ rest)

theorem format_hasLines (placed : d.span = some span) (quoted : d.sourceLine = some source) :
    HasLines d.format (lineLabel span.start.line ++ source) (marker span source) := by
  refine ⟨d.header ++ "\n" ++ "  |", ?_⟩
  simp only [format, lines, if_true, excerpt_eq placed quoted]
  cases d.hints.map ("    = hint: " ++ ·) with
  | nil =>
      refine ⟨"", ?_, .inl rfl⟩
      simp only [List.append_nil, String.intercalate_cons_cons, String.intercalate_singleton,
        String.append_assoc, String.append_empty]
  | cons hint hints =>
      refine ⟨"\n" ++ "\n".intercalate (hint :: hints), ?_, .inr ⟨_, rfl⟩⟩
      simp only [List.cons_append, List.nil_append, String.intercalate_cons_cons,
        String.append_assoc]

/-- In the text of a diagnostic the first caret stands in the column of the character at which the
span starts, exactly if the number of the line has at most three digits; otherwise it stands to the
left of it by the further digits.  The carets of a span that ends on another line or within the
quoted one go at most one position beyond that line. -/
theorem format_marks (placed : d.span = some span) (quoted : d.sourceLine = some source)
    (inside : span.start.column - 1 ≤ source.length) :
    HasLines d.format (lineLabel span.start.line ++ source) (marker span source) ∧
      ((marker span source).toList.idxOf '^' =
          (lineLabel span.start.line).length + (span.start.column - 1) ↔
        span.start.line < 1000) ∧
      (marker span source).toList.idxOf '^' + ((toString span.start.line).length - 3) =
        (lineLabel span.start.line).length + (span.start.column - 1) ∧
      ((span.start.line = span.stop.line → span.stop.column ≤ source.length + 1) →
        (marker span source).length ≤ (lineLabel span.start.line ++ source).length + 1) := by
  have digits : (toString span.start.line).length ≤ 3 ↔ span.start.line < 1000 :=
    length_toString_le_iff (by decide)
  have label := length_lineLabel span.start.line
  have first := idxOf_caret span source
  have indent : markerIndent = 6 := rfl
  refine ⟨format_hasLines placed quoted, ?_, by omega, fun ends => ?_⟩
  · rw [← digits]
    omega
  · have carets := caretCount_le inside ends
    rw [length_marker, String.length_append]
    omega

/-- An error on line 1000: the first caret stands one column to the left of its character. -/
theorem format_marks_thousand :
    let span : Span := ⟨{ line := 1000, column := 5 }, { line := 1000, column := 6 }⟩
    let d : Diagnostic :=
      { code := "E101", message := "expected expression, found ';'", span := some span
        sourceLine := some "x = ;" }
    span.start.column - 1 ≤ "x = ;".length ∧
      HasLines d.format (lineLabel 1000 ++ "x = ;") (marker span "x = ;") ∧
      (marker span "x = ;").toList.idxOf '^' ≠ (lineLabel 1000).length + 4 ∧
      (marker span "x = ;").toList.idxOf '^' + 1 = (lineLabel 1000).length + 4 ∧
      (marker span "x = ;").length ≤ (lineLabel 1000 ++ "x = ;").length + 1 := by
  intro span d
  have inside : span.start.column - 1 ≤ "x = ;".length := by decide
  have digits : (toString span.start.line).length = 4 := by decide
  obtain ⟨text, aligned, shifted, ends⟩ :=
    format_marks (show d.span = some span from rfl)
      (show d.sourceLine = some "x = ;" from rfl) inside
  rw [digits] at shifted
  refine ⟨inside, text, fun same => ?_, shifted, ends fun _ => by decide⟩
  exact absurd (aligned.mp same) (by decide)

end Diagnostic
end Scriptlet
