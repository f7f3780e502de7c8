import Scriptlet.Proofs.Parser.Outcome
import Scriptlet.Proofs.Parser.WellFormed
import Scriptlet.Proofs.Tree.Spans

/-!
# Parsers within borders

A parser puts together the spans of its trees and of its errors from the borders of the tokens, and
from places inside of dotted names.  Whatever holds of these places holds of the spans: `Stays` says
so of one run of a parser, and has one rule for every step that a parser is made of.
-/

namespace Scriptlet

namespace Parser

/-- Conditions on the places where something starts and where something stops. -/
structure Borders where
  starts : Location → Prop
  stops : Location → Prop
  stops_of_starts : ∀ place, starts place → stops place

namespace Borders

variable (borders : Borders)

/-- A span lies within borders. -/
def Frames (span : Span) : Prop :=
  borders.starts span.start ∧ borders.stops span.stop

/-- All spans of a tree lie within borders. -/
def Encloses (spans : List Span) : Prop :=
  ∀ span ∈ spans, borders.Frames span

/-- A token lies within borders, and a name may be cut off anywhere. -/
structure Admits (token : Token) : Prop where
  unfinished : token.isFinish = false
  frames : borders.Frames token.span
  cuts : ∀ path, token.lexical = .name path → ∀ width ≤ path.length,
    borders.stops (token.span.start.shift width)

/-- The tokens that are left lie within borders. -/
structure Holds (stream : Stream) : Prop where
  rest : ∀ token ∈ stream.rest, borders.Admits token
  isFinish : stream.finish.isFinish = true
  finish_start : borders.stops stream.finish.span.start
  finish_stop : borders.stops stream.finish.span.stop
  last : borders.stops stream.last

/-- The place of a failure lies within borders. -/
def Excuses : Failure → Prop
  | .refused (.unexpectedEnd _) span => borders.stops span.start ∧ borders.stops span.stop
  | .refused _ span => borders.Frames span
  | .tooDeep => True

variable {borders}

theorem Excuses.stops {cause : Cause} {span : Span}
    (excused : borders.Excuses (.refused cause span)) :
    borders.stops span.start ∧ borders.stops span.stop := by
  unfold Excuses at excused
  split at excused
  · rename_i refused
    cases refused
    exact excused
  · rename_i refused
    cases refused
    exact ⟨borders.stops_of_starts _ excused.1, excused.2⟩
  · rename_i refused
    cases refused

/-- Nothing but the end of the text is missed outside of all tokens. -/
theorem Excuses.frames {cause : Cause} {span : Span}
    (excused : borders.Excuses (.refused cause span))
    (inside : ∀ expected, cause ≠ .unexpectedEnd expected) : borders.Frames span := by
  cases cause with
  | unexpectedEnd expected => exact absurd rfl (inside expected)
  | _ => exact excused

@[simp]
theorem encloses_nil : borders.Encloses [] := by
  simp [Encloses]

@[simp]
theorem encloses_cons {span : Span} {rest : List Span} :
    borders.Encloses (span :: rest) ↔ borders.Frames span ∧ borders.Encloses rest := by
  simp [Encloses]

@[simp]
theorem encloses_append {left right : List Span} :
    borders.Encloses (left ++ right) ↔ borders.Encloses left ∧ borders.Encloses right := by
  simp [Encloses, or_imp, forall_and]

@[simp]
theorem encloses_expressionSpans {expressions : List Expr} :
    borders.Encloses (expressionSpans expressions) ↔
      ∀ part ∈ expressions, borders.Encloses part.spans := by
  simp only [Encloses, mem_expressionSpans]
  exact ⟨fun all part found span inside => all span ⟨part, found, inside⟩,
    fun all span ⟨part, found, inside⟩ => all part found span inside⟩

@[simp]
theorem encloses_bodySpans {statements : List Stmt} :
    borders.Encloses (bodySpans statements) ↔
      ∀ part ∈ statements, borders.Encloses part.spans := by
  simp only [Encloses, mem_bodySpans]
  exact ⟨fun all part found span inside => all span ⟨part, found, inside⟩,
    fun all span ⟨part, found, inside⟩ => all part found span inside⟩

theorem Encloses.expression {expression : Expr} (enclosed : borders.Encloses expression.spans) :
    borders.Frames expression.span :=
  enclosed _ expression.span_mem_spans

/-- What reaches from one framed span to another is framed. -/
theorem Frames.through {first second : Span} (firstFramed : borders.Frames first)
    (secondFramed : borders.Frames second) : borders.Frames (first.through second) :=
  ⟨firstFramed.1, secondFramed.2⟩

/-- The current token, unless it ends the input. -/
theorem Holds.current {stream : Stream} (holds : borders.Holds stream)
    (unfinished : stream.current.isFinish = false) : borders.Admits stream.current := by
  unfold Stream.current at unfinished ⊢
  cases rest_eq : stream.rest with
  | nil =>
      rw [rest_eq, List.headD_nil, holds.isFinish] at unfinished
      cases unfinished
  | cons token rest => exact holds.rest token (by simp [rest_eq])

/-- The current token, if it ends the input. -/
theorem Holds.finish {stream : Stream} (holds : borders.Holds stream)
    (finished : stream.current.isFinish = true) :
    borders.stops stream.current.span.start ∧ borders.stops stream.current.span.stop := by
  unfold Stream.current at finished ⊢
  cases rest_eq : stream.rest with
  | nil => exact ⟨holds.finish_start, holds.finish_stop⟩
  | cons token rest =>
      have admitted := holds.rest token (by simp [rest_eq])
      rw [rest_eq, List.headD_cons, admitted.unfinished] at finished
      cases finished

theorem Holds.advance {stream : Stream} (holds : borders.Holds stream) :
    borders.Holds stream.advance := by
  unfold Stream.advance
  split
  · rename_i token rest rest_eq
    split
    · exact holds
    · have admitted := holds.rest token (by simp [rest_eq])
      exact { holds with
        rest := fun other found => holds.rest other (by simp [rest_eq, found])
        last := admitted.frames.2 }
  · exact holds

end Borders

open Borders

/-! ## Outcomes within borders -/

variable {α β γ : Type} {borders : Borders} {stream : Stream}

/-- A parser that succeeds gives a result of the given kind and a stream within borders; if it
refuses its input, the place lies within borders. -/
def Stays (borders : Borders) (parser : Parse α) (stream : Stream) (post : α → Prop) : Prop :=
  match parser stream with
  | .ok (value, rest) => post value ∧ borders.Holds rest
  | .error failure => borders.Excuses failure

namespace Stays

variable {post : α → Prop} {next : α → Parse β} {last : β → Prop}

theorem pure {value : α} (holds : borders.Holds stream) (satisfied : post value) :
    Stays borders (pure value) stream post :=
  ⟨satisfied, holds⟩

theorem throw {failure : Failure} (excused : borders.Excuses failure) :
    Stays borders (throw failure) stream post :=
  excused

/-- A step that is known to succeed. -/
theorem step {first : Parse α} {value : α} {rest : Stream} (run : first stream = .ok (value, rest))
    (after : Stays borders (next value) rest last) :
    Stays borders (first >>= next) stream last := by
  unfold Stays
  rw [bind_run run]
  exact after

theorem bind {first : Parse α} (before : Stays borders first stream post)
    (after : ∀ value rest, post value → borders.Holds rest → Stays borders (next value) rest last) :
    Stays borders (first >>= next) stream last := by
  unfold Stays at before
  split at before
  · rename_i value rest run
    exact step run (after value rest before.1 before.2)
  · rename_i failure run
    have failed : (first >>= next) stream = .error failure := by
      change (first stream >>= fun pair => next pair.1 pair.2) = _
      rw [run]
      rfl
    unfold Stays
    rw [failed]
    exact before

/-- A step whose result is changed at once. -/
theorem bindMap {first : Parse α} {change : α → γ} {next : γ → Parse β}
    (before : Stays borders first stream post)
    (after : ∀ value rest, post value → borders.Holds rest →
      Stays borders (next (change value)) rest last) :
    Stays borders (change <$> first >>= next) stream last := by
  have changed : Stays borders (change <$> first) stream
      fun result => ∃ value, change value = result ∧ post value :=
    bind before fun value rest satisfied holds => pure holds ⟨value, rfl, satisfied⟩
  refine bind changed ?_
  rintro _ rest ⟨value, rfl, satisfied⟩ holds
  exact after value rest satisfied holds

/-- Taking the current token. -/
theorem advance (holds : borders.Holds stream) :
    Stays borders advance stream fun token => token = stream.current :=
  ⟨rfl, holds.advance⟩

/-- Refusing the current token. -/
theorem unexpected {expected : String} (holds : borders.Holds stream) :
    Stays borders (unexpected expected) stream post := by
  refine step (current_run stream) ?_
  split
  · rename_i finished
    exact throw (holds.finish finished)
  · rename_i unfinished
    exact throw (holds.current (by simpa using unfinished)).frames

theorem skipSymbol {symbol : Symbol} (holds : borders.Holds stream) :
    Stays borders (skipSymbol symbol) stream fun _ => True := by
  refine step (atSymbol_run symbol stream) ?_
  split
  · exact bind (advance holds) fun _ _ _ holds => pure holds trivial
  · exact pure holds trivial

/-- A symbol that has been taken is no end of the input. -/
theorem takeSymbol {symbol : Symbol} (holds : borders.Holds stream) :
    Stays borders (takeSymbol symbol) stream borders.Admits := by
  refine step (atSymbol_run symbol stream) ?_
  split
  · rename_i found
    exact ⟨holds.current (isFinish_of_isSymbol found), holds.advance⟩
  · exact unexpected holds

theorem takeName {expected : String} (holds : borders.Holds stream) :
    Stays borders (takeName expected) stream fun named => borders.Admits named.2 := by
  refine step (current_run stream) ?_
  split
  · rename_i path name
    refine bind (advance holds) ?_
    rintro _ rest rfl later
    exact pure later (holds.current (isFinish_of_ne (by simp [name])))
  · exact unexpected holds

theorem refuseDotted {expected path : String} {token : Token} (holds : borders.Holds stream)
    (admitted : borders.Admits token) :
    Stays borders (refuseDotted expected path token) stream fun _ => True := by
  unfold Parser.refuseDotted
  split
  · exact throw admitted.frames
  · exact pure holds trivial

theorem spanFrom {start : Token} (holds : borders.Holds stream)
    (starts : borders.starts start.span.start) :
    Stays borders (spanFrom start) stream borders.Frames :=
  ⟨⟨starts, holds.last⟩, holds⟩

end Stays

/-! ## Paths -/

/-- The parts of a text with their marks in front make up the text. -/
theorem cutAt_flatMap (mark : Char) (text : List Char) {first : List Char}
    {rest : List (List Char)} (parts : Text.cutAt mark text = first :: rest) :
    text = first ++ rest.flatMap (mark :: ·) := by
  induction text generalizing first rest with
  | nil =>
      cases parts
      rfl
  | cons c text ih =>
      unfold Text.cutAt at parts
      split at parts
      · rename_i isMark
        obtain ⟨rfl, rfl⟩ := List.cons.inj parts
        cases later : Text.cutAt mark text with
        | nil => exact absurd later (Text.cutAt_ne_nil _ _)
        | cons second rest => simp [isMark, ← ih later]
      · split at parts
        · rename_i part parts' later
          obtain ⟨rfl, rfl⟩ := List.cons.inj parts
          rw [List.cons_append, ← ih later]
        · rename_i later
          exact absurd later (Text.cutAt_ne_nil _ _)

/-- The width of a path of segments. -/
theorem cutAt_width (mark : Char) (text : List Char) {first : List Char}
    {rest : List (List Char)} (parts : Text.cutAt mark text = first :: rest) :
    first.length + (rest.flatten.length + rest.length) = text.length := by
  have marked (rest : List (List Char)) :
      (rest.flatMap (mark :: ·)).length = rest.flatten.length + rest.length := by
    induction rest with
    | nil => rfl
    | cons part rest ih =>
        simp only [List.flatMap_cons, List.flatten_cons, List.length_append, List.length_cons, ih]
        omega
  rw [cutAt_flatMap mark text parts, List.length_append, marked]

/-- A path that has been read up to some width ends there. -/
theorem foldl_extendPath_enclosed {start : Location} {total : Nat} (starts : borders.starts start)
    (cuts : ∀ width ≤ total, borders.stops (start.shift width)) (rest : List (List Char))
    (built : Expr × Nat) (enclosed : borders.Encloses built.1.spans)
    (width_le : built.2 + (rest.flatten.length + rest.length) ≤ total) :
    borders.Encloses (rest.foldl (extendPath start) built).1.spans := by
  induction rest generalizing built with
  | nil => exact enclosed
  | cons segment rest ih =>
      simp only [List.flatten_cons, List.length_append, List.length_cons] at width_le
      refine ih (extendPath start built segment) ?_ ?_
      · have framed : borders.Frames ⟨start, start.shift (built.2 + 1 + segment.length)⟩ :=
          ⟨starts, cuts _ (by omega)⟩
        simp [extendPath, Expr.spans, framed, enclosed]
      · simp only [extendPath]
        omega

/-- The members of a path stop inside of the name that it was read from. -/
theorem expandPath_enclosed {path : String} {start : Location} (starts : borders.starts start)
    (cuts : ∀ width ≤ path.length, borders.stops (start.shift width)) :
    borders.Encloses (expandPath path start).spans := by
  cases parts : Text.cutAt '.' path.toList with
  | nil => exact absurd parts (Text.cutAt_ne_nil _ _)
  | cons first rest =>
      have width := cutAt_width '.' _ parts
      rw [String.length_toList] at width
      rw [expandPath_of_cutAt start parts]
      refine foldl_extendPath_enclosed starts cuts rest _ ?_ (Nat.le_of_eq width)
      simp [Expr.spans, Frames, starts, cuts first.length (by omega)]

end Parser
end Scriptlet
