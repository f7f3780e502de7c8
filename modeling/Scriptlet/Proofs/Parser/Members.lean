import Scriptlet.Proofs.Parser.Standing
import Scriptlet.Proofs.Parser.Spelling

/-!
# Members on dotted names

A dotted name is cut at its dots into segments that each start a name, because the lexer takes a dot
only in front of a name start.  The expression that stands for the name is the chain of members over
the segments, and every node of the chain spans the part of the name up to its own segment.
-/

namespace Scriptlet

namespace Text

/-- Cutting at a character is splitting at it. -/
theorem cutAt_eq_splitOn (mark : Char) (text : List Char) :
    cutAt mark text = text.splitOn mark := by
  induction text with
  | nil => rfl
  | cons c text ih =>
      rw [List.splitOn, List.splitOnP_cons_eq_if_modifyHead]
      change _ = if (c == mark) = true then _ :: text.splitOn mark
        else (text.splitOn mark).modifyHead _
      rw [← ih, cutAt]
      by_cases isMark : c = mark
      · simp [isMark]
      · cases parts : cutAt mark text with
        | nil => exact absurd parts (cutAt_ne_nil _ _)
        | cons part parts => simp [isMark]

/-- The first of several parts, and each other part with the separator in front. -/
theorem intercalate_cons (mark : Char) (first : List Char) (rest : List (List Char)) :
    [mark].intercalate (first :: rest) = first ++ rest.flatMap (mark :: ·) := by
  induction rest generalizing first with
  | nil => simp
  | cons second rest ih => simp [ih]

theorem intercalate_prefix (mark : Char) (first : List Char) (front back : List (List Char)) :
    [mark].intercalate (first :: front) <+: [mark].intercalate (first :: (front ++ back)) := by
  rw [intercalate_cons, intercalate_cons, List.flatMap_append, ← List.append_assoc]
  exact List.prefix_append _ _

/-- A part of a slice that starts with it is a slice as well. -/
theorem slice_take {text : List Char} {start width : Nat} {part : List Char}
    (whole : slice text start (start + part.length) = part) (width_le : width ≤ part.length) :
    slice text start (start + width) = part.take width := by
  rw [slice, List.drop_take, Nat.add_sub_cancel_left] at whole ⊢
  rw [← Nat.min_eq_left width_le, ← List.take_take, whole, Nat.min_eq_left width_le]

/-- A text that a name can start with. -/
def StartsName (text : List Char) : Prop :=
  ∃ c rest, text = c :: rest ∧ isNameStart c = true

end Text

namespace Lexer

open Text

/-- Every segment of a run of name characters but the first starts a name, and so does the first if
the text does. -/
theorem cutAt_nameRun (text : List Char) {first : List Char} {rest : List (List Char)}
    (parts : cutAt '.' (nameRun text).1 = first :: rest) :
    (StartsName text → StartsName first) ∧ ∀ segment ∈ rest, StartsName segment := by
  have noDot : isNamePart '.' = false := by decide
  have noPart {c : Char} {more : List Char} (stops : ¬ isNamePart c = true) :
      ¬ StartsName (c :: more) := by
    rintro ⟨_, _, same, starts⟩
    obtain ⟨rfl, -⟩ := List.cons.inj same
    exact stops (isNamePart_of_isNameStart starts)
  fun_induction nameRun text generalizing first rest with
  | case1 =>
      obtain ⟨rfl, rfl⟩ := List.cons.inj parts
      exact ⟨id, List.forall_mem_nil _⟩
  | case2 c part =>
      have other : c ≠ '.' := by
        rintro rfl
        rw [noDot] at part
        cases part
      rw [cutAt_of_not_mem (by simpa using Ne.symm other)] at parts
      obtain ⟨rfl, rfl⟩ := List.cons.inj parts
      exact ⟨id, List.forall_mem_nil _⟩
  | case3 c stops =>
      obtain ⟨rfl, rfl⟩ := List.cons.inj parts
      exact ⟨fun starts => absurd starts (noPart stops), List.forall_mem_nil _⟩
  | case4 c next more continues run after run_eq ih =>
      rw [run_eq] at ih
      cases inner : cutAt '.' run with
      | nil => exact absurd inner (cutAt_ne_nil _ _)
      | cons second others =>
          obtain ⟨second_starts, others_start⟩ := ih inner
          by_cases dot : c = '.'
          · subst dot
            have next_starts : isNameStart next = true := by simpa [noDot] using continues
            rw [cutAt, if_pos rfl, inner] at parts
            obtain ⟨rfl, rfl⟩ := List.cons.inj parts
            refine ⟨fun starts => absurd starts (noPart (by simp [noDot])), ?_⟩
            exact List.forall_mem_cons.mpr
              ⟨second_starts ⟨next, more, rfl, next_starts⟩, others_start⟩
          · rw [cutAt, if_neg dot, inner] at parts
            obtain ⟨rfl, rfl⟩ := List.cons.inj parts
            refine ⟨?_, others_start⟩
            rintro ⟨_, _, same, starts⟩
            obtain ⟨rfl, -⟩ := List.cons.inj same
            exact ⟨c, second, rfl, starts⟩
  | case5 c next more stops =>
      obtain ⟨rfl, rfl⟩ := List.cons.inj parts
      have notPart : ¬ isNamePart c = true := by
        simp only [Bool.or_eq_true, not_or] at stops
        exact stops.1
      exact ⟨fun starts => absurd starts (noPart notPart), List.forall_mem_nil _⟩

/-- The segments of every name among the tokens of a text start names. -/
theorem segments_of_lex {source : String} {file : Option String} {tokens : List Token}
    (success : lex source file = .ok tokens) {token : Token} (found : token ∈ tokens)
    {path : String} (name : token.lexical = .name path) :
    ∀ segment ∈ cutAt '.' path.toList, StartsName segment := by
  let holds (_ : List Char) (lexical : Lexical) : Prop :=
    ∀ path, lexical = .name path → ∀ segment ∈ cutAt '.' path.toList, StartsName segment
  have atEnd : holds [] .finish := fun path finish => by cases finish
  have taken : ∀ c rest piece, takePiece c rest = .ok piece → holds piece.lexeme piece.lexical := by
    intro c rest piece run path name
    obtain ⟨starts, lexeme_eq, path_eq⟩ := takePiece_nameRun run name
    rw [path_eq, String.toList_ofList, lexeme_eq]
    cases parts : cutAt '.' (nameRun (c :: rest)).1 with
    | nil => exact absurd parts (cutAt_ne_nil _ _)
    | cons first others =>
        obtain ⟨first_starts, others_start⟩ := cutAt_nameRun (c :: rest) parts
        exact List.forall_mem_cons.mpr ⟨first_starts ⟨c, rest, rfl, starts⟩, others_start⟩
  exact tokens_of_lex atEnd taken success token found path name

end Lexer

/-! ## Chains -/

/-- A span reads as the first segments of a name: it starts with the name, and what stands in the
text between its ends are the segments with dots between them. -/
structure Span.Spells (source : List Char) (token : Token) (segments : List (List Char))
    (span : Span) : Prop where
  starts : span.start = token.span.start
  reads : Text.slice source span.start.offset span.stop.offset = ['.'].intercalate segments
  front : ['.'].intercalate segments <+: token.lexeme.toList

/-- An expression is the chain of members over the segments of a name, from the inside to the
outside, and every node of the chain spans the name up to its own segment. -/
inductive Expr.ChainOver (source : List Char) (token : Token) : List (List Char) → Expr → Prop
  | name {span : Span} {first : List Char} (spells : span.Spells source token [first]) :
      ChainOver source token [first] (.name span (String.ofList first))
  | member {span : Span} {object : Expr} {segments : List (List Char)} {segment : List Char}
      (inner : ChainOver source token segments object)
      (spells : span.Spells source token (segments ++ [segment])) :
      ChainOver source token (segments ++ [segment])
        (.member span object (String.ofList segment))

namespace Parser

open Text

variable {source : List Char} {token : Token}

/-- The span that is as wide as the first segments of a name spells them. -/
theorem spells_of_width
    (lexeme : slice source token.span.start.offset
      (token.span.start.offset + token.lexeme.toList.length) = token.lexeme.toList)
    {segments : List (List Char)} (front : ['.'].intercalate segments <+: token.lexeme.toList)
    {width : Nat} (width_eq : width = (['.'].intercalate segments).length) :
    Span.Spells source token segments ⟨token.span.start, token.span.start.shift width⟩ where
  starts := rfl
  reads := by
    change slice source token.span.start.offset (token.span.start.offset + width) = _
    rw [slice_take lexeme (width_eq ▸ front.length_le), width_eq]
    exact (List.prefix_iff_eq_take.mp front).symm
  front := front

/-- A chain over the first segments of a name is extended by the segments after them. -/
theorem foldl_extendPath_chainOver
    (lexeme : slice source token.span.start.offset
      (token.span.start.offset + token.lexeme.toList.length) = token.lexeme.toList)
    (first : List Char) (rest : List (List Char)) (done : List (List Char)) (built : Expr × Nat)
    (chain : built.1.ChainOver source token (first :: done))
    (span_eq : built.1.span = ⟨token.span.start, token.span.start.shift built.2⟩)
    (width_eq : built.2 = (['.'].intercalate (first :: done)).length)
    (whole : token.lexeme.toList = ['.'].intercalate (first :: (done ++ rest))) :
    (rest.foldl (extendPath token.span.start) built).1.ChainOver source token
        (first :: (done ++ rest)) ∧
      (rest.foldl (extendPath token.span.start) built).1.span =
        ⟨token.span.start, token.span.start.shift token.lexeme.toList.length⟩ := by
  induction rest generalizing done built with
  | nil =>
      rw [List.append_nil] at whole ⊢
      exact ⟨chain, by rw [List.foldl_nil, span_eq, width_eq, whole]⟩
  | cons segment rest ih =>
      have split : done ++ segment :: rest = (done ++ [segment]) ++ rest := by simp
      have front : ['.'].intercalate (first :: (done ++ [segment])) <+: token.lexeme.toList := by
        rw [whole, split]
        exact intercalate_prefix '.' first (done ++ [segment]) rest
      have longer : (extendPath token.span.start built segment).2 =
          (['.'].intercalate (first :: (done ++ [segment]))).length := by
        rw [intercalate_cons] at width_eq ⊢
        simp only [extendPath, width_eq, List.flatMap_append, List.flatMap_cons, List.flatMap_nil,
          List.append_nil, List.length_append, List.length_cons]
        omega
      rw [split] at whole ⊢
      refine ih (done ++ [segment]) _ ?_ rfl longer whole
      exact .member chain (spells_of_width lexeme front longer)

/-- Dotted names expand exactly.  The segments of a name, split at its dots, start names; the
expression that stands for it is the chain of members over the segments, every node of which spans
the part of the name up to its segment; and the whole chain spans the name. -/
theorem expandPath_chainOver {text : String} {file : Option String} {tokens : List Token}
    (success : Lexer.lex text file = .ok tokens) {token : Token} (found : token ∈ tokens)
    {path : String} (name : token.lexical = .name path) :
    (∀ segment ∈ path.toList.splitOn '.', StartsName segment) ∧
      (expandPath path token.span.start).ChainOver text.toList token (path.toList.splitOn '.') ∧
      (expandPath path token.span.start).span = token.span := by
  have stands := Lexer.lex_standsIn text file
  rw [success] at stands
  obtain ⟨path_eq, -⟩ := (stands token found).flat path name
  obtain ⟨stop_eq, -⟩ := (Lexer.inOrder_of_lex success).names token found path name
  have span_eq : token.span =
      ⟨token.span.start, token.span.start.shift token.lexeme.toList.length⟩ := by
    rw [String.length_toList, ← path_eq, ← stop_eq]
  have lexeme := (Lexer.covers_of_lex success).1.lexemes token found
  rw [congrArg (fun span : Span => span.stop.offset) span_eq] at lexeme
  rw [← cutAt_eq_splitOn]
  refine ⟨Lexer.segments_of_lex success found name, ?_⟩
  cases parts : cutAt '.' path.toList with
  | nil => exact absurd parts (cutAt_ne_nil _ _)
  | cons first rest =>
      have whole : token.lexeme.toList = ['.'].intercalate (first :: rest) := by
        rw [intercalate_cons, ← cutAt_flatMap '.' _ parts, path_eq]
      have front : ['.'].intercalate [first] <+: token.lexeme.toList := by
        rw [whole]
        exact intercalate_prefix '.' first [] rest
      have root : Span.Spells text.toList token [first] _ :=
        spells_of_width lexeme.symm front (by rw [List.intercalate_singleton])
      rw [expandPath_of_cutAt _ parts]
      obtain ⟨chain, whole_span⟩ := foldl_extendPath_chainOver lexeme.symm first rest []
        (.name ⟨token.span.start, token.span.start.shift first.length⟩ (String.ofList first),
          first.length) (.name root) rfl (by rw [List.intercalate_singleton]) whole
      exact ⟨chain, whole_span.trans span_eq.symm⟩

/-- A name with a segment that is a letter beyond ASCII and one that starts with an underscore. -/
theorem expandPath_chainOver_letters :
    ∃ tokens token, Lexer.lex "x = a1.é._b.c2 + 1" none = .ok tokens ∧ token ∈ tokens ∧
      token.lexical = .name "a1.é._b.c2" ∧
      (∀ segment ∈ "a1.é._b.c2".toList.splitOn '.', StartsName segment) ∧
      (expandPath "a1.é._b.c2" token.span.start).ChainOver "x = a1.é._b.c2 + 1".toList token
        ("a1.é._b.c2".toList.splitOn '.') ∧
      (expandPath "a1.é._b.c2" token.span.start).span = token.span := by
  obtain ⟨tokens, lexed⟩ : ∃ tokens, Lexer.lex "x = a1.é._b.c2 + 1" none = .ok tokens := ⟨_, rfl⟩
  obtain ⟨token, found, name⟩ : ∃ token ∈ tokens, token.lexical = .name "a1.é._b.c2" := by
    obtain rfl := Except.ok.inj lexed
    exact ⟨_, List.mem_cons_of_mem _ (List.mem_cons_of_mem _ List.mem_cons_self), rfl⟩
  exact ⟨tokens, token, lexed, found, name, expandPath_chainOver lexed found name⟩

end Parser
end Scriptlet
