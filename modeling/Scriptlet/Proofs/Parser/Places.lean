import Scriptlet.Proofs.Parser.Borders
import Scriptlet.Proofs.Token.Places

/-!
# Places of the nodes of a tree

Every node starts where a token starts and stops where a token stops, or inside of a dotted name.
The grammar is followed once, for any borders: one lemma for each of its loops, and one strong
induction on the allowance for its levels.  Then the borders are those of a text, where every place
is found by counting.
-/

namespace Scriptlet

namespace Parser

open Borders

variable {α : Type} {borders : Borders} {stream : Stream}

/-! ## Loops of the grammar -/

/-- All trees that a parser reads lie within borders; `spans` gives the spans of a tree. -/
def Framed (borders : Borders) (parser : Parse α) (spans : α → List Span) : Prop :=
  ∀ stream, borders.Holds stream → Stays borders parser stream fun tree =>
    borders.Encloses (spans tree)

section Loops

variable {item : Parse Expr} {statement : Parse Stmt}

theorem climb_framed {operand : Nat → Parse Expr}
    (framed : ∀ least, Framed borders (operand least) Expr.spans) (least bound : Nat) {left : Expr}
    (leftEnclosed : borders.Encloses left.spans) (holds : borders.Holds stream) :
    Stays borders (climb operand least bound left) stream fun tree =>
      borders.Encloses tree.spans := by
  induction bound generalizing left stream with
  | zero => exact .pure holds leftEnclosed
  | succ bound ih =>
      refine .step (current_run stream) ?_
      split
      · exact .pure holds leftEnclosed
      · rename_i operator found
        split
        · exact .pure holds leftEnclosed
        · refine .bind (.advance holds) fun _ _ _ holds => ?_
          refine .bind (framed _ _ holds) fun right _ rightEnclosed holds => ?_
          have framed := leftEnclosed.expression.through rightEnclosed.expression
          exact ih (by simp [Expr.spans, framed, leftEnclosed, rightEnclosed]) holds

theorem itemsUpTo_framed (framed : Framed borders item Expr.spans) (closing : Symbol) (bound : Nat)
    {read : List Expr} (readEnclosed : borders.Encloses (expressionSpans read))
    (holds : borders.Holds stream) :
    Stays borders (itemsUpTo closing item bound read) stream fun items =>
      borders.Encloses (expressionSpans items) := by
  induction bound generalizing read stream with
  | zero =>
      refine .bind (.takeSymbol holds) fun _ _ _ holds => .pure holds ?_
      simpa using readEnclosed
  | succ bound ih =>
      refine .step (atSymbol_run closing stream) ?_
      split
      · refine .bind (.advance holds) fun _ _ _ holds => .pure holds ?_
        simpa using readEnclosed
      · refine .bind (framed _ holds) fun next _ nextEnclosed holds => ?_
        have longerEnclosed : borders.Encloses (expressionSpans (next :: read)) := by
          simpa [nextEnclosed] using readEnclosed
        refine .bind (.skipSymbol holds) fun more _ _ holds => ?_
        split
        · exact ih longerEnclosed holds
        · refine .bind (.takeSymbol holds) fun _ _ _ holds => .pure holds ?_
          simpa [or_comm] using longerEnclosed

theorem items_framed (framed : Framed borders item Expr.spans) (closing : Symbol) :
    Framed borders (items closing item) expressionSpans :=
  fun stream holds => .step (get_run stream)
    (itemsUpTo_framed framed closing _ (by simp [expressionSpans]) holds)

theorem applications_framed (framed : Framed borders item Expr.spans) (bound : Nat) {callee : Expr}
    (calleeEnclosed : borders.Encloses callee.spans) (holds : borders.Holds stream) :
    Stays borders (applications item bound callee) stream fun tree =>
      borders.Encloses tree.spans := by
  induction bound generalizing callee stream with
  | zero => exact .pure holds calleeEnclosed
  | succ bound ih =>
      have starts := calleeEnclosed.expression.1
      refine .bind (.skipSymbol holds) fun called rest _ holds => ?_
      split
      · refine .bind (items_framed framed _ rest holds) fun arguments rest enclosed holds => ?_
        refine .step (get_run rest) (ih ?_ holds)
        have framed : borders.Frames ⟨callee.span.start, rest.last⟩ := ⟨starts, holds.last⟩
        simp only [Expr.spans, encloses_cons, encloses_append]
        exact ⟨framed, calleeEnclosed, enclosed⟩
      · refine .bind (.skipSymbol holds) fun indexed rest _ holds => ?_
        split
        · refine .bind (framed rest holds) fun index rest enclosed holds => ?_
          refine .bind (.takeSymbol holds) fun _ rest _ holds => ?_
          refine .step (get_run rest) (ih ?_ holds)
          have framed : borders.Frames ⟨callee.span.start, rest.last⟩ := ⟨starts, holds.last⟩
          simp only [Expr.spans, encloses_cons, encloses_append]
          exact ⟨framed, calleeEnclosed, enclosed⟩
        · exact .pure holds calleeEnclosed

theorem paramsUpTo_stays (bound : Nat) (read : List String) (holds : borders.Holds stream) :
    Stays borders (paramsUpTo bound read) stream fun _ => True := by
  induction bound generalizing read stream with
  | zero => exact .bind (.takeSymbol holds) fun _ _ _ holds => .pure holds trivial
  | succ bound ih =>
      refine .step (atSymbol_run .closeParen stream) ?_
      split
      · exact .bind (.advance holds) fun _ _ _ holds => .pure holds trivial
      · refine .step (current_run stream) ?_
        split
        · split
          · exact .unexpected holds
          · refine .bind (.advance holds) fun _ _ _ holds => ?_
            refine .bind (.skipSymbol holds) fun more _ _ holds => ?_
            split
            · exact ih _ holds
            · exact .bind (.takeSymbol holds) fun _ _ _ holds => .pure holds trivial
        · exact .unexpected holds

theorem params_stays (holds : borders.Holds stream) :
    Stays borders params stream fun _ => True :=
  .bind (.takeSymbol holds) fun _ rest _ holds =>
    .step (get_run rest) (paramsUpTo_stays _ [] holds)

theorem statementsUpTo_framed (framed : Framed borders statement Stmt.spans) (bound : Nat)
    {read : List Stmt} (readEnclosed : borders.Encloses (bodySpans read))
    (holds : borders.Holds stream) :
    Stays borders (statementsUpTo statement bound read) stream fun body =>
      borders.Encloses (bodySpans body) := by
  induction bound generalizing read stream with
  | zero =>
      refine .bind (.takeSymbol holds) fun _ _ _ holds => .pure holds ?_
      simpa using readEnclosed
  | succ bound ih =>
      refine .bind (.skipSymbol holds) fun closed rest _ holds => ?_
      split
      · exact .pure holds (by simpa using readEnclosed)
      · refine .step (current_run rest) ?_
        split
        · rename_i finished
          exact .throw (holds.finish finished)
        · refine .bind (framed _ holds) fun next _ nextEnclosed holds => ?_
          exact ih (by simpa [nextEnclosed] using readEnclosed) holds

theorem statementsToEnd_framed (framed : Framed borders statement Stmt.spans) (bound : Nat)
    {read : List Stmt} (readEnclosed : borders.Encloses (bodySpans read))
    (holds : borders.Holds stream) :
    Stays borders (statementsToEnd statement bound read) stream fun body =>
      borders.Encloses (bodySpans body) := by
  induction bound generalizing read stream with
  | zero => exact .pure holds (by simpa using readEnclosed)
  | succ bound ih =>
      refine .step (current_run stream) ?_
      split
      · exact .pure holds (by simpa using readEnclosed)
      · refine .bind (framed _ holds) fun next _ nextEnclosed holds => ?_
        exact ih (by simpa [nextEnclosed] using readEnclosed) holds

theorem blockOf_framed (framed : Framed borders statement Stmt.spans)
    (holds : borders.Holds stream) :
    Stays borders (blockOf statement) stream fun block =>
      borders.Encloses (bodySpans block.1) ∧ borders.Frames block.2 := by
  refine .bind (.takeSymbol holds) fun start rest admitted holds => ?_
  refine .step (get_run rest) ?_
  refine .bind (statementsUpTo_framed framed _ (by simp [bodySpans]) holds) ?_
  intro statements _ enclosed holds
  refine .bind (.spanFrom holds admitted.frames.1) fun span _ spanFramed holds => ?_
  exact .pure holds ⟨enclosed, spanFramed⟩

theorem constructRest_framed (framed : Framed borders item Expr.spans)
    (holds : borders.Holds stream) :
    Stays borders (constructRest item) stream fun parts =>
      borders.Encloses (expressionSpans parts.2) := by
  refine .bind (.takeName holds) fun named _ _ holds => ?_
  refine .bind (.takeSymbol holds) fun _ _ _ holds => ?_
  refine .bind (items_framed framed _ _ holds) fun arguments _ enclosed holds => ?_
  exact .pure holds enclosed

theorem parenthesized_framed (framed : Framed borders item Expr.spans) :
    Framed borders (parenthesized item) Expr.spans := by
  intro stream holds
  refine .bind (.takeSymbol holds) fun _ _ _ holds => ?_
  refine .bind (framed _ holds) fun inner _ enclosed holds => ?_
  exact .bind (.takeSymbol holds) fun _ _ _ holds => .pure holds enclosed

end Loops

/-! ## Levels of the grammar -/

/-- What all levels of the grammar read within an allowance lies within borders. -/
structure GrammarFramed (borders : Borders) (allowance : Nat) : Prop where
  expression : Framed borders (expression allowance) Expr.spans
  binary : ∀ least, Framed borders (binary allowance least) Expr.spans
  unary : Framed borders (unary allowance) Expr.spans
  primary : Framed borders (primary allowance) Expr.spans
  statement : ∀ inLoop, Framed borders (statement allowance inLoop) Stmt.spans

/-- What ends a node: its span goes from its first token to the last one that was read. -/
theorem spanned_stays {start : Token} {build : Span → α} {spans : α → List Span}
    {parts : List Span} (holds : borders.Holds stream) (begins : borders.starts start.span.start)
    (enclosed : borders.Encloses parts) (built : ∀ span, spans (build span) = span :: parts) :
    Stays borders (spanFrom start >>= fun span => pure (build span)) stream fun tree =>
      borders.Encloses (spans tree) := by
  refine .bind (.spanFrom holds begins) fun span _ framed holds => .pure holds ?_
  rw [built]
  exact encloses_cons.mpr ⟨framed, enclosed⟩

/-- What ends a statement that a semicolon may close. -/
theorem closed_stays {start : Token} {build : Span → Stmt} {parts : List Span}
    (holds : borders.Holds stream) (begins : borders.starts start.span.start)
    (enclosed : borders.Encloses parts) (built : ∀ span, (build span).spans = span :: parts) :
    Stays borders (skipSymbol .semicolon >>= fun _ => spanFrom start >>= fun span =>
      pure (build span)) stream fun tree => borders.Encloses tree.spans :=
  .bind (.skipSymbol holds) fun _ _ _ holds => spanned_stays holds begins enclosed built

theorem refuseDepth_stays {post : α → Prop} : Stays borders refuseDepth stream post :=
  .throw trivial

theorem expression_framed {allowance : Nat}
    (lower : ∀ less < allowance, GrammarFramed borders less) :
    Framed borders (expression allowance) Expr.spans := by
  intro stream holds
  rcases allowance with _ | _ | allowance
  · exact refuseDepth_stays
  · exact refuseDepth_stays
  have deeper := lower allowance (by omega)
  refine .bind (deeper.binary 1 stream holds) fun target _ targetEnclosed holds => ?_
  refine .bind (.skipSymbol holds) fun assigned rest _ holds => ?_
  split
  · refine .bind (deeper.expression rest holds) fun value _ valueEnclosed holds => ?_
    split
    · rename_i place denoted
      have framed := targetEnclosed.expression.through valueEnclosed.expression
      exact .pure holds
        (by simp [Expr.spans, Expr.spans_of_target? denoted, framed, targetEnclosed, valueEnclosed])
    · exact .throw targetEnclosed.expression
  · exact .pure holds targetEnclosed

theorem binary_framed {allowance : Nat} (lower : ∀ less < allowance, GrammarFramed borders less)
    (least : Nat) : Framed borders (binary allowance least) Expr.spans := by
  intro stream holds
  rcases allowance with _ | allowance
  · exact refuseDepth_stays
  have deeper := lower allowance (by omega)
  refine .bind (deeper.unary stream holds) fun left rest leftEnclosed holds => ?_
  exact .step (get_run rest) (climb_framed deeper.binary least _ leftEnclosed holds)

theorem unary_framed {allowance : Nat} (lower : ∀ less < allowance, GrammarFramed borders less) :
    Framed borders (unary allowance) Expr.spans := by
  intro stream holds
  rcases allowance with _ | allowance
  · exact refuseDepth_stays
  have deeper := lower allowance (by omega)
  refine .step (current_run stream) ?_
  split
  · rename_i operator found
    have start := holds.current (isFinish_of_prefixOf? found)
    refine .step (advance_run stream) ?_
    refine .bind (deeper.unary _ holds.advance) fun operand _ operandEnclosed holds => ?_
    have framed := start.frames.through operandEnclosed.expression
    exact .pure holds (by simp [Expr.spans, framed, operandEnclosed])
  · refine .bind (deeper.primary stream holds) fun callee rest calleeEnclosed holds => ?_
    exact .step (get_run rest) (applications_framed deeper.expression _ calleeEnclosed holds)

theorem primary_framed {allowance : Nat} (lower : ∀ less < allowance, GrammarFramed borders less) :
    Framed borders (primary allowance) Expr.spans := by
  intro stream holds
  rcases allowance with _ | _ | allowance
  · exact refuseDepth_stays
  · exact refuseDepth_stays
  have deeper := lower allowance (by omega)
  refine .step (current_run stream) ?_
  dsimp only
  -- a token that opens an operand does not end the input
  have admitted {lexical : Lexical} (found : stream.current.lexical = lexical)
      (other : lexical ≠ .finish) : borders.Admits stream.current :=
    holds.current (isFinish_of_ne (found ▸ other))
  split
  all_goals first | exact .unexpected holds | rename_i found
  all_goals have start := admitted found (by simp)
  · exact .bind (.advance holds) fun _ _ _ holds => .pure holds (by simp [Expr.spans, start.frames])
  · exact .bind (.advance holds) fun _ _ _ holds => .pure holds (by simp [Expr.spans, start.frames])
  · exact .bind (.advance holds) fun _ _ _ holds => .pure holds (by simp [Expr.spans, start.frames])
  · exact .bind (.advance holds) fun _ _ _ holds => .pure holds (by simp [Expr.spans, start.frames])
  · exact .bind (.advance holds) fun _ _ _ holds =>
      .pure holds (expandPath_enclosed start.frames.1 (start.cuts _ found))
  · exact parenthesized_framed deeper.expression stream holds
  · -- an array
    refine .bind (.advance holds) fun _ rest _ holds => ?_
    refine .bind (items_framed deeper.expression _ rest holds) ?_
    intro elements _ enclosed holds
    exact spanned_stays holds start.frames.1 enclosed fun _ => rfl
  · -- a function
    refine .bind (.advance holds) fun _ rest _ holds => ?_
    refine .bind (params_stays holds) fun params _ _ holds => ?_
    refine .bind (blockOf_framed (deeper.statement false) holds) fun block _ enclosed holds => ?_
    exact spanned_stays holds start.frames.1 enclosed.1 fun _ => rfl
  · -- a module
    refine .bind (.advance holds) fun _ rest _ holds => ?_
    refine .bind (parenthesized_framed deeper.expression rest holds) ?_
    intro path _ enclosed holds
    exact spanned_stays holds start.frames.1 enclosed fun _ => rfl
  · -- a construction
    refine .bind (.advance holds) fun _ rest _ holds => ?_
    refine .bind (constructRest_framed deeper.expression holds) fun parts _ enclosed holds => ?_
    exact spanned_stays holds start.frames.1 enclosed fun _ => rfl

theorem statement_framed {allowance : Nat} (lower : ∀ less < allowance, GrammarFramed borders less)
    (inLoop : Bool) : Framed borders (statement allowance inLoop) Stmt.spans := by
  intro stream holds
  rcases allowance with _ | _ | allowance
  · exact refuseDepth_stays
  · exact refuseDepth_stays
  have deeper := lower allowance (by omega)
  refine .step (current_run stream) ?_
  dsimp only
  have admitted {lexical : Lexical} (found : stream.current.lexical = lexical)
      (other : lexical ≠ .finish) : borders.Admits stream.current :=
    holds.current (isFinish_of_ne (found ▸ other))
  split
  case h_11 =>
    -- an expression
    refine .bind (deeper.expression stream holds) fun value _ enclosed holds => ?_
    refine .bind (.skipSymbol holds) fun _ _ _ holds => .pure holds ?_
    exact encloses_cons.mpr ⟨enclosed.expression, enclosed⟩
  all_goals
    rename_i found
    have start := admitted found (by simp)
  · -- a declaration
    refine .bind (.advance holds) fun _ _ _ holds => ?_
    refine .bind (.takeName holds) fun taken _ named holds => ?_
    refine .bind (.refuseDotted holds named) fun _ _ _ holds => ?_
    refine .bind (.skipSymbol holds) fun assigned rest _ holds => ?_
    split
    · refine .bindMap (deeper.expression rest holds) fun initial _ enclosed holds => ?_
      exact closed_stays holds start.frames.1 enclosed fun _ => rfl
    · exact .step rfl (closed_stays holds start.frames.1 encloses_nil fun _ => rfl)
  · -- a conditional
    refine .bind (.advance holds) fun _ _ _ holds => ?_
    refine .bind (parenthesized_framed deeper.expression _ holds) ?_
    intro condition rest conditionEnclosed holds
    refine .bind (deeper.statement inLoop rest holds) ?_
    intro consequent rest consequentEnclosed holds
    refine .step (current_run rest) ?_
    split
    · refine .bind (.advance holds) fun _ later _ holds => ?_
      refine .bindMap (deeper.statement inLoop later holds) ?_
      intro alternate rest alternateEnclosed holds
      have branches := encloses_append.mpr ⟨consequentEnclosed, alternateEnclosed⟩
      have enclosed := encloses_append.mpr ⟨conditionEnclosed, branches⟩
      exact spanned_stays holds start.frames.1 enclosed fun _ => rfl
    · have enclosed := encloses_append.mpr ⟨conditionEnclosed, consequentEnclosed⟩
      exact .step rfl (spanned_stays holds start.frames.1 enclosed fun _ => rfl)
  · -- a loop
    refine .bind (.advance holds) fun _ _ _ holds => ?_
    refine .bind (parenthesized_framed deeper.expression _ holds) ?_
    intro condition rest conditionEnclosed holds
    refine .bind (deeper.statement true rest holds) fun body rest bodyEnclosed holds => ?_
    have enclosed := encloses_append.mpr ⟨conditionEnclosed, bodyEnclosed⟩
    exact spanned_stays holds start.frames.1 enclosed fun _ => rfl
  · -- a function
    have rest_stays (name : Option String) {rest : Stream} (holds : borders.Holds rest) :
        Stays borders (params >>= fun params => blockOf (statement allowance false) >>=
          fun block => spanFrom stream.current >>= fun span =>
            pure (Stmt.function span name params block.1)) rest
          fun tree => borders.Encloses tree.spans := by
      refine .bind (params_stays holds) fun params _ _ holds => ?_
      refine .bind (blockOf_framed (deeper.statement false) holds) fun block _ enclosed holds => ?_
      exact spanned_stays holds start.frames.1 enclosed.1 fun _ => rfl
    refine .bind (.advance holds) fun _ rest _ holds => ?_
    refine .step (current_run rest) ?_
    split
    · rename_i path named
      have name := holds.current (isFinish_of_ne (by simp [named]))
      refine .step (advance_run rest) ?_
      refine .bind (.refuseDotted holds.advance name) fun _ _ _ holds => ?_
      exact .step rfl (rest_stays (some path) holds)
    · exact .step rfl (rest_stays none holds)
  · -- a result
    refine .bind (.advance holds) fun _ rest _ holds => ?_
    refine .step (current_run rest) ?_
    split
    · exact .step rfl (closed_stays holds start.frames.1 encloses_nil fun _ => rfl)
    · refine .bindMap (deeper.expression rest holds) fun value _ enclosed holds => ?_
      exact closed_stays holds start.frames.1 enclosed fun _ => rfl
  iterate 2
    -- leaving a loop or going on with it
    refine .bind (.advance holds) fun _ _ _ holds => ?_
    split
    · refine .bind (.skipSymbol holds) fun _ _ _ holds => .pure holds ?_
      simp [Stmt.spans, start.frames]
    · exact .throw start.frames
  · -- a construction
    refine .bind (.advance holds) fun _ _ _ holds => ?_
    refine .bind (constructRest_framed deeper.expression holds) fun parts _ enclosed holds => ?_
    exact closed_stays holds start.frames.1 enclosed fun _ => rfl
  · -- a module
    refine .bind (.advance holds) fun _ _ _ holds => ?_
    refine .bind (parenthesized_framed deeper.expression _ holds) fun path _ enclosed holds => ?_
    exact closed_stays holds start.frames.1 enclosed fun _ => rfl
  · -- a block
    refine .bind (blockOf_framed (deeper.statement inLoop) holds) fun block _ enclosed holds => ?_
    exact .pure holds (encloses_cons.mpr ⟨enclosed.2, enclosed.1⟩)

theorem grammarFramed (borders : Borders) (allowance : Nat) : GrammarFramed borders allowance := by
  induction allowance using Nat.strongRecOn with
  | ind allowance lower =>
      exact
        { expression := expression_framed lower
          binary := binary_framed lower
          unary := unary_framed lower
          primary := primary_framed lower
          statement := statement_framed lower }

/-- The statements of a program lie within borders; the program itself may be nothing but the end of
the input. -/
theorem program_framed (allowance : Nat) (file : Option String) (holds : borders.Holds stream) :
    Stays borders (program allowance file) stream fun program =>
      program.file = file ∧ borders.Encloses (bodySpans program.body) ∧
        borders.stops program.span.start ∧ borders.stops program.span.stop := by
  have current : borders.stops stream.current.span.start ∧
      borders.stops stream.current.span.stop := by
    cases finished : stream.current.isFinish with
    | true => exact holds.finish finished
    | false =>
        have frames := (holds.current finished).frames
        exact ⟨borders.stops_of_starts _ frames.1, frames.2⟩
  refine .step (current_run stream) (.step (get_run stream) ?_)
  have framed := (grammarFramed borders allowance).statement false
  refine .bind (statementsToEnd_framed framed _ (by simp [bodySpans]) holds) ?_
  intro body rest enclosed holds
  dsimp only
  split
  · exact .step rfl (.pure holds ⟨rfl, enclosed, current⟩)
  · exact .step (spanFrom_run _ rest) (.pure holds ⟨rfl, enclosed, current.1, holds.last⟩)

/-- What a parser says of its program or of its error. -/
theorem parse_framed (allowance : Nat) (file source : Option String)
    (holds : borders.Holds stream) :
    match parse allowance stream file source with
    | .ok program =>
        program.file = file ∧ borders.Encloses (bodySpans program.body) ∧
          borders.stops program.span.start ∧ borders.stops program.span.stop
    | .error (.script error) =>
        ∃ span, error.span = some span ∧ borders.Excuses (.refused error.cause span) ∧
          error.sourceLine = quotedLine source error.cause span
    | .error _ => True := by
  have stays := program_framed allowance file holds
  unfold Stays at stays
  unfold parse
  split at stays
  · rename_i program rest run
    rw [StateT.run, run]
    exact stays.1
  · rename_i failure run
    rw [StateT.run, run]
    cases failure with
    | tooDeep => trivial
    | refused cause span => exact ⟨span, rfl, stays, rfl⟩

/-- Tokens that lie within borders make a stream within borders. -/
theorem holds_ofTokens? {tokens : List Token} {stream : Stream}
    (streamed : Stream.ofTokens? tokens = some stream)
    (admitted : ∀ token ∈ tokens, token.isFinish = false → borders.Admits token)
    (single : ∀ token ∈ tokens.dropLast, token.isFinish = false)
    (finish : ∀ token ∈ tokens, borders.stops token.span.start ∧ borders.stops token.span.stop) :
    borders.Holds stream := by
  unfold Stream.ofTokens? at streamed
  split at streamed
  · rename_i last last_eq
    split at streamed
    · rename_i isFinish
      obtain rfl := Option.some.inj streamed
      have last_mem := List.mem_of_getLast? last_eq
      refine ⟨?_, isFinish, (finish _ last_mem).1, (finish _ last_mem).2, ?_⟩
      · intro token found
        exact admitted token (List.dropLast_subset _ found) (single token found)
      · cases tokens with
        | nil => cases last_eq
        | cons first rest => exact (finish first (List.mem_cons_self ..)).2
    · cases streamed
  · cases streamed

/-! ## Programs of a text -/

/-- The borders that a text gives: something starts at a character that is no line feed, and stops
anywhere in the text. -/
def Borders.ofText (source : List Char) (file : Option String) : Borders where
  starts := Location.OpensIn source file
  stops := Location.ReachedIn source file
  stops_of_starts := fun _ => Location.OpensIn.reachedIn

theorem admits_of_standsIn {source : List Char} {file : Option String} {token : Token}
    (stands : token.StandsIn source file) (unfinished : token.isFinish = false) :
    (Borders.ofText source file).Admits token where
  unfinished := unfinished
  frames := ⟨stands.start_opens unfinished, stands.stop_reached⟩
  cuts := fun _ name _ width_le => stands.shift_reached name width_le

/-- The tokens of a text make a stream within its borders. -/
theorem exists_stream_of_lex {source : String} {file : Option String} {tokens : List Token}
    (success : Lexer.lex source file = .ok tokens) :
    ∃ stream, Stream.ofTokens? tokens = some stream ∧
      (Borders.ofText source.toList file).Holds stream := by
  obtain ⟨-, front, place, tokens_eq, -, single⟩ := Lexer.covers_of_lex success
  have stand := Lexer.lex_standsIn source file
  rw [success] at stand
  have streamed : ∃ stream, Stream.ofTokens? tokens = some stream := by
    simp [Stream.ofTokens?, tokens_eq, Token.isFinish]
  obtain ⟨stream, streamed⟩ := streamed
  refine ⟨stream, streamed, holds_ofTokens? streamed ?_ ?_ ?_⟩
  · exact fun token found unfinished => admits_of_standsIn (stand token found) unfinished
  · simpa [tokens_eq] using single
  · exact fun token found => ⟨(stand token found).start_reached, (stand token found).stop_reached⟩

end Parser

/-- What reading a text says of the program or of the error: the nodes of the program stand in the
text, and so does the error, be it one of the lexer or one of the parser. -/
theorem Program.ofSource_framed (room : Nat) (source : String) (file : Option String) :
    let borders := Parser.Borders.ofText source.toList file
    match Program.ofSource room source file with
    | .ok program =>
        program.file = file ∧ borders.Encloses (bodySpans program.body) ∧
          borders.stops program.span.start ∧ borders.stops program.span.stop
    | .error (.script error) =>
        Lexer.FaultIn source file error ∨
          ∃ span, error.span = some span ∧ borders.Excuses (.refused error.cause span) ∧
            error.sourceLine = Parser.quotedLine (some source) error.cause span
    | .error fault => fault = .exhausted := by
  dsimp only
  cases outcome : Lexer.lex source file with
  | error error =>
      have fault := Lexer.lex_standsIn source file
      rw [outcome] at fault
      simp only [Program.ofSource, outcome]
      exact Or.inl fault
  | ok tokens =>
      obtain ⟨stream, streamed, holds⟩ := Parser.exists_stream_of_lex outcome
      have framed := Parser.parse_framed room file (some source) holds
      simp only [Program.ofSource, outcome, streamed]
      cases parsed : Parser.parse room stream file (some source) with
      | ok program => simpa [parsed] using framed
      | error fault =>
          rw [parsed] at framed
          cases fault with
          | script error => exact Or.inr framed
          | exhausted => rfl
          | _ =>
              unfold Parser.parse at parsed
              split at parsed <;> cases parsed

/-- Both ends of a span agree with their offsets. -/
def Span.CountedIn (source : List Char) (span : Span) : Prop :=
  span.start.CountedIn source ∧ span.stop.CountedIn source

theorem Span.CountedIn.of_reachedIn {source : List Char} {file : Option String} {span : Span}
    (start : span.start.ReachedIn source file) (stop : span.stop.ReachedIn source file) :
    span.CountedIn source :=
  ⟨start.countedIn, stop.countedIn⟩

/-- The line and the column of every place are functions of its offset: those of every token of a
text, of every node of the tree that is read from it, and of the error if it cannot be read. -/
theorem spans_countedIn (room : Nat) (source : String) (file : Option String) :
    (∀ token ∈ (Lexer.read source file).tokens, token.span.CountedIn source.toList) ∧
      (∀ error ∈ (Lexer.read source file).error,
        ∃ span ∈ error.span, span.CountedIn source.toList) ∧
      match Program.ofSource room source file with
      | .ok program => ∀ span ∈ program.spans, span.CountedIn source.toList
      | .error (.script error) => ∃ span ∈ error.span, span.CountedIn source.toList
      | .error fault => fault = .exhausted := by
  have reading := Lexer.read_standsIn source file
  have counted {error : ScriptError} (fault : Lexer.FaultIn source file error) :
      ∃ span ∈ error.span, span.CountedIn source.toList := by
    obtain ⟨span, span_eq, start, stop⟩ := fault.reached
    exact ⟨span, span_eq, .of_reachedIn start stop⟩
  refine ⟨?_, fun error found => counted (reading.error error found), ?_⟩
  · intro token found
    have stands := reading.tokens token found
    exact .of_reachedIn stands.start_reached stands.stop_reached
  · have framed := Program.ofSource_framed room source file
    cases outcome : Program.ofSource room source file with
    | ok program =>
        obtain ⟨-, body, start, stop⟩ := outcome ▸ framed
        intro span found
        rcases List.mem_cons.mp found with rfl | inside
        · exact .of_reachedIn start stop
        · have frames := body span inside
          exact .of_reachedIn frames.1.reachedIn frames.2
    | error fault =>
        rw [outcome] at framed
        cases fault with
        | script error =>
            rcases framed with fault | ⟨span, span_eq, excused, -⟩
            · exact counted fault
            · have ends := Parser.Borders.Excuses.stops excused
              exact ⟨span, span_eq, .of_reachedIn ends.1 ends.2⟩
        | _ => exact framed

end Scriptlet
