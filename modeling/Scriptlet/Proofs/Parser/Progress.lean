import Scriptlet.Proofs.Parser.Standing

/-!
# Progress of the parser

Every level of the grammar takes at least one token and leaves the end of the input alone, and it
gives up as too deep only if its allowance is short of eight for each token that is left.  The
grammar is followed once for this and for the places of the trees: one lemma for each of its loops,
and one strong induction on the allowance for its levels.
-/

namespace Scriptlet
namespace Parser

variable {α : Type} {tokens : List Token} {short : Prop} {position here : Fin tokens.length}

/-! ## Loops of the grammar -/

/-- From some position on, a parser of trees moves on. -/
def MovesFrom (tokens : List Token) (least : Nat) (short : Prop) (parser : Parse α)
    (tree : α → SpanTree) : Prop :=
  ∀ position : Fin tokens.length, least ≤ position →
    Settles tokens short parser position fun value later => Moves tokens position later [tree value]

theorem MovesFrom.later {parser : Parse α} {tree : α → SpanTree} {least more : Nat}
    (moving : MovesFrom tokens least short parser tree) (le : least ≤ more) :
    MovesFrom tokens more short parser tree :=
  fun position within => moving position (Nat.le_trans le within)

section Loops

variable {item : Parse Expr} {statement : Parse Stmt}

theorem climb_moves (ended : EndsOnce tokens) {operand : Nat → Parse Expr}
    (moving : ∀ least, MovesFrom tokens (position + 1) short (operand least) Expr.spanTree)
    (least bound : Nat) {left : Expr} (read : Moves tokens position here [left.spanTree]) :
    Settles tokens short (climb operand least bound left) here fun tree later =>
      Moves tokens position later [tree.spanTree] := by
  induction bound generalizing left here with
  | zero => exact .pure read
  | succ bound ih =>
      have less := read.1
      refine .current ?_
      split
      · exact .pure read
      · rename_i operator found
        split
        · exact .pure read
        · refine .bind (.advance ended (isFinish_of_operatorOf? found)) fun _ next moved => ?_
          refine .bind (moving _ next (by omega)) fun right later rightMoves => ih ?_
          have parts := read.append rightMoves (by omega)
          refine parts.node (Or.inr ⟨_, _, rfl, ?_⟩) (Or.inr ⟨[left.spanTree], _, rfl, ?_⟩)
          · simp [Span.through]
          · simp [Span.through]

theorem itemsUpTo_moves (ended : EndsOnce tokens)
    (moving : MovesFrom tokens position short item Expr.spanTree) (closing : Symbol)
    (bound : Nat) {read : List Expr}
    (gathered : Gathers tokens position here (expressionTrees read.reverse)) :
    Settles tokens short (itemsUpTo closing item bound read) here fun items later =>
      here < later ∧ Moves tokens position later (expressionTrees items) := by
  induction bound generalizing read here with
  | zero =>
      refine .bind (.takeSymbol ended) fun _ later taken => ?_
      exact .pure ⟨by omega, gathered.close (by omega)⟩
  | succ bound ih =>
      refine .atSymbol ?_
      split
      · rename_i found
        refine .bind (.advance ended (isFinish_of_isSymbol found)) fun _ later taken => ?_
        exact .pure ⟨by omega, gathered.close (by omega)⟩
      · refine .bind (moving here gathered.le) fun next after nextMoves => ?_
        have longer : Moves tokens position after (expressionTrees (next :: read).reverse) := by
          simpa [expressionTrees_eq_map] using gathered.append nextMoves
        have more := nextMoves.1
        refine .skipOr ended (fun rest taken => ?_) ?_
        · refine (ih (Or.inr (longer.widen (Nat.le_refl _) (by omega)))).mono id ?_
          exact fun _ later moved => ⟨by omega, moved.2⟩
        · refine .bind (.takeSymbol ended) fun _ later taken => .pure ⟨by omega, ?_⟩
          exact longer.widen (Nat.le_refl _) (by omega)

theorem items_moves (ended : EndsOnce tokens)
    (moving : MovesFrom tokens here short item Expr.spanTree) (closing : Symbol) :
    Settles tokens short (items closing item) here fun items later =>
      Moves tokens here later (expressionTrees items) :=
  .get ((itemsUpTo_moves ended moving closing _ .nil).mono id fun _ _ moved => moved.2)

theorem applications_moves (ended : EndsOnce tokens)
    (moving : MovesFrom tokens (position + 1) short item Expr.spanTree) (bound : Nat)
    {callee : Expr} (read : Moves tokens position here [callee.spanTree]) :
    Settles tokens short (applications item bound callee) here fun tree later =>
      Moves tokens position later [tree.spanTree] := by
  induction bound generalizing callee here with
  | zero => exact .pure read
  | succ bound ih =>
      have less := read.1
      refine .skipOr ended (fun inner taken => ?_) ?_
      · refine .bind (items_moves ended (moving.later (by omega)) _) fun arguments later moved => ?_
        refine .get (ih ?_)
        have parts := read.append moved (by omega)
        refine parts.node (Or.inr ⟨_, _, rfl, ?_⟩) (Or.inl rfl)
        simp
      · refine .skipOr ended (fun inside taken => ?_) (.pure read)
        refine .bind (moving inside (by omega)) fun place after placeMoves => ?_
        refine .bind (.takeSymbol ended) fun _ later taken => .get (ih ?_)
        have parts := read.append placeMoves (by omega)
        have wide := parts.widen (Nat.le_refl _) (show after ≤ later by omega)
        refine wide.node (Or.inr ⟨_, _, rfl, ?_⟩) (Or.inl rfl)
        simp

theorem paramsUpTo_settles (ended : EndsOnce tokens) (bound : Nat) (read : List String) :
    Settles tokens short (paramsUpTo bound read) here fun _ later => here < later := by
  induction bound generalizing read here with
  | zero => exact .bind (.takeSymbol ended) fun _ later taken => .pure (by omega)
  | succ bound ih =>
      refine .atSymbol ?_
      split
      · rename_i found
        refine .bind (.advance ended (isFinish_of_isSymbol found)) fun _ later taken => ?_
        exact .pure (by omega)
      · refine .current ?_
        split
        · rename_i path named
          split
          · exact .unexpected
          · refine .bind (.take ended named (by simp)) fun _ next taken => ?_
            refine .skipOr ended (fun rest comma => ?_) ?_
            · exact (ih _).mono id fun _ later moved => by omega
            · exact .bind (.takeSymbol ended) fun _ later closed => .pure (by omega)
        · exact .unexpected

theorem params_settles (ended : EndsOnce tokens) :
    Settles tokens short params here fun _ later => here < later := by
  refine .bind (.takeSymbol ended) fun _ next taken => .get ?_
  exact (paramsUpTo_settles ended _ []).mono id fun _ later moved => by omega

theorem statementsUpTo_moves (ended : EndsOnce tokens)
    (moving : MovesFrom tokens position short statement Stmt.spanTree) (bound : Nat)
    {read : List Stmt} (gathered : Gathers tokens position here (bodyTrees read.reverse)) :
    Settles tokens short (statementsUpTo statement bound read) here fun body later =>
      Moves tokens position later (bodyTrees body) := by
  induction bound generalizing read here with
  | zero =>
      refine .bind (.takeSymbol ended) fun _ later taken => ?_
      exact .pure (gathered.close (by omega))
  | succ bound ih =>
      refine .skipOr ended (fun later closed => ?_) (.current ?_)
      · exact .pure (gathered.close (by omega))
      · split
        · exact .throw rfl
        · refine .bind (moving here gathered.le) fun next after nextMoves => ih (Or.inr ?_)
          simpa [bodyTrees_eq_map] using gathered.append nextMoves

theorem blockOf_moves (ended : EndsOnce tokens)
    (moving : MovesFrom tokens (here + 1) short statement Stmt.spanTree) :
    Settles tokens short (blockOf statement) here fun block later =>
      Moves tokens here later (bodyTrees block.1) ∧
        block.2 = ⟨front tokens here, back tokens later⟩ := by
  refine .bind (.takeSymbol ended) fun start next taken => .get ?_
  obtain ⟨rfl, next_eq⟩ := taken
  refine .bind (statementsUpTo_moves ended (moving.later (by omega)) _ .nil)
    fun statements later moved => ?_
  refine .bind .spanFrom fun span same spanned => .pure ?_
  obtain ⟨rfl, rfl⟩ := spanned
  exact ⟨moved.widen (by omega) (Nat.le_refl _), rfl⟩

theorem constructRest_moves (ended : EndsOnce tokens)
    (moving : MovesFrom tokens (here + 1) short item Expr.spanTree) :
    Settles tokens short (constructRest item) here fun parts later =>
      Moves tokens here later (expressionTrees parts.2) := by
  refine .bind (.takeName ended) fun named next taken => ?_
  refine .bind (.takeSymbol ended) fun _ inner opened => ?_
  refine .bind (items_moves ended (moving.later (by omega)) _) fun arguments later moved => ?_
  exact .pure (moved.widen (by omega) (Nat.le_refl _))

theorem parenthesized_moves (ended : EndsOnce tokens)
    (moving : MovesFrom tokens (here + 1) short item Expr.spanTree) :
    Settles tokens short (parenthesized item) here fun tree later =>
      Moves tokens here later [tree.spanTree] := by
  refine .bind (.takeSymbol ended) fun _ inner opened => ?_
  refine .bind (moving inner (by omega)) fun tree after moved => ?_
  have more := moved.1
  refine .bind (.takeSymbol ended) fun _ later closed => .pure ?_
  exact moved.widen (by omega) (by omega)

end Loops

/-! ## Levels of the grammar -/

/-- Within some room a parser of trees moves on from every position, and it gives up as too deep
only if the room is short for the tokens that are left. -/
def MovesWithin (tokens : List Token) (room : Nat) (parser : Parse α) (tree : α → SpanTree) :
    Prop :=
  ∀ position : Fin tokens.length,
    Settles tokens (room < 8 * (tokens.length - position)) parser position fun value later =>
      Moves tokens position later [tree value]

/-- What all levels of the grammar do within an allowance. -/
structure GrammarMoves (tokens : List Token) (allowance : Nat) : Prop where
  expression : MovesWithin tokens (allowance + 2) (expression allowance) Expr.spanTree
  binary : ∀ least, MovesWithin tokens (allowance + 4) (binary allowance least) Expr.spanTree
  unary : MovesWithin tokens (allowance + 5) (unary allowance) Expr.spanTree
  primary : MovesWithin tokens (allowance + 6) (primary allowance) Expr.spanTree
  statement : ∀ inLoop, MovesWithin tokens allowance (statement allowance inLoop) Stmt.spanTree

section Levels

variable {allowance : Nat}

theorem MovesWithin.onward {room least : Nat} {parser : Parse α} {tree : α → SpanTree}
    (moves : MovesWithin tokens room parser tree)
    (isShort : room < 8 * (tokens.length - least) → short) :
    MovesFrom tokens least short parser tree :=
  fun position le => (moves position).shorter fun less => isShort (by omega)

theorem expression_moves (ended : EndsOnce tokens)
    (lower : ∀ less < allowance, GrammarMoves tokens less) :
    MovesWithin tokens (allowance + 2) (expression allowance) Expr.spanTree := by
  intro position
  have left := position.isLt
  rcases allowance with _ | _ | allowance
  · exact .refuseDepth (by omega)
  · exact .refuseDepth (by omega)
  have deeper := lower allowance (by omega)
  refine .bind ((deeper.binary 1 position).shorter (by omega)) fun target middle targetMoves => ?_
  have less := targetMoves.1
  refine .skipOr ended (fun next assigned => ?_) (.pure targetMoves)
  refine .bind ((deeper.expression next).shorter (by omega)) fun value later valueMoves => ?_
  split
  · rename_i place denoted
    have parts := targetMoves.append valueMoves (by omega)
    rw [← Expr.spanTree_of_target? denoted] at parts
    refine .pure (parts.node (Or.inr ⟨_, _, rfl, ?_⟩) (Or.inr ⟨[place.spanTree], _, rfl, ?_⟩))
    · simp [Span.through, Expr.spanTree_of_target? denoted]
    · simp [Span.through]
  · exact .throw rfl

theorem binary_moves (ended : EndsOnce tokens)
    (lower : ∀ less < allowance, GrammarMoves tokens less) (least : Nat) :
    MovesWithin tokens (allowance + 4) (binary allowance least) Expr.spanTree := by
  intro position
  have left := position.isLt
  rcases allowance with _ | allowance
  · exact .refuseDepth (by omega)
  have deeper := lower allowance (by omega)
  refine .bind ((deeper.unary position).shorter (by omega)) fun left middle leftMoves => .get ?_
  exact climb_moves ended (fun least => (deeper.binary least).onward (by omega)) least _ leftMoves

theorem unary_moves (ended : EndsOnce tokens)
    (lower : ∀ less < allowance, GrammarMoves tokens less) :
    MovesWithin tokens (allowance + 5) (unary allowance) Expr.spanTree := by
  intro position
  have left := position.isLt
  rcases allowance with _ | allowance
  · exact .refuseDepth (by omega)
  have deeper := lower allowance (by omega)
  refine .current ?_
  split
  · rename_i operator found
    refine .bind (.advance ended (isFinish_of_prefixOf? found)) fun start next taken => ?_
    obtain ⟨rfl, next_eq⟩ := taken
    refine .bind ((deeper.unary next).shorter (by omega)) fun operand later operandMoves => .pure ?_
    have parts := operandMoves.widen (show position ≤ next by omega) (Nat.le_refl _)
    refine parts.node (Or.inl rfl) (Or.inr ⟨[], _, rfl, ?_⟩)
    simp [Span.through]
  · refine .bind ((deeper.primary position).shorter (by omega)) fun callee middle calleeMoves => ?_
    refine .get ?_
    exact applications_moves ended (deeper.expression.onward (by omega)) _ calleeMoves

/-- What ends a node that reaches from its first token to the last one that was taken. -/
theorem spanned_moves {start : Token} {tree : α → SpanTree} {build : Span → α}
    {trees : List SpanTree} (moves : Moves tokens position here trees)
    (opens : start.span.start = front tokens position)
    (built : ∀ span, tree (build span) = .node span trees) :
    Settles tokens short (spanFrom start >>= fun span => pure (build span)) here
      fun value later => Moves tokens position later [tree value] := by
  refine .bind .spanFrom fun span later spanned => .pure ?_
  obtain ⟨rfl, rfl⟩ := spanned
  rw [built, opens]
  exact moves.spanned

/-- What ends a statement that a semicolon may close. -/
theorem closed_moves (ended : EndsOnce tokens) {start : Token} {build : Span → Stmt}
    {trees : List SpanTree} (moves : Moves tokens position here trees)
    (opens : start.span.start = front tokens position)
    (built : ∀ span, (build span).spanTree = .node span trees) :
    Settles tokens short (skipSymbol .semicolon >>= fun _ => spanFrom start >>= fun span =>
      pure (build span)) here fun value later => Moves tokens position later [value.spanTree] :=
  .skipAny ended fun _ _ le => spanned_moves (moves.widen (Nat.le_refl _) le) opens built

/-- A node of a single token. -/
theorem Moves.token {later : Fin tokens.length} (next : later.val = position + 1) :
    Moves tokens position later [.node tokens[position].span []] := by
  refine (Moves.nil (by omega)).node (Or.inl rfl) (Or.inl ?_)
  simp [back, next]

theorem primary_moves (ended : EndsOnce tokens)
    (lower : ∀ less < allowance, GrammarMoves tokens less) :
    MovesWithin tokens (allowance + 6) (primary allowance) Expr.spanTree := by
  intro position
  have left := position.isLt
  rcases allowance with _ | _ | allowance
  · exact .refuseDepth (by omega)
  · exact .refuseDepth (by omega)
  have deeper := lower allowance (by omega)
  generalize short_eq : (allowance + 1 + 1 + 6 < 8 * (tokens.length - position)) = short
  have expressions : MovesFrom tokens (position + 1) short (expression allowance) Expr.spanTree :=
    deeper.expression.onward (by rw [← short_eq]; omega)
  have bodies : MovesFrom tokens (position + 1) short (statement allowance false) Stmt.spanTree :=
    (deeper.statement false).onward (by rw [← short_eq]; omega)
  refine .current ?_
  dsimp only
  split
  case h_6 => exact parenthesized_moves ended expressions
  case h_11 => exact .unexpected
  all_goals
    rename_i found
    refine .bind (.take ended found (by simp)) fun _ next taken => ?_
    obtain ⟨rfl, next_eq⟩ := taken
  iterate 4 exact .pure (.token next_eq)
  · exact .pure (expandPath_moves found next_eq)
  · refine .bind (items_moves ended (expressions.later (by omega)) _) fun elements later moved => ?_
    exact spanned_moves (moved.widen (by omega) (Nat.le_refl _)) rfl fun _ => rfl
  · refine .bind (params_settles ended) fun params opened paramsMoved => ?_
    refine .bind (blockOf_moves ended (bodies.later (by omega))) fun block later moved => ?_
    exact spanned_moves (moved.1.widen (by omega) (Nat.le_refl _)) rfl fun _ => rfl
  · refine .bind (parenthesized_moves ended (expressions.later (by omega)))
      fun path later moved => ?_
    exact spanned_moves (moved.widen (by omega) (Nat.le_refl _)) rfl fun _ => rfl
  · refine .bind (constructRest_moves ended (expressions.later (by omega)))
      fun parts later moved => ?_
    exact spanned_moves (moved.widen (by omega) (Nat.le_refl _)) rfl fun _ => rfl

theorem statement_moves (ended : EndsOnce tokens)
    (lower : ∀ less < allowance, GrammarMoves tokens less) (inLoop : Bool) :
    MovesWithin tokens allowance (statement allowance inLoop) Stmt.spanTree := by
  intro position
  have left := position.isLt
  rcases allowance with _ | _ | allowance
  · exact .refuseDepth (by omega)
  · exact .refuseDepth (by omega)
  have deeper := lower allowance (by omega)
  generalize short_eq : (allowance + 1 + 1 < 8 * (tokens.length - position)) = short
  have expressions : MovesFrom tokens (position + 1) short (expression allowance) Expr.spanTree :=
    deeper.expression.onward (by rw [← short_eq]; omega)
  have statements (inLoop : Bool) :
      MovesFrom tokens (position + 1) short (statement allowance inLoop) Stmt.spanTree :=
    (deeper.statement inLoop).onward (by rw [← short_eq]; omega)
  refine .current ?_
  dsimp only
  split
  case h_11 =>
    -- an expression
    have value : Settles tokens short (expression allowance) position _ :=
      (deeper.expression position).shorter (by rw [← short_eq]; omega)
    refine .bind value fun value middle moved => ?_
    refine .skipAny ended fun _ later le => .pure ?_
    have wide := moved.widen (Nat.le_refl _) le
    refine wide.node (Or.inr ⟨_, _, rfl, ?_⟩) (Or.inr ⟨[], _, rfl, ?_⟩) <;> simp
  case h_10 =>
    -- a block
    refine .bind (blockOf_moves ended (statements inLoop)) fun block later moved => .pure ?_
    obtain ⟨moved, span_eq⟩ := moved
    rw [span_eq]
    exact moved.spanned
  all_goals
    rename_i found
    refine .bind (.take ended found (by simp)) fun _ next taken => ?_
    obtain ⟨-, next_eq⟩ := taken
    have less : position < next := by omega
  · -- a declaration
    refine .bind (.takeName ended) fun named after taken => ?_
    refine .bind .refuseDotted fun _ same plain => ?_
    subst plain
    refine .skipOr ended (fun middle assigned => ?_) ?_
    · refine .bindMap (expressions middle (by omega)) fun initial later moved => ?_
      exact closed_moves ended (moved.widen (by omega) (Nat.le_refl _)) rfl fun _ => rfl
    · exact .step rfl (closed_moves ended (.nil (by omega)) rfl fun _ => rfl)
  · -- a conditional
    refine .bind (parenthesized_moves ended (expressions.later (by omega)))
      fun condition middle conditionMoves => ?_
    have further := conditionMoves.1
    refine .bind (statements inLoop middle (by omega)) fun consequent after consequentMoves => ?_
    have both := (conditionMoves.append consequentMoves (Nat.le_refl _)).widen
      (show position ≤ next by omega) (Nat.le_refl _)
    have further := consequentMoves.1
    refine .current ?_
    split
    · rename_i follows
      refine .bind (.advance ended (isFinish_of_isKeyword follows)) fun _ rest taken => ?_
      refine .bindMap (statements inLoop rest (by omega)) fun alternate later alternateMoves => ?_
      exact spanned_moves (both.append alternateMoves (by omega)) rfl fun _ => rfl
    · exact .step rfl (spanned_moves both rfl fun _ => rfl)
  · -- a loop
    refine .bind (parenthesized_moves ended (expressions.later (by omega)))
      fun condition middle conditionMoves => ?_
    have further := conditionMoves.1
    refine .bind (statements true middle (by omega)) fun body later bodyMoves => ?_
    have both := (conditionMoves.append bodyMoves (Nat.le_refl _)).widen
      (show position ≤ next by omega) (Nat.le_refl _)
    exact spanned_moves both rfl fun _ => rfl
  · -- a function
    have rest_moves (name : Option String) {here : Fin tokens.length} (less : position < here) :
        Settles tokens short (params >>= fun params => blockOf (statement allowance false) >>=
          fun block => spanFrom tokens[position] >>= fun span =>
            pure (Stmt.function span name params block.1)) here
          fun value later => Moves tokens position later [value.spanTree] := by
      refine .bind (params_settles ended) fun params opened paramsMoved => ?_
      refine .bind (blockOf_moves ended ((statements false).later (by omega)))
        fun block later moved => ?_
      exact spanned_moves (moved.1.widen (by omega) (Nat.le_refl _)) rfl fun _ => rfl
    refine .current ?_
    split
    · rename_i path named
      refine .bind (.take ended named (by simp)) fun token after taken => ?_
      refine .bind .refuseDotted fun _ same plain => ?_
      subst plain
      exact .step rfl (rest_moves _ (by omega))
    · exact .step rfl (rest_moves _ less)
  · -- a result
    refine .current ?_
    split
    · exact .step rfl (closed_moves ended (.nil less) rfl fun _ => rfl)
    · refine .bindMap (expressions next (by omega)) fun value later moved => ?_
      exact closed_moves ended (moved.widen (by omega) (Nat.le_refl _)) rfl fun _ => rfl
  iterate 2
    -- leaving a loop or going on with it
    split
    · refine .skipAny ended fun _ later le => .pure ?_
      exact (Moves.token next_eq).widen (Nat.le_refl _) le
    · exact .throw rfl
  · -- a construction
    refine .bind (constructRest_moves ended (expressions.later (by omega)))
      fun parts later moved => ?_
    exact closed_moves ended (moved.widen (by omega) (Nat.le_refl _)) rfl fun _ => rfl
  · -- a module
    refine .bind (parenthesized_moves ended (expressions.later (by omega)))
      fun path later moved => ?_
    exact closed_moves ended (moved.widen (by omega) (Nat.le_refl _)) rfl fun _ => rfl

theorem grammarMoves (ended : EndsOnce tokens) (allowance : Nat) :
    GrammarMoves tokens allowance := by
  induction allowance using Nat.strongRecOn with
  | ind allowance lower =>
      exact
        { expression := expression_moves ended lower
          binary := binary_moves ended lower
          unary := unary_moves ended lower
          primary := primary_moves ended lower
          statement := statement_moves ended lower }

/-! ## Programs -/

theorem statementsToEnd_moves {statement : Parse Stmt} (ended : EndsOnce tokens)
    (moving : MovesFrom tokens position short statement Stmt.spanTree) (bound : Nat)
    (enough : tokens.length - here ≤ bound) {read : List Stmt}
    (gathered : Gathers tokens position here (bodyTrees read.reverse))
    (fresh : read = [] → here = position) :
    Settles tokens short (statementsToEnd statement bound read) here fun body later =>
      later.val + 1 = tokens.length ∧ Gathers tokens position later (bodyTrees body) ∧
        (body = [] → later = position) := by
  have left := here.isLt
  induction bound generalizing read here with
  | zero => omega
  | succ bound ih =>
      refine .current ?_
      split
      · rename_i isFinish
        have atEnd : here.val + 1 = tokens.length := by
          by_contra before
          rw [ended.unfinished_of_lt (by omega)] at isFinish
          cases isFinish
        exact .pure ⟨atEnd, gathered, fun empty => fresh (by simpa using empty)⟩
      · refine .bind (moving here gathered.le) fun next after nextMoves => ?_
        have more := nextMoves.1
        refine ih (by omega) (Or.inr ?_) (by simp) after.isLt
        simpa [bodyTrees_eq_map] using gathered.append nextMoves

/-- What is read of a program from some position on: all tokens but the last are taken.  An empty
program stands on the token that ends the input. -/
structure ReadsProgram (tokens : List Token) (position later : Fin tokens.length)
    (program : Program) : Prop where
  toEnd : later.val + 1 = tokens.length
  empty : program.body = [] → later = position ∧ program.span = tokens[position].span
  moves : program.body ≠ [] → Moves tokens position later [program.spanTree]

theorem program_moves (ended : EndsOnce tokens) (position : Fin tokens.length)
    (file : Option String) :
    Settles tokens (allowance < 8 * (tokens.length - position)) (program allowance file) position
      fun program later => ReadsProgram tokens position later program := by
  have statements : MovesFrom tokens position (allowance < 8 * (tokens.length - position))
      (statement allowance false) Stmt.spanTree :=
    ((grammarMoves ended allowance).statement false).onward id
  refine .current (.get ?_)
  have enough : tokens.length - position ≤ (Stream.at tokens position).total + 1 := by
    simp only [Stream.at]
    omega
  refine .bind (statementsToEnd_moves ended statements _ enough .nil fun _ => rfl)
    fun body later gathered => ?_
  obtain ⟨toEnd, gathered, fresh⟩ := gathered
  dsimp only
  split
  · rename_i empty
    have empty := List.isEmpty_iff.mp empty
    exact .step rfl (.pure ⟨toEnd, fun _ => ⟨fresh empty, rfl⟩, fun other => absurd empty other⟩)
  · rename_i other
    refine .bind .spanFrom fun span same spanned => .pure ?_
    obtain ⟨rfl, rfl⟩ := spanned
    refine ⟨toEnd, fun empty => absurd (List.isEmpty_iff.mpr empty) other, fun present => ?_⟩
    rcases gathered with ⟨empty, -⟩ | moves
    · simp [bodyTrees_eq_map] at empty
      exact absurd empty present
    · exact moves.spanned

end Levels

end Parser
end Scriptlet
