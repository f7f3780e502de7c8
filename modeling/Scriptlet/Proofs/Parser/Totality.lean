import Scriptlet.Proofs.Parser.Progress

/-!
# Totality of the parser

Over a list of tokens that ends once, every parser of the grammar that succeeds has taken a token
and stands at a position of the list, and no loop is cut short by its bound.  So the parser of
programs takes all tokens but the last, or it refuses the program by a mistake of the grammar.
-/

namespace Scriptlet
namespace Parser

variable {α β : Type} {tokens : List Token} {position : Fin tokens.length}

/-! ## Bounds of loops -/

/-- Two parsers do the same at a position. -/
def SameAt (tokens : List Token) (position : Fin tokens.length) (parser other : Parse α) : Prop :=
  parser (Stream.at tokens position) = other (Stream.at tokens position)

namespace SameAt

variable {post : α → Fin tokens.length → Prop} {first : Parse α} {next next' : α → Parse β}

theorem step {value : α} {later : Fin tokens.length}
    (run : first (Stream.at tokens position) = .ok (value, Stream.at tokens later))
    (after : SameAt tokens later (next value) (next' value)) :
    SameAt tokens position (first >>= next) (first >>= next') := by
  unfold SameAt
  rw [bind_run run, bind_run run]
  exact after

theorem bind (before : Settles tokens True first position post)
    (after : ∀ value later, post value later → SameAt tokens later (next value) (next' value)) :
    SameAt tokens position (first >>= next) (first >>= next') := by
  unfold Settles at before
  split at before
  · rename_i value rest run
    obtain ⟨later, satisfied, rfl⟩ := before
    exact step run (after value later satisfied)
  all_goals
    rename_i run
    change (first _ >>= fun pair => next pair.1 pair.2) = (first _ >>= fun pair => _)
    rw [run]
    rfl

theorem current {next next' : Token → Parse β}
    (after : SameAt tokens position (next (tokens.get position)) (next' (tokens.get position))) :
    SameAt tokens position (current >>= next) (current >>= next') :=
  step (by rw [current_run, current_at]; rfl) after

theorem get {next next' : Stream → Parse β}
    (after : SameAt tokens position (next (Stream.at tokens position))
      (next' (Stream.at tokens position))) :
    SameAt tokens position (get >>= next) (get >>= next') :=
  step (get_run _) after

theorem atSymbol {symbol : Symbol} {next next' : Bool → Parse β}
    (after : SameAt tokens position (next ((tokens.get position).isSymbol symbol))
      (next' ((tokens.get position).isSymbol symbol))) :
    SameAt tokens position (atSymbol symbol >>= next) (atSymbol symbol >>= next') :=
  step (by rw [atSymbol_run, current_at]; rfl) after

theorem skipOr (ended : EndsOnce tokens) {symbol : Symbol} {next next' : Bool → Parse β}
    (taken : ∀ later : Fin tokens.length, later.val = position + 1 →
      SameAt tokens later (next true) (next' true))
    (absent : SameAt tokens position (next false) (next' false)) :
    SameAt tokens position (skipSymbol symbol >>= next) (skipSymbol symbol >>= next') := by
  refine bind (.skipSymbol ended) fun found later skipped => ?_
  cases found with
  | true => exact taken later (by simpa using skipped)
  | false =>
      obtain rfl : later = position := by simpa using skipped
      exact absent

end SameAt

/-- A loop ends by itself: no bound that the tokens left do not exceed cuts it short. -/
def EndsItself (tokens : List Token) (loop : (bound : Nat) → Parse α) : Prop :=
  ∀ (position : Fin tokens.length) (bound more : Nat), tokens.length - position ≤ bound →
    tokens.length - position ≤ more → SameAt tokens position (loop bound) (loop more)

section Loops

variable {operand : Nat → Parse Expr} {item : Parse Expr} {statement : Parse Stmt}

theorem climb_endsItself (ended : EndsOnce tokens)
    (moving : ∀ least, MovesFrom tokens 0 True (operand least) Expr.spanTree) (least : Nat)
    (left : Expr) : EndsItself tokens (climb operand least · left) := by
  intro position bound more enough enough'
  have inside := position.isLt
  induction bound generalizing position more left with
  | zero => omega
  | succ bound ih =>
      obtain ⟨more, rfl⟩ : ∃ less, more = less + 1 := ⟨more - 1, by omega⟩
      refine .current ?_
      split
      · rfl
      · rename_i operator found
        split
        · rfl
        · refine .bind (.advance ended (isFinish_of_operatorOf? found)) fun _ next moved => ?_
          refine .bind (moving _ next (Nat.zero_le _)) fun right later rightMoves => ?_
          have less := rightMoves.1
          exact ih _ later _ (by omega) (by omega) later.isLt

theorem itemsUpTo_endsItself (ended : EndsOnce tokens)
    (moving : MovesFrom tokens 0 True item Expr.spanTree) (closing : Symbol) (read : List Expr) :
    EndsItself tokens (itemsUpTo closing item · read) := by
  intro position bound more enough enough'
  have inside := position.isLt
  induction bound generalizing position more read with
  | zero => omega
  | succ bound ih =>
      obtain ⟨more, rfl⟩ : ∃ less, more = less + 1 := ⟨more - 1, by omega⟩
      refine .atSymbol ?_
      split
      · rfl
      · refine .bind (moving position (Nat.zero_le _)) fun next after nextMoves => ?_
        have less := nextMoves.1
        refine .skipOr ended (fun rest taken => ?_) rfl
        exact ih _ rest _ (by omega) (by omega) rest.isLt

theorem applications_endsItself (ended : EndsOnce tokens)
    (moving : MovesFrom tokens 0 True item Expr.spanTree) (callee : Expr) :
    EndsItself tokens (applications item · callee) := by
  intro position bound more enough enough'
  have inside := position.isLt
  induction bound generalizing position more callee with
  | zero => omega
  | succ bound ih =>
      obtain ⟨more, rfl⟩ : ∃ less, more = less + 1 := ⟨more - 1, by omega⟩
      refine .skipOr ended (fun inner taken => ?_) ?_
      · refine .bind (items_moves ended (moving.later (Nat.zero_le _)) _)
          fun arguments later moved => ?_
        have less := moved.1
        exact .get (ih _ later _ (by omega) (by omega) later.isLt)
      · refine .skipOr ended (fun inside taken => ?_) rfl
        refine .bind (moving inside (Nat.zero_le _)) fun place after placeMoves => ?_
        have less := placeMoves.1
        refine .bind (.takeSymbol ended) fun _ later taken => ?_
        exact .get (ih _ later _ (by omega) (by omega) later.isLt)

theorem paramsUpTo_endsItself (ended : EndsOnce tokens) (read : List String) :
    EndsItself tokens (paramsUpTo · read) := by
  intro position bound more enough enough'
  have inside := position.isLt
  induction bound generalizing position more read with
  | zero => omega
  | succ bound ih =>
      obtain ⟨more, rfl⟩ : ∃ less, more = less + 1 := ⟨more - 1, by omega⟩
      refine .atSymbol ?_
      split
      · rfl
      · refine .current ?_
        split
        · rename_i path named
          split
          · rfl
          · refine .bind (.take ended named (by simp)) fun _ next taken => ?_
            refine .skipOr ended (fun rest comma => ?_) rfl
            exact ih _ rest _ (by omega) (by omega) rest.isLt
        · rfl

theorem statementsUpTo_endsItself (ended : EndsOnce tokens)
    (moving : MovesFrom tokens 0 True statement Stmt.spanTree) (read : List Stmt) :
    EndsItself tokens (statementsUpTo statement · read) := by
  intro position bound more enough enough'
  have inside := position.isLt
  induction bound generalizing position more read with
  | zero => omega
  | succ bound ih =>
      obtain ⟨more, rfl⟩ : ∃ less, more = less + 1 := ⟨more - 1, by omega⟩
      refine .skipOr ended (fun later closed => rfl) (.current ?_)
      split
      · rfl
      · refine .bind (moving position (Nat.zero_le _)) fun next after nextMoves => ?_
        have less := nextMoves.1
        exact ih _ after _ (by omega) (by omega) after.isLt

theorem statementsToEnd_endsItself
    (moving : MovesFrom tokens 0 True statement Stmt.spanTree) (read : List Stmt) :
    EndsItself tokens (statementsToEnd statement · read) := by
  intro position bound more enough enough'
  have inside := position.isLt
  induction bound generalizing position more read with
  | zero => omega
  | succ bound ih =>
      obtain ⟨more, rfl⟩ : ∃ less, more = less + 1 := ⟨more - 1, by omega⟩
      refine .current ?_
      split
      · rfl
      · refine .bind (moving position (Nat.zero_le _)) fun next after nextMoves => ?_
        have less := nextMoves.1
        exact ih _ after _ (by omega) (by omega) after.isLt

end Loops

/-- No loop of the grammar is cut short by its bound. -/
structure LoopsEnd (tokens : List Token) (allowance : Nat) : Prop where
  climb : ∀ least left, EndsItself tokens (climb (binary allowance) least · left)
  items : ∀ closing read, EndsItself tokens (itemsUpTo closing (expression allowance) · read)
  applications : ∀ callee, EndsItself tokens (applications (expression allowance) · callee)
  params : ∀ read, EndsItself tokens (paramsUpTo · read)
  statements : ∀ inLoop read,
    EndsItself tokens (statementsUpTo (statement allowance inLoop) · read)
  toEnd : ∀ inLoop read, EndsItself tokens (statementsToEnd (statement allowance inLoop) · read)

theorem loopsEnd (ended : EndsOnce tokens) (allowance : Nat) : LoopsEnd tokens allowance := by
  have moves := grammarMoves ended allowance
  have expressions : MovesFrom tokens 0 True (expression allowance) Expr.spanTree :=
    moves.expression.onward fun _ => True.intro
  have statements (inLoop : Bool) :
      MovesFrom tokens 0 True (statement allowance inLoop) Stmt.spanTree :=
    (moves.statement inLoop).onward fun _ => True.intro
  exact
    { climb := climb_endsItself ended fun least => (moves.binary least).onward fun _ => True.intro
      items := itemsUpTo_endsItself ended expressions
      applications := applications_endsItself ended expressions
      params := paramsUpTo_endsItself ended
      statements := fun inLoop => statementsUpTo_endsItself ended (statements inLoop)
      toEnd := fun inLoop => statementsToEnd_endsItself (statements inLoop) }

/-! ## Parsers of the grammar -/

/-- A parser takes a token: if it succeeds, it stands at a later position of the list, and it
refuses its tokens by a mistake of the grammar only. -/
def TakesTokens (tokens : List Token) (parser : Parse α) : Prop :=
  ∀ position : Fin tokens.length,
    Settles tokens True parser position fun _ later => position < later

/-- Every parser of the grammar takes a token. -/
structure GrammarTakes (tokens : List Token) (allowance : Nat) : Prop where
  expression : TakesTokens tokens (Parser.expression allowance)
  binary : ∀ least, TakesTokens tokens (Parser.binary allowance least)
  unary : TakesTokens tokens (Parser.unary allowance)
  primary : TakesTokens tokens (Parser.primary allowance)
  items : ∀ closing, TakesTokens tokens (Parser.items closing (Parser.expression allowance))
  parenthesized : TakesTokens tokens (Parser.parenthesized (Parser.expression allowance))
  constructRest : TakesTokens tokens (Parser.constructRest (Parser.expression allowance))
  params : TakesTokens tokens Parser.params
  blockOf : ∀ inLoop, TakesTokens tokens (Parser.blockOf (Parser.statement allowance inLoop))
  statement : ∀ inLoop, TakesTokens tokens (Parser.statement allowance inLoop)

theorem grammarTakes (ended : EndsOnce tokens) (allowance : Nat) :
    GrammarTakes tokens allowance := by
  have moves := grammarMoves ended allowance
  have expressions (least : Nat) :
      MovesFrom tokens least True (Parser.expression allowance) Expr.spanTree :=
    moves.expression.onward fun _ => True.intro
  have statements (least : Nat) (inLoop : Bool) :
      MovesFrom tokens least True (Parser.statement allowance inLoop) Stmt.spanTree :=
    (moves.statement inLoop).onward fun _ => True.intro
  have taking {α : Type} {position : Fin tokens.length} {short : Prop} {parser : Parse α}
      {trees : α → List SpanTree}
      (settles : Settles tokens short parser position fun value later =>
        Moves tokens position later (trees value)) :
      Settles tokens True parser position fun _ later => position < later :=
    settles.mono (fun _ => True.intro) fun _ _ moved => moved.1
  exact
    { expression := fun position => taking (moves.expression position)
      binary := fun least position => taking (moves.binary least position)
      unary := fun position => taking (moves.unary position)
      primary := fun position => taking (moves.primary position)
      items := fun closing position => taking (items_moves ended (expressions _) closing)
      parenthesized := fun position => taking (parenthesized_moves ended (expressions _))
      constructRest := fun position => taking (constructRest_moves ended (expressions _))
      params := fun position => params_settles ended
      blockOf := fun inLoop position =>
        (blockOf_moves ended (statements _ inLoop)).mono id fun _ _ moved => moved.1.1
      statement := fun inLoop position => taking (moves.statement inLoop position) }

/-! ## Programs -/

/-- What the parser makes of a list of tokens in all.  It looks at tokens of the list only; each of
its parts takes a token, and its loops end; it takes all tokens but the last, or refuses the program
by a mistake of the grammar, or it is short of room for the nesting of so many tokens. -/
structure Total (tokens : List Token) (first : Fin tokens.length) (file source : Option String) :
    Prop where
  opens : first.val = 0 ∧ Stream.ofTokens? tokens = some (Stream.at tokens first)
  looks : ∀ position, (Stream.at tokens position).current = tokens[position] ∧
    (Stream.at tokens position).last = tokens[position.val - 1].span.stop
  takes : ∀ allowance, GrammarTakes tokens allowance
  loops : ∀ allowance, LoopsEnd tokens allowance
  outcome : ∀ allowance,
    match parse allowance (Stream.at tokens first) file source with
    | .ok program => ∃ finish : Fin tokens.length, finish.val + 1 = tokens.length ∧
        (Parser.program allowance file).run (Stream.at tokens first) =
          .ok (program, Stream.at tokens finish)
    | .error (.script error) => error.cause.code ∈ ["E101", "E102", "E103", "E104"]
    | .error fault => fault = .exhausted ∧ allowance < ampleAllowance tokens

theorem code_of_grammar {cause : Cause} (grammar : cause.family = .grammar) :
    cause.code ∈ ["E101", "E102", "E103", "E104"] := by
  cases cause <;> simp [Cause.family, Cause.code] at grammar ⊢

/-- The parser is total over every list of tokens that ends once. -/
theorem parse_total (ended : EndsOnce tokens) (file source : Option String) :
    ∃ first, Total tokens first file source := by
  obtain ⟨first, isFirst, stream_eq⟩ := ended.ofTokens?
  refine ⟨first, ⟨isFirst, stream_eq⟩, fun position => ⟨current_at position, rfl⟩,
    grammarTakes ended, loopsEnd ended, fun allowance => ?_⟩
  have settles : Settles tokens _ (program allowance file) first _ := program_moves ended first file
  unfold Settles at settles
  unfold parse
  split at settles
  · rename_i program rest run
    obtain ⟨finish, reads, rfl⟩ := settles
    rw [StateT.run, run]
    exact ⟨finish, reads.toEnd, rfl⟩
  · rename_i run
    rw [StateT.run, run]
    exact code_of_grammar settles
  · rename_i run
    rw [StateT.run, run]
    refine ⟨rfl, ?_⟩
    unfold ampleAllowance
    omega

/-- The words of a call that is not closed. -/
def openCall : List Token :=
  [⟨.name "f", "f", default⟩, ⟨.symbol .openParen, "(", default⟩, ⟨.finish, "", default⟩]

theorem parse_total_of_openCall :
    EndsOnce openCall ∧ ∃ first, Total openCall first none none := by
  have ended : EndsOnce openCall := ⟨⟨_, rfl, rfl⟩, by decide⟩
  exact ⟨ended, parse_total ended none none⟩

end Parser
end Scriptlet
