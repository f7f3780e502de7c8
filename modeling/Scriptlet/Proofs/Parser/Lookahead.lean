import Mathlib.Data.List.Nodup
import Scriptlet.Proofs.Parser.Allowance
import Scriptlet.Proofs.Parser.Totality

/-!
# What refusals depend on

When the parser refuses a token, or a jump outside of a loop, it has not looked at any token behind
the one that it complains about.  So it refuses every other list of tokens that begins in the same
way, and with the same error.

Two lists of tokens are compared that are the same up to a place.  As long as a run stays in front
of the place, or stands at it, the run on the other list does the same; and behind the place no
error is located at the place any more, since no step goes back.
-/

namespace Scriptlet
namespace Parser

variable {α β γ : Type} {tokens others : List Token} {place : Nat}

theorem bind_run_error {first : Parse α} {next : α → Parse β} {stream : Stream} {failure : Failure}
    (run : first stream = .error failure) : (first >>= next) stream = .error failure := by
  change (first stream >>= fun pair => next pair.1 pair.2) = _
  rw [run]
  rfl

/-- Refusing the current token ends everything that was to follow. -/
theorem unexpected_bind (expected : String) (next : α → Parse β) (stream : Stream) :
    (unexpected expected >>= next) stream = unexpected expected stream := by
  unfold unexpected
  rw [bind_assoc, bind_run (current_run stream), bind_run (current_run stream)]
  split <;> rfl

/-- The causes of errors about one token: it is another one than was expected, or a jump outside
of a loop. -/
def IsLocal (cause : Cause) : Prop :=
  cause.code = "E101" ∨ cause.code = "E104"

/-- Two lists of tokens that each end once and are the same up to a place, which is not the end of
the input in either of them.  The tokens of the first one have different spans. -/
structure Shared (tokens others : List Token) (place : Nat) : Prop where
  ended : EndsOnce tokens
  otherEnded : EndsOnce others
  inside : place + 1 < tokens.length
  otherInside : place + 1 < others.length
  same : ∀ i ≤ place, tokens[i]? = others[i]?
  distinct : (tokens.map Token.span).Nodup

theorem current_get (position : Fin tokens.length) :
    (Stream.at tokens position).current = tokens.get position :=
  current_at position

namespace Shared

theorem token_eq (shared : Shared tokens others place) {position : Fin tokens.length}
    {here : Fin others.length} (same : here.val = position) (le : position ≤ place) :
    others.get here = tokens.get position := by
  have index : others[here.val]? = tokens[position.val]? := by rw [same, shared.same position le]
  rw [List.getElem?_eq_getElem here.isLt, List.getElem?_eq_getElem position.isLt] at index
  exact Option.some.inj index

theorem last_eq (shared : Shared tokens others place) {position : Fin tokens.length}
    {here : Fin others.length} (same : here.val = position) (le : position ≤ place) :
    (Stream.at others here).last = (Stream.at tokens position).last := by
  have before : position.val - 1 < tokens.length := by omega
  have there : here.val - 1 < others.length := by omega
  have both : others.get ⟨here - 1, there⟩ = tokens.get ⟨position - 1, before⟩ :=
    shared.token_eq (congrArg (· - 1) same) (Nat.le_trans (Nat.sub_le _ _) le)
  exact congrArg (·.span.stop) both

/-- The place of the other list with the same number. -/
def there (shared : Shared tokens others place) {position : Fin tokens.length}
    (le : position ≤ place) : Fin others.length :=
  ⟨position, by have := shared.otherInside; omega⟩

/-- A parser at a position moves on, and it does the same on the other list if it does not go beyond
the place.  If it refuses the token at the place, then it has not been behind it, and it refuses the
other list likewise. -/
def BlindAt (_shared : Shared tokens others place) (parser : Parse α)
    (position : Fin tokens.length) : Prop :=
  match parser (Stream.at tokens position) with
  | .ok (value, rest) => ∃ later, position ≤ later ∧ rest = Stream.at tokens later ∧
      (later ≤ place → ∀ here there : Fin others.length, here.val = position → there.val = later →
        parser (Stream.at others here) = .ok (value, Stream.at others there))
  | .error (.refused cause span) =>
      IsLocal cause → tokens[place]?.map Token.span = some span → position ≤ place ∧
        ∀ here : Fin others.length, here.val = position →
          parser (Stream.at others here) = .error (.refused cause span)
  | .error .tooDeep => True

/-- A parser that is blind to what stands behind the place, wherever it starts. -/
def Blind (shared : Shared tokens others place) (parser : Parse α) : Prop :=
  ∀ position, shared.BlindAt parser position

namespace BlindAt

variable {shared : Shared tokens others place} {position : Fin tokens.length} {first : Parse α}
  {next : α → Parse β}

theorem pure {value : α} : shared.BlindAt (pure value) position :=
  ⟨position, Nat.le_refl _, rfl, fun _ _ _ same same' => by
    rw [Fin.ext (same.trans same'.symm)]
    rfl⟩

theorem refuseDepth : shared.BlindAt (refuseDepth : Parse α) position :=
  trivial

/-- An error that is not located at a single token. -/
theorem throw {cause : Cause} {span : Span} (wide : ¬ IsLocal cause) :
    shared.BlindAt (throw (.refused cause span) : Parse α) position :=
  fun single => absurd single wide

/-- An error that is located at the current token. -/
theorem refusing {parser : Parse α} (cause : Cause)
    (run : parser (Stream.at tokens position) = .error (.refused cause (tokens.get position).span))
    (follows : position ≤ place → ∀ here : Fin others.length, here.val = position →
      parser (Stream.at others here) = .error (.refused cause (tokens.get position).span)) :
    shared.BlindAt parser position := by
  unfold BlindAt
  rw [run]
  intro _ located
  have inside := shared.inside
  have less : place < tokens.length := by omega
  rw [List.getElem?_eq_getElem less, Option.map_some] at located
  have spans : (tokens.map Token.span).get ⟨position, by simp⟩ =
      (tokens.map Token.span).get ⟨place, by simpa using less⟩ := by
    simpa using (Option.some.inj located).symm
  have here := Nat.le_of_eq (shared.distinct.getElem_inj_iff.mp spans)
  exact ⟨here, follows here⟩

/-- A parser that does what a blind one does is blind. -/
theorem congr {parser other : Parse α}
    (same : parser (Stream.at tokens position) = other (Stream.at tokens position))
    (sameThere : position ≤ place → ∀ here : Fin others.length, here.val = position →
      parser (Stream.at others here) = other (Stream.at others here))
    (blind : shared.BlindAt other position) : shared.BlindAt parser position := by
  unfold BlindAt at blind ⊢
  rw [same]
  split at blind
  · obtain ⟨later, le, rest_eq, follows⟩ := blind
    refine ⟨later, le, rest_eq, fun inside here there hereEq thereEq => ?_⟩
    rw [sameThere (Nat.le_trans le inside) here hereEq]
    exact follows inside here there hereEq thereEq
  · intro single located
    obtain ⟨le, refuses⟩ := blind single located
    refine ⟨le, fun here hereEq => ?_⟩
    rw [sameThere le here hereEq]
    exact refuses here hereEq
  · trivial

/-- A step that is known to succeed on both lists. -/
theorem step {value : α} {later : Fin tokens.length}
    (run : first (Stream.at tokens position) = .ok (value, Stream.at tokens later))
    (le : position ≤ later)
    (follows : later ≤ place → ∀ here there : Fin others.length, here.val = position →
      there.val = later → first (Stream.at others here) = .ok (value, Stream.at others there))
    (after : shared.BlindAt (next value) later) : shared.BlindAt (first >>= next) position := by
  unfold BlindAt at after ⊢
  rw [bind_run run]
  split at after
  · obtain ⟨last, le', rest_eq, follows'⟩ := after
    refine ⟨last, Nat.le_trans le le', rest_eq, fun inside here there hereEq thereEq => ?_⟩
    have between : later ≤ place := Nat.le_trans le' inside
    rw [bind_run (follows between here (shared.there between) hereEq rfl)]
    exact follows' inside _ there rfl thereEq
  · intro single located
    obtain ⟨between, refuses⟩ := after single located
    refine ⟨Nat.le_trans le between, fun here hereEq => ?_⟩
    rw [bind_run (follows between here (shared.there between) hereEq rfl)]
    exact refuses _ rfl
  · trivial

theorem bind (before : shared.BlindAt first position)
    (after : ∀ value, shared.Blind (next value)) : shared.BlindAt (first >>= next) position := by
  unfold BlindAt at before
  split at before
  · rename_i value rest run
    obtain ⟨later, le, rfl, follows⟩ := before
    exact step run le follows (after value later)
  · rename_i cause span run
    unfold BlindAt
    rw [bind_run_error run]
    intro single located
    obtain ⟨le, refuses⟩ := before single located
    exact ⟨le, fun here hereEq => bind_run_error (refuses here hereEq)⟩
  · rename_i run
    unfold BlindAt
    rw [bind_run_error run]
    trivial

/-- A step whose result is changed at once. -/
theorem map {change : α → β} (before : shared.BlindAt first position) :
    shared.BlindAt (change <$> first) position :=
  bind before fun _ _ => pure

/-! ### Steps that look at tokens -/

theorem current {next : Token → Parse β}
    (after : shared.BlindAt (next (tokens.get position)) position) :
    shared.BlindAt (current >>= next) position :=
  step (by rw [current_run, current_get]) (Nat.le_refl _)
    (fun le here there same same' => by
      rw [current_run, current_get, shared.token_eq same le, Fin.ext (same.trans same'.symm)])
    after

theorem atSymbol {symbol : Symbol} {next : Bool → Parse β}
    (after : shared.BlindAt (next ((tokens.get position).isSymbol symbol)) position) :
    shared.BlindAt (atSymbol symbol >>= next) position :=
  step (by rw [atSymbol_run, current_get]) (Nat.le_refl _)
    (fun le here there same same' => by
      rw [atSymbol_run, current_get, shared.token_eq same le, Fin.ext (same.trans same'.symm)])
    after

/-- A look at the stream for the place where the last token that was taken stops. -/
theorem get {next : Stream → Parse β}
    (only : ∀ stream other : Stream, stream.last = other.last → next stream = next other)
    (after : shared.BlindAt (next (Stream.at tokens position)) position) :
    shared.BlindAt (MonadState.get >>= next) position := by
  refine congr (show _ = next (Stream.at tokens position) _ from rfl) (fun le here same => ?_) after
  rw [bind_run (get_run _), only _ _ (shared.last_eq same le)]

theorem spanFrom {start : Token} : shared.BlindAt (spanFrom start) position := by
  refine ⟨position, Nat.le_refl _, rfl, fun le here there same same' => ?_⟩
  rw [Fin.ext (same'.trans same.symm), spanFrom_run, shared.last_eq same le]

/-- A loop that is not cut short by its bound does the same on both lists if it does within
every common bound. -/
theorem loop {loop : Nat → Parse α} (ends : EndsItself tokens loop)
    (ends' : EndsItself others loop) (blind : ∀ bound, shared.BlindAt (loop bound) position) :
    shared.BlindAt (MonadState.get >>= fun stream => loop (stream.total + 1)) position := by
  refine congr ?_ (fun _ here _ => ?_) (blind (tokens.length + others.length))
  · rw [bind_run (get_run _)]
    exact ends position _ _ (by simp only [Stream.at]; omega) (by omega)
  · rw [bind_run (get_run _)]
    exact ends' here _ _ (by simp only [Stream.at]; omega) (by omega)

theorem loopThen {loop : Nat → Parse α} {next : α → Parse β} (ends : EndsItself tokens loop)
    (ends' : EndsItself others loop) (blind : ∀ bound, shared.BlindAt (loop bound) position)
    (after : ∀ value, shared.Blind (next value)) :
    shared.BlindAt (MonadState.get >>= fun stream => loop (stream.total + 1) >>= next)
      position := by
  have whole := bind (BlindAt.loop ends ends' blind) after
  rwa [bind_assoc] at whole

/-- Taking a token that does not end the input. -/
theorem advance (unfinished : (tokens.get position).isFinish = false) :
    shared.BlindAt advance position := by
  have ended := shared.ended
  refine ⟨⟨position + 1, ended.lt_of_unfinished unfinished⟩, Nat.le_succ _,
    advance_at ended unfinished, fun inside here there same same' => ?_⟩
  have token_eq := shared.token_eq same (Nat.le_of_succ_le inside)
  have unfinishedThere : (others.get here).isFinish = false := by rw [token_eq, unfinished]
  have next : there = ⟨here + 1, shared.otherEnded.lt_of_unfinished unfinishedThere⟩ :=
    Fin.ext (same'.trans (congrArg (· + 1) same.symm))
  rw [advance_run, advance_at shared.otherEnded unfinishedThere, current_get, current_get,
    token_eq, next]

/-- Taking a token that is known. -/
theorem take {lexical : Lexical} (found : (tokens.get position).lexical = lexical)
    (other : lexical ≠ .finish) : shared.BlindAt Parser.advance position :=
  advance (isFinish_of_ne (found ▸ other))

/-- Refusing the current token. -/
theorem unexpected {expected : String} :
    shared.BlindAt (unexpected expected : Parse α) position := by
  refine current ?_
  split
  · exact throw (by simp [IsLocal, Cause.code])
  · exact refusing _ rfl fun _ _ _ => rfl

theorem skipSymbol {symbol : Symbol} : shared.BlindAt (skipSymbol symbol) position := by
  refine atSymbol ?_
  split
  · rename_i found
    exact bind (advance (isFinish_of_isSymbol found)) fun _ _ => pure
  · exact pure

theorem takeSymbol {symbol : Symbol} : shared.BlindAt (takeSymbol symbol) position := by
  refine atSymbol ?_
  split
  · rename_i found
    exact advance (isFinish_of_isSymbol found)
  · exact unexpected

theorem takeName {expected : String} : shared.BlindAt (takeName expected) position := by
  refine current ?_
  split
  · rename_i path named
    exact bind (take named (by simp)) fun _ _ => pure
  · exact unexpected

/-- A name is refused after it has been taken, but before the next token is looked at. -/
theorem advanceRefuseDotted {expected path : String} {next : Token → Unit → Parse β}
    (unfinished : (tokens.get position).isFinish = false)
    (after : ∀ token, shared.Blind (next token ())) :
    shared.BlindAt
      (Parser.advance >>= fun token => refuseDotted expected path token >>= next token)
      position := by
  cases dotted : isDotted path with
  | true =>
      have refused (stream : Stream) :
          (Parser.advance >>= fun token => refuseDotted expected path token >>= next token) stream =
            .error (.refused (.unexpectedToken expected stream.current.render)
              stream.current.span) := by
        rw [bind_run (advance_run stream), refuseDotted, if_pos dotted]
        rfl
      refine refusing (.unexpectedToken expected (tokens.get position).render) ?_
        fun le here same => ?_
      · rw [refused, current_get]
      · rw [refused, current_get, shared.token_eq same le]
  | false =>
      have plain (token : Token) :
          refuseDotted expected path token >>= next token = next token () := by
        rw [refuseDotted, dotted]
        rfl
      simp only [plain]
      exact bind (advance unfinished) after

theorem takeNameRefuseDotted {expected plain : String} {next : String × Token → Unit → Parse β}
    (after : ∀ named, shared.Blind (next named ())) :
    shared.BlindAt (Parser.takeName expected >>= fun named =>
      refuseDotted plain named.1 named.2 >>= next named) position := by
  rw [Parser.takeName, bind_assoc]
  refine current ?_
  split
  · rename_i path named
    simp only [bind_assoc, pure_bind]
    have unfinished : (tokens.get position).isFinish = false :=
      isFinish_of_ne (by rw [named]; simp)
    exact advanceRefuseDotted unfinished fun token => after (path, token)
  · exact congr (unexpected_bind _ _ _) (fun _ _ _ => unexpected_bind _ _ _) unexpected

end BlindAt

/-! ## Loops of the grammar -/

/-- The levels of the grammar within an allowance are blind. -/
structure GrammarBlind (shared : Shared tokens others place) (allowance : Nat) : Prop where
  expression : shared.Blind (expression allowance)
  binary : ∀ least, shared.Blind (binary allowance least)
  unary : shared.Blind (unary allowance)
  primary : shared.Blind (primary allowance)
  statement : ∀ inLoop, shared.Blind (statement allowance inLoop)

section Loops

variable {shared : Shared tokens others place} {allowance : Nat}

theorem climb_blind (lower : shared.GrammarBlind allowance) (least : Nat) (left : Expr) :
    shared.Blind
      (get >>= fun stream => climb (binary allowance) least (stream.total + 1) left) := by
  intro position
  refine .loop ((loopsEnd shared.ended allowance).climb least left)
    ((loopsEnd shared.otherEnded allowance).climb least left) fun bound => ?_
  induction bound generalizing left position with
  | zero => exact .pure
  | succ bound ih =>
      refine .current ?_
      split
      · exact .pure
      · rename_i operator found
        split
        · exact .pure
        · refine .bind (.advance (isFinish_of_operatorOf? found)) fun _ next => ?_
          exact .bind (lower.binary _ next) fun right later => ih _ later

theorem items_blind (lower : shared.GrammarBlind allowance) (closing : Symbol) :
    shared.Blind (items closing (expression allowance)) := by
  intro position
  refine .loop ((loopsEnd shared.ended allowance).items closing [])
    ((loopsEnd shared.otherEnded allowance).items closing []) fun bound => ?_
  generalize ([] : List Expr) = read
  induction bound generalizing read position with
  | zero => exact .bind .takeSymbol fun _ _ => .pure
  | succ bound ih =>
      refine .atSymbol ?_
      split
      · rename_i found
        exact .bind (.advance (isFinish_of_isSymbol found)) fun _ _ => .pure
      · refine .bind (lower.expression position) fun next after => ?_
        refine .bind .skipSymbol fun found rest => ?_
        split
        · exact ih rest _
        · exact .bind .takeSymbol fun _ _ => .pure

theorem applications_blind (lower : shared.GrammarBlind allowance) (callee : Expr) :
    shared.Blind (get >>= fun stream =>
      applications (expression allowance) (stream.total + 1) callee) := by
  intro position
  refine .loop ((loopsEnd shared.ended allowance).applications callee)
    ((loopsEnd shared.otherEnded allowance).applications callee) fun bound => ?_
  induction bound generalizing callee position with
  | zero => exact .pure
  | succ bound ih =>
      refine .bind .skipSymbol fun called inner => ?_
      split
      · refine .bind (items_blind lower .closeParen inner) fun arguments later => ?_
        exact .get (fun _ _ same => by simp only [same]) (ih _ later)
      · refine .bind .skipSymbol fun indexed inside => ?_
        split
        · refine .bind (lower.expression inside) fun index after => ?_
          refine .bind .takeSymbol fun _ later => ?_
          exact .get (fun _ _ same => by simp only [same]) (ih _ later)
        · exact .pure

theorem params_blind : shared.Blind params := by
  intro position
  refine .bind .takeSymbol fun _ here => ?_
  refine .loop ((loopsEnd shared.ended 0).params [])
    ((loopsEnd shared.otherEnded 0).params []) fun bound => ?_
  generalize ([] : List String) = read
  induction bound generalizing read here with
  | zero => exact .bind .takeSymbol fun _ _ => .pure
  | succ bound ih =>
      refine .atSymbol ?_
      split
      · rename_i found
        exact .bind (.advance (isFinish_of_isSymbol found)) fun _ _ => .pure
      · refine .current ?_
        split
        · rename_i path named
          split
          · exact .unexpected
          · refine .bind (.take named nofun) fun _ next => ?_
            refine .bind .skipSymbol fun comma rest => ?_
            split
            · exact ih rest _
            · exact .bind .takeSymbol fun _ _ => .pure
        · exact .unexpected

theorem blockOf_blind (lower : shared.GrammarBlind allowance) (inLoop : Bool) :
    shared.Blind (blockOf (statement allowance inLoop)) := by
  intro position
  refine .bind .takeSymbol fun start here => ?_
  refine .loopThen ((loopsEnd shared.ended allowance).statements inLoop [])
    ((loopsEnd shared.otherEnded allowance).statements inLoop []) (fun bound => ?_)
    fun statements later => .bind .spanFrom fun _ _ => .pure
  generalize ([] : List Stmt) = read
  induction bound generalizing read here with
  | zero => exact .bind .takeSymbol fun _ _ => .pure
  | succ bound ih =>
      refine .bind .skipSymbol fun closed after => ?_
      split
      · exact .pure
      · refine .current ?_
        split
        · exact .throw (by simp [IsLocal, Cause.code])
        · exact .bind (lower.statement inLoop after) fun next rest => ih rest _

theorem parenthesized_blind (lower : shared.GrammarBlind allowance) :
    shared.Blind (parenthesized (expression allowance)) := by
  intro position
  refine .bind .takeSymbol fun _ inner => ?_
  exact .bind (lower.expression inner) fun _ after => .bind .takeSymbol fun _ _ => .pure

theorem constructRest_blind (lower : shared.GrammarBlind allowance) :
    shared.Blind (constructRest (expression allowance)) := by
  intro position
  refine .bind .takeName fun named next => .bind .takeSymbol fun _ inner => ?_
  exact .bind (items_blind lower .closeParen inner) fun _ _ => .pure

end Loops

/-! ## Levels of the grammar -/

section Levels

variable {shared : Shared tokens others place} {allowance : Nat}

theorem expression_blind (lower : shared.GrammarBlind allowance) :
    shared.Blind (expression (allowance + 2)) := by
  intro position
  refine .bind (lower.binary 1 position) fun target middle => ?_
  refine .bind .skipSymbol fun assigned next => ?_
  split
  · refine .bind (lower.expression next) fun value later => ?_
    split
    · exact .pure
    · exact .throw (by simp [IsLocal, Cause.code])
  · exact .pure

theorem binary_blind (lower : shared.GrammarBlind allowance) (least : Nat) :
    shared.Blind (binary (allowance + 1) least) := fun position =>
  .bind (lower.unary position) fun left middle => climb_blind lower least left middle

theorem unary_blind (lower : shared.GrammarBlind allowance) :
    shared.Blind (unary (allowance + 1)) := by
  intro position
  refine .current ?_
  split
  · rename_i operator found
    refine .bind (.advance (isFinish_of_prefixOf? found)) fun start next => ?_
    exact .bind (lower.unary next) fun operand later => .pure
  · exact .bind (lower.primary position) fun callee middle => applications_blind lower callee middle

theorem primary_blind (lower : shared.GrammarBlind allowance) :
    shared.Blind (primary (allowance + 2)) := by
  intro position
  refine .current ?_
  split
  case h_6 => exact parenthesized_blind lower position
  case h_11 => exact .unexpected
  all_goals
    rename_i found
    refine .bind (.take found nofun) fun _ next => ?_
  iterate 5 exact .pure
  · exact .bind (items_blind lower _ next) fun elements later => .bind .spanFrom fun _ _ => .pure
  · refine .bind (params_blind next) fun params opened => ?_
    exact .bind (blockOf_blind lower false opened) fun block later =>
      .bind .spanFrom fun _ _ => .pure
  · exact .bind (parenthesized_blind lower next) fun path later => .bind .spanFrom fun _ _ => .pure
  · exact .bind (constructRest_blind lower next) fun parts later => .bind .spanFrom fun _ _ => .pure

/-- What ends a statement that a semicolon may close. -/
theorem closing_blind {start : Token} {build : Span → Stmt} :
    shared.Blind (skipSymbol .semicolon >>= fun _ => spanFrom start >>= fun span =>
      pure (build span)) := fun _ =>
  .bind .skipSymbol fun _ _ => .bind .spanFrom fun _ _ => .pure

/-- A jump outside of a loop is refused before the token behind it is looked at. -/
theorem jump_blind (word : Keyword) {position : Fin tokens.length}
    (found : (tokens.get position).lexical = .keyword word) (inLoop : Bool) {jump : Stmt} :
    shared.BlindAt (advance >>= fun _ =>
      if inLoop = true then skipSymbol .semicolon >>= fun _ => pure jump
      else MonadExcept.throw (.refused (.outsideLoop word.text) (tokens.get position).span))
        position := by
  cases inLoop with
  | true => exact .bind (.take found nofun) fun _ next => .bind .skipSymbol fun _ _ => .pure
  | false => exact .refusing (.outsideLoop word.text) rfl fun _ _ _ => rfl

theorem statement_blind (lower : shared.GrammarBlind allowance) (inLoop : Bool) :
    shared.Blind (statement (allowance + 2) inLoop) := by
  intro position
  refine .current ?_
  dsimp only
  split
  case h_11 =>
    exact .bind (lower.expression position) fun value middle => .bind .skipSymbol fun _ _ => .pure
  case h_10 => exact .bind (blockOf_blind lower inLoop position) fun block later => .pure
  case h_6 =>
    rename_i found
    exact jump_blind .breakWord found inLoop
  case h_7 =>
    rename_i found
    exact jump_blind .continueWord found inLoop
  all_goals
    rename_i found
    refine .bind (.take found nofun) fun _ next => ?_
  · -- a declaration
    refine .takeNameRefuseDotted fun named after => .bind .skipSymbol fun assigned middle => ?_
    split
    · exact .bind (.map (lower.expression middle)) fun initial later => closing_blind later
    · exact .bind .pure fun initial later => closing_blind later
  · -- a conditional
    refine .bind (parenthesized_blind lower next) fun condition middle => ?_
    refine .bind (lower.statement inLoop middle) fun consequent after => .current ?_
    split
    · rename_i follows
      refine .bind (.advance (isFinish_of_isKeyword follows)) fun _ rest => ?_
      refine .bind (.map (lower.statement inLoop rest)) fun alternate later => ?_
      exact .bind .spanFrom fun _ _ => .pure
    · exact .bind .pure fun alternate later => .bind .spanFrom fun _ _ => .pure
  · -- a loop
    refine .bind (parenthesized_blind lower next) fun condition middle => ?_
    exact .bind (lower.statement true middle) fun body later => .bind .spanFrom fun _ _ => .pure
  · -- a function
    have rest_blind (name : Option String) (start : Token) :
        shared.Blind (params >>= fun params => blockOf (statement allowance false) >>= fun block =>
          spanFrom start >>= fun span => pure (Stmt.function span name params block.1)) := by
      intro here
      refine .bind (params_blind here) fun params opened => ?_
      refine .bind (blockOf_blind lower false opened) fun block later => ?_
      exact .bind .spanFrom fun _ _ => .pure
    refine .current ?_
    split
    · rename_i path named
      refine .advanceRefuseDotted (isFinish_of_ne (named ▸ nofun)) fun token here => ?_
      exact .bind .pure fun name later => rest_blind name _ later
    · exact .bind .pure fun name later => rest_blind name _ later
  · -- a result
    refine .current ?_
    split
    · exact .bind .pure fun value later => closing_blind later
    · exact .bind (.map (lower.expression next)) fun value later => closing_blind later
  · exact .bind (constructRest_blind lower next) fun parts later => closing_blind later
  · exact .bind (parenthesized_blind lower next) fun path later => closing_blind later

theorem grammarBlind (shared : Shared tokens others place) (allowance : Nat) :
    shared.GrammarBlind allowance := by
  induction allowance using Nat.strongRecOn with
  | ind allowance lower =>
      match allowance, lower with
      | 0, _ =>
          exact ⟨fun _ => .refuseDepth, fun _ _ => .refuseDepth, fun _ => .refuseDepth,
            fun _ => .refuseDepth, fun _ _ => .refuseDepth⟩
      | 1, lower =>
          have one := lower 0 (by omega)
          exact ⟨fun _ => .refuseDepth, binary_blind one, unary_blind one, fun _ => .refuseDepth,
            fun _ _ => .refuseDepth⟩
      | allowance + 2, lower =>
          have one := lower (allowance + 1) (by omega)
          have two := lower allowance (by omega)
          exact ⟨expression_blind two, binary_blind one, unary_blind one, primary_blind two,
            statement_blind two⟩

/-! ## Programs -/

theorem program_blind (shared : Shared tokens others place) (allowance : Nat)
    (file : Option String) : shared.Blind (program allowance file) := by
  intro position
  refine .current ?_
  refine .loopThen ((loopsEnd shared.ended allowance).toEnd false [])
    ((loopsEnd shared.otherEnded allowance).toEnd false []) (fun bound => ?_) fun body later => ?_
  · generalize ([] : List Stmt) = read
    induction bound generalizing read position with
    | zero => exact .pure
    | succ bound ih =>
        refine .current ?_
        split
        · exact .pure
        · exact .bind ((shared.grammarBlind allowance).statement false position)
            fun next rest => ih rest _
  · split
    · exact .bind .pure fun span last => .pure
    · exact .bind .spanFrom fun span last => .pure

end Levels

end Shared

/-- The name of the file is only written into the program. -/
theorem program_file (allowance : Nat) (file other : Option String) :
    program allowance other =
      (fun read => { read with file := other }) <$> program allowance file := by
  simp only [program, map_bind]
  refine bind_congr fun start => bind_congr fun stream => bind_congr fun body => ?_
  split <;> simp

/-- A program that is refused within some allowance is refused likewise within every larger one and
within every one that suffices for so many tokens, in any file. -/
theorem program_refused (ended : EndsOnce tokens) {allowance more : Nat}
    (enough : allowance ≤ more ∨ ampleAllowance tokens ≤ more) {file other : Option String}
    {first : Fin tokens.length} {cause : Cause} {span : Span}
    (run : program allowance file (Stream.at tokens first) = .error (.refused cause span)) :
    program more other (Stream.at tokens first) = .error (.refused cause span) := by
  have larger (le : allowance ≤ more) :
      program more file (Stream.at tokens first) = .error (.refused cause span) := by
    rcases program_below le file (Stream.at tokens first) with deep | same
    · rw [run] at deep
      cases deep
    · rw [← same, run]
  have here : program more file (Stream.at tokens first) = .error (.refused cause span) := by
    rcases Nat.le_total allowance more with le | le
    · exact larger le
    · rcases program_below le file (Stream.at tokens first) with deep | same
      · rcases enough with le' | ample
        · exact larger le'
        · have settles : Settles tokens _ (program more file) first _ :=
            program_moves ended first file
          unfold Settles at settles
          rw [deep] at settles
          unfold ampleAllowance at ample
          omega
      · rw [same, run]
  rw [program_file more file other, map_eq_pure_bind]
  exact bind_run_error here

theorem parse_script_error {allowance : Nat} {stream : Stream} {file source : Option String}
    {error : ScriptError} :
    parse allowance stream file source = .error (.script error) ↔
      ∃ cause span, program allowance file stream = .error (.refused cause span) ∧
        error = { cause := cause, span := some span,
                  sourceLine := quotedLine source cause span } := by
  unfold parse StateT.run
  cases program allowance file stream with
  | ok read => simp
  | error failure =>
      cases failure with
      | tooDeep => simp
      | refused cause span =>
          constructor
          · rintro ⟨⟩
            exact ⟨cause, span, rfl, rfl⟩
          · rintro ⟨_, _, ⟨⟩, rfl⟩
            rfl

/-- Tokens that are the same, and do not end the input, up to a place. -/
theorem Shared.of_take (ended : EndsOnce tokens) (otherEnded : EndsOnce others)
    (present : place < tokens.length) (same : tokens.take (place + 1) = others.take (place + 1))
    (unfinished : ∀ token ∈ tokens.take (place + 1), token.isFinish = false)
    (distinct : (tokens.map Token.span).Nodup) : Shared tokens others place := by
  have each (i : Nat) (le : i ≤ place) : tokens[i]? = others[i]? := by
    have both := congrArg (·[i]?) same
    simpa [List.getElem?_take, Nat.lt_succ_of_le le] using both
  have presentThere : place < others.length := by
    have lengths := congrArg List.length same
    simp only [List.length_take] at lengths
    omega
  have lt_of_unfinished {list : List Token} (ended : EndsOnce list) (less : place < list.length)
      (unfinished : list[place].isFinish = false) : place + 1 < list.length :=
    ended.lt_of_unfinished
      (show list[(⟨place, less⟩ : Fin list.length)].isFinish = false from unfinished)
  have here : tokens[place].isFinish = false := by
    refine unfinished _ (List.mem_iff_getElem.mpr ⟨place, ?_, ?_⟩)
    · simp only [List.length_take]
      omega
    · simp
  have there : others[place].isFinish = false := by
    have both := each place (Nat.le_refl _)
    rw [List.getElem?_eq_getElem present, List.getElem?_eq_getElem presentThere] at both
    rw [← Option.some.inj both, here]
  exact
    { ended := ended
      otherEnded := otherEnded
      inside := lt_of_unfinished ended present here
      otherInside := lt_of_unfinished otherEnded presentThere there
      same := each
      distinct := distinct }

/-- The parser never looks behind the token that it complains about.  If it refuses a list of
tokens with an error that is located at one of them, since it is another one than was expected or
since it is a jump outside of a loop, then it refuses every list that is the same up to this token
with the same error, but for the line that is quoted.  The allowance may be larger, or the one for
so many tokens. -/
theorem parse_refuses_alike (ended : EndsOnce tokens) (otherEnded : EndsOnce others)
    (present : place < tokens.length) (same : tokens.take (place + 1) = others.take (place + 1))
    (unfinished : ∀ token ∈ tokens.take (place + 1), token.isFinish = false)
    (distinct : (tokens.map Token.span).Nodup) {stream stream' : Stream}
    (opened : Stream.ofTokens? tokens = some stream)
    (opened' : Stream.ofTokens? others = some stream') {allowance more : Nat}
    (enough : allowance ≤ more ∨ ampleAllowance others ≤ more)
    {file file' source source' : Option String} {error : ScriptError}
    (refused : parse allowance stream file source = .error (.script error))
    (code : error.cause.code = "E101" ∨ error.cause.code = "E104")
    (located : error.span = some tokens[place].span) :
    parse more stream' file' source' = .error (.script
      { error with sourceLine := quotedLine source' error.cause tokens[place].span }) := by
  have shared := Shared.of_take ended otherEnded present same unfinished distinct
  obtain ⟨first, isFirst, open_eq⟩ := ended.ofTokens?
  obtain ⟨first', isFirst', open_eq'⟩ := otherEnded.ofTokens?
  obtain rfl := Option.some.inj (opened.symm.trans open_eq)
  obtain rfl := Option.some.inj (opened'.symm.trans open_eq')
  obtain ⟨cause, span, run, rfl⟩ := parse_script_error.mp refused
  obtain rfl := Option.some.inj located
  have blind := shared.program_blind allowance file first
  unfold Shared.BlindAt at blind
  rw [run] at blind
  obtain ⟨-, follows⟩ := blind code
    (by rw [List.getElem?_eq_getElem present, Option.map_some])
  have again := follows first' (isFirst'.trans isFirst.symm)
  exact parse_script_error.mpr ⟨cause, _, program_refused otherEnded enough again, rfl⟩

/-- A token of one character on the first line. -/
def shortToken (lexical : Lexical) (lexeme : String) (offset : Nat) : Token :=
  ⟨lexical, lexeme, ⟨{ column := offset + 1, offset := offset },
    { column := offset + 2, offset := offset + 1 }⟩⟩

/-- An assignment that lacks its value, and what stands behind it. -/
def emptyAssignment (behind : List Token) : List Token :=
  [shortToken (.name "x") "x" 0, shortToken (.symbol .assign) "=" 1,
    shortToken (.symbol .semicolon) ";" 2] ++ behind

theorem parse_refuses_alike_emptyAssignment :
    let brief := emptyAssignment [shortToken .finish "" 3]
    let longer := emptyAssignment
      [shortToken (.symbol .closeBrace) "\x7d" 3, shortToken .finish "" 4]
    let error : ScriptError :=
      { cause := .unexpectedToken "expression" "';'", span := some brief[2].span }
    ∃ stream stream',
      (EndsOnce brief ∧ EndsOnce longer) ∧
      (brief.take 3 = longer.take 3 ∧ ∀ token ∈ brief.take 3, token.isFinish = false) ∧
      (brief.map Token.span).Nodup ∧
      (Stream.ofTokens? brief = some stream ∧ Stream.ofTokens? longer = some stream') ∧
      parse 20 stream none none = .error (.script error) ∧
      parse 20 stream' none none = .error (.script error) := by
  intro brief longer error
  have ended : EndsOnce brief := ⟨⟨_, rfl, rfl⟩, by decide⟩
  have otherEnded : EndsOnce longer := ⟨⟨_, rfl, rfl⟩, by decide⟩
  have unfinished : ∀ token ∈ brief.take 3, token.isFinish = false := by decide
  have distinct : (brief.map Token.span).Nodup := by decide
  obtain ⟨stream, opened, refused⟩ : ∃ stream, Stream.ofTokens? brief = some stream ∧
      parse 20 stream none none = .error (.script error) := ⟨_, rfl, rfl⟩
  obtain ⟨stream', opened'⟩ : ∃ stream', Stream.ofTokens? longer = some stream' := ⟨_, rfl⟩
  have again : parse 20 stream' none none = .error (.script error) :=
    parse_refuses_alike ended otherEnded (show 2 < brief.length by decide) rfl unfinished distinct
      opened opened' (.inl (Nat.le_refl 20)) refused (.inl rfl) rfl
  exact ⟨stream, stream', ⟨ended, otherEnded⟩, ⟨rfl, unfinished⟩, distinct,
    ⟨opened, opened'⟩, refused,
    again⟩

end Parser
end Scriptlet
