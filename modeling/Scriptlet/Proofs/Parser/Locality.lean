import Scriptlet.Proofs.Parser.Outcome

/-!
# Parsers in front of other tokens

What a parser makes of its tokens does not depend on what stands behind them.  Two runs are
compared: one on a stream, and one on the same tokens with a tail behind them, within an allowance
that may be larger.  If the first run succeeds and leaves enough tokens, the second run gives the
same result and leaves the same tokens in front of the tail.

`ahead` is the number of tokens that must be left, one for a parser that looks at the token after
what it takes and zero for a parser that ends with a closing token.  `taken` is a number of tokens
that are always taken; it keeps the loops within their bounds.  Operands look out for the brackets
of calls and indices only, so they need no token left if the tail does not open such a bracket.
-/

namespace Scriptlet
namespace Parser

/-- What stands behind the tokens of an operand, up to the end of the input: it extends the operand
neither by a call nor by an index. -/
structure Tail where
  tokens : List Token
  finish : Token
  total : Nat
  isFinish : finish.isFinish = true
  noCall : (tokens.headD finish).isSymbol .openParen = false
  noIndex : (tokens.headD finish).isSymbol .openBracket = false

namespace Tail

variable (tail : Tail)

/-- A stream with the tail behind it. -/
def behind (stream : Stream) : Stream :=
  ⟨stream.rest ++ tail.tokens, tail.finish, stream.last, tail.total⟩

/-- The bounds of all loops exceed the tokens that are left, with and without the tail. -/
structure Fits (stream : Stream) : Prop where
  isFinish : stream.finish.isFinish = true
  length_le : stream.rest.length ≤ stream.total
  behind_le : stream.rest.length + tail.tokens.length ≤ tail.total

variable {tail} {stream : Stream}

theorem behind_current (left : stream.rest ≠ []) :
    (tail.behind stream).current = stream.current := by
  unfold behind Stream.current
  cases rest_eq : stream.rest with
  | nil => exact absurd rest_eq left
  | cons token rest => rfl

theorem behind_advance (left : stream.rest ≠ []) :
    (tail.behind stream).advance = tail.behind stream.advance := by
  cases rest_eq : stream.rest with
  | nil => exact absurd rest_eq left
  | cons token rest =>
      simp only [behind, Stream.advance, rest_eq, List.cons_append]
      split <;> simp [rest_eq]

theorem behind_skipSymbol (left : stream.rest ≠ []) {symbol : Symbol} {found : Bool}
    {rest : Stream} (run : skipSymbol symbol stream = .ok (found, rest)) :
    skipSymbol symbol (tail.behind stream) = .ok (found, tail.behind rest) := by
  have same : (tail.behind stream).current = stream.current := behind_current left
  cases here : stream.current.isSymbol symbol with
  | true =>
      rw [skipSymbol_run_of_isSymbol here] at run
      cases run
      rw [skipSymbol_run_of_isSymbol (by rwa [same]), behind_advance left]
  | false =>
      rw [skipSymbol_run_of_not_isSymbol here] at run
      cases run
      rw [skipSymbol_run_of_not_isSymbol (by rwa [same])]

/-- With nothing left, the tail begins. -/
theorem behind_current_of_nil (empty : stream.rest = []) :
    (tail.behind stream).current = tail.tokens.headD tail.finish := by
  simp [behind, Stream.current, empty]

theorem Fits.rest_ne_nil (fits : tail.Fits stream) (unfinished : stream.current.isFinish = false) :
    stream.rest ≠ [] := by
  intro empty
  rw [Stream.current, empty, List.headD_nil, fits.isFinish] at unfinished
  cases unfinished

theorem Fits.advance (fits : tail.Fits stream) (unfinished : stream.current.isFinish = false) :
    tail.Fits stream.advance ∧ stream.advance.rest.length + 1 = stream.rest.length := by
  have left := fits.rest_ne_nil unfinished
  cases rest_eq : stream.rest with
  | nil => exact absurd rest_eq left
  | cons token rest =>
      have token_unfinished : token.isFinish = false := by
        simpa [Stream.current, rest_eq] using unfinished
      have room := fits.length_le
      have wide := fits.behind_le
      simp only [rest_eq, List.length_cons] at room wide
      simp only [Stream.advance, rest_eq, token_unfinished, Bool.false_eq_true, if_false,
        List.length_cons, and_true]
      exact ⟨fits.isFinish, by dsimp only; omega, by dsimp only; omega⟩

end Tail

/-- A parser on a stream and another one on the same stream with the tail behind it: if the first
succeeds, it takes some tokens, and the second gives the same if enough tokens are left. -/
def Agrees {α : Type} (tail : Tail) (ahead taken : Nat) (parser other : Parse α)
    (stream : Stream) : Prop :=
  ∀ value rest, parser stream = .ok (value, rest) →
    tail.Fits rest ∧ rest.rest.length + taken ≤ stream.rest.length ∧
      (ahead ≤ rest.rest.length → other (tail.behind stream) = .ok (value, tail.behind rest))

namespace Agrees

variable {α β γ : Type} {tail : Tail} {stream : Stream} {ahead taken ahead' taken' : Nat}
variable {parser other : Parse α} {next next' : α → Parse β}

theorem pure {value : α} (fits : tail.Fits stream) :
    Agrees tail ahead 0 (pure value) (pure value) stream := by
  intro result rest run
  cases run
  exact ⟨fits, Nat.le_refl _, fun _ => rfl⟩

/-- A parser that fails agrees with every other. -/
theorem throw {failure : Failure} : Agrees tail ahead taken (throw failure) other stream := by
  intro result rest run
  cases run

theorem unexpected {expected : String} :
    Agrees tail ahead taken (unexpected expected) other stream := by
  have fails : Yields (Parser.unexpected expected) stream fun (_ : α) _ => False := .unexpected
  exact fun value rest run => (fails value rest run).elim

/-- Fewer tokens than are taken are taken. -/
theorem fewer (agrees : Agrees tail ahead (taken + 1) parser other stream) :
    Agrees tail ahead taken parser other stream := by
  intro value rest run
  obtain ⟨fits, less, same⟩ := agrees value rest run
  exact ⟨fits, by omega, same⟩

/-- More tokens than are needed may be left. -/
theorem further (agrees : Agrees tail 0 taken parser other stream) :
    Agrees tail 1 taken parser other stream := by
  intro value rest run
  obtain ⟨fits, less, same⟩ := agrees value rest run
  exact ⟨fits, less, fun _ => same (Nat.zero_le _)⟩

/-- Two steps in turn: what the first must leave is taken or left by the second. -/
theorem bind (before : Agrees tail ahead' taken' parser other stream)
    (enough : ahead' ≤ ahead + taken)
    (after : ∀ value rest, tail.Fits rest → rest.rest.length + taken' ≤ stream.rest.length →
      Agrees tail ahead taken (next value) (next' value) rest) :
    Agrees tail ahead (taken + taken') (parser >>= next) (other >>= next') stream := by
  intro result rest run
  cases outcome : parser stream with
  | error failure =>
      change (parser stream >>= fun pair => next pair.1 pair.2) = _ at run
      rw [outcome] at run
      cases run
  | ok pair =>
      rw [bind_run outcome] at run
      obtain ⟨middleFits, middle_less, first⟩ := before _ _ outcome
      obtain ⟨fits, less, second⟩ := after _ _ middleFits middle_less result rest run
      refine ⟨fits, by omega, fun left => ?_⟩
      rw [bind_run (first (by omega))]
      exact second left

/-- A step whose result is changed at once. -/
theorem bindMap {change : α → γ} {last last' : γ → Parse β}
    (before : Agrees tail ahead' taken' parser other stream) (enough : ahead' ≤ ahead + taken)
    (after : ∀ value rest, tail.Fits rest → rest.rest.length + taken' ≤ stream.rest.length →
      Agrees tail ahead taken (last (change value)) (last' (change value)) rest) :
    Agrees tail ahead (taken + taken') (change <$> parser >>= last) (change <$> other >>= last')
      stream := by
  rw [bind_map_left, bind_map_left]
  exact bind before enough after

/-- A look at the state of the stream. -/
theorem get {next next' : Stream → Parse β}
    (after : Agrees tail ahead taken (next stream) (next' (tail.behind stream)) stream) :
    Agrees tail ahead taken (get >>= next) (get >>= next') stream := by
  intro result rest run
  rw [bind_run (get_run stream)] at run
  rw [bind_run (get_run _)]
  exact after result rest run

/-- A look at the current token, which must not belong to the tail. -/
theorem current (enough : 1 ≤ ahead + taken) {next next' : Token → Parse β}
    (after : Agrees tail ahead taken (next stream.current) (next' stream.current) stream) :
    Agrees tail ahead taken (current >>= next) (current >>= next') stream := by
  intro result rest run
  rw [bind_run (current_run stream)] at run
  obtain ⟨fits, less, agree⟩ := after result rest run
  refine ⟨fits, less, fun left => ?_⟩
  have present : stream.rest ≠ [] := List.ne_nil_of_length_pos (by omega)
  rw [bind_run (current_run _), Tail.behind_current present]
  exact agree left

theorem advance (fits : tail.Fits stream) (unfinished : stream.current.isFinish = false) :
    Agrees tail 0 1 advance advance stream := by
  intro token rest run
  cases run
  obtain ⟨laterFits, shorter⟩ := fits.advance unfinished
  have present := fits.rest_ne_nil unfinished
  refine ⟨laterFits, Nat.le_of_eq shorter, fun _ => ?_⟩
  rw [advance_run, Tail.behind_current present, Tail.behind_advance present]

theorem atSymbol {symbol : Symbol} (enough : 1 ≤ ahead + taken) {next next' : Bool → Parse β}
    (after : Agrees tail ahead taken (next (stream.current.isSymbol symbol))
      (next' (stream.current.isSymbol symbol)) stream) :
    Agrees tail ahead taken (atSymbol symbol >>= next) (atSymbol symbol >>= next') stream := by
  have looked : Agrees tail ahead taken
      (Parser.current >>= fun token => next (token.isSymbol symbol))
      (Parser.current >>= fun token => next' (token.isSymbol symbol)) stream :=
    current enough after
  simpa [Parser.atSymbol] using looked

theorem skipSymbol {symbol : Symbol} (fits : tail.Fits stream) :
    Agrees tail 1 0 (skipSymbol symbol) (skipSymbol symbol) stream := by
  refine atSymbol (Nat.le_refl _) ?_
  split
  · rename_i found
    refine (fewer ?_).further
    refine bind (advance fits (isFinish_of_isSymbol found)) (Nat.zero_le _) fun _ _ fits _ => ?_
    exact pure fits
  · exact (pure fits).further

/-- A symbol that is taken if it is there; if not, the other branch takes a token. -/
theorem skipOr {symbol : Symbol} (fits : tail.Fits stream) {next next' : Bool → Parse β}
    (found : tail.Fits stream.advance →
      Agrees tail ahead taken (next true) (next' true) stream.advance)
    (missing : Agrees tail ahead (taken + 1) (next false) (next' false) stream) :
    Agrees tail ahead (taken + 1) (Parser.skipSymbol symbol >>= next)
      (Parser.skipSymbol symbol >>= next') stream := by
  intro result rest run
  cases here : stream.current.isSymbol symbol with
  | true =>
      have unfinished := isFinish_of_isSymbol here
      obtain ⟨laterFits, shorter⟩ := fits.advance unfinished
      have skipped := skipSymbol_run_of_isSymbol here
      rw [bind_run skipped] at run
      obtain ⟨restFits, less, agree⟩ := found laterFits result rest run
      refine ⟨restFits, by omega, fun left => ?_⟩
      rw [bind_run (Tail.behind_skipSymbol (fits.rest_ne_nil unfinished) skipped)]
      exact agree left
  | false =>
      have skipped := skipSymbol_run_of_not_isSymbol here
      rw [bind_run skipped] at run
      obtain ⟨restFits, less, agree⟩ := missing result rest run
      refine ⟨restFits, less, fun left => ?_⟩
      have present : stream.rest ≠ [] := List.ne_nil_of_length_pos (by omega)
      rw [bind_run (Tail.behind_skipSymbol present skipped)]
      exact agree left

/-- A symbol that the tail does not open with may be looked for at the very end. -/
theorem skipAbsent {symbol : Symbol} (fits : tail.Fits stream)
    (absent : (tail.tokens.headD tail.finish).isSymbol symbol = false) :
    Agrees tail 0 0 (Parser.skipSymbol symbol) (Parser.skipSymbol symbol) stream := by
  intro found rest run
  obtain ⟨restFits, less, -⟩ := skipSymbol fits found rest run
  refine ⟨restFits, less, fun _ => ?_⟩
  by_cases empty : stream.rest = []
  · have missing : stream.current.isSymbol symbol = false :=
      Bool.eq_false_iff.mpr fun here => fits.rest_ne_nil (isFinish_of_isSymbol here) empty
    have missingBehind : (tail.behind stream).current.isSymbol symbol = false := by
      rwa [Tail.behind_current_of_nil empty]
    rw [skipSymbol_run_of_not_isSymbol missing] at run
    cases run
    exact skipSymbol_run_of_not_isSymbol missingBehind
  · exact Tail.behind_skipSymbol empty run

theorem takeSymbol {symbol : Symbol} (fits : tail.Fits stream) :
    Agrees tail 0 1 (takeSymbol symbol) (takeSymbol symbol) stream := by
  refine atSymbol (Nat.le_refl _) ?_
  split
  · rename_i found
    exact advance fits (isFinish_of_isSymbol found)
  · exact unexpected

theorem takeName {expected : String} (fits : tail.Fits stream) :
    Agrees tail 0 1 (takeName expected) (takeName expected) stream := by
  refine current (Nat.le_refl _) ?_
  split
  · rename_i path named
    have unfinished : stream.current.isFinish = false := isFinish_of_ne (by simp [named])
    exact bind (advance fits unfinished) (Nat.le_refl _) fun _ _ fits _ => pure fits
  · exact unexpected

theorem refuseDotted {expected path : String} {token : Token} (fits : tail.Fits stream) :
    Agrees tail 0 0 (refuseDotted expected path token) (refuseDotted expected path token)
      stream := by
  unfold Parser.refuseDotted
  split
  · exact throw
  · exact pure fits

theorem spanFrom {start : Token} (fits : tail.Fits stream) :
    Agrees tail 0 0 (spanFrom start) (spanFrom start) stream :=
  get (pure fits)

end Agrees

/-! ## Loops of the grammar -/

section Loops

variable {α : Type} {tail : Tail} {stream : Stream} {ahead taken : Nat}
variable {item item' : Parse Expr} {statement statement' : Parse Stmt}

/-- Two parsers agree on all streams within bounds. -/
def Agreeing (tail : Tail) (ahead taken : Nat) (parser other : Parse α) : Prop :=
  ∀ stream, tail.Fits stream → Agrees tail ahead taken parser other stream

/-- A chain of operators ends at the bound of its loop only if no token is left, and every round
takes an operator. -/
theorem climb_agrees {operand operand' : Nat → Parse Expr}
    (agreeing : ∀ least, Agreeing tail 1 1 (operand least) (operand' least)) (least : Nat)
    {bound bound' : Nat} (left : Expr) (fits : tail.Fits stream)
    (inside : stream.rest.length < bound)
    (inside' : stream.rest.length + tail.tokens.length < bound') :
    Agrees tail 1 0 (climb operand least bound left) (climb operand' least bound' left) stream := by
  induction bound generalizing bound' left stream with
  | zero => omega
  | succ bound ih =>
      obtain ⟨bound', rfl⟩ : ∃ less, bound' = less + 1 := ⟨bound' - 1, by omega⟩
      refine .current (Nat.le_refl _) ?_
      cases found : operatorOf? stream.current with
      | none => exact (Agrees.pure fits).further
      | some operator =>
          dsimp only
          split
          · exact (Agrees.pure fits).further
          · have unfinished := isFinish_of_operatorOf? found
            refine Agrees.fewer (.bind (.advance fits unfinished) (Nat.zero_le _) ?_)
            intro _ rest fits less
            refine Agrees.fewer (.bind (agreeing _ rest fits) (Nat.le_refl _) ?_)
            intro right rest fits less
            exact ih _ fits (by omega) (by omega)

theorem itemsUpTo_agrees (agreeing : Agreeing tail 1 1 item item') (closing : Symbol)
    {bound bound' : Nat} (read : List Expr) (fits : tail.Fits stream)
    (inside : stream.rest.length < bound)
    (inside' : stream.rest.length + tail.tokens.length < bound') :
    Agrees tail 0 1 (itemsUpTo closing item bound read) (itemsUpTo closing item' bound' read)
      stream := by
  induction bound generalizing bound' read stream with
  | zero => omega
  | succ bound ih =>
      obtain ⟨bound', rfl⟩ : ∃ less, bound' = less + 1 := ⟨bound' - 1, by omega⟩
      refine .atSymbol (Nat.le_refl _) ?_
      split
      · rename_i found
        refine .bind (.advance fits (isFinish_of_isSymbol found)) (Nat.zero_le _) ?_
        exact fun _ _ fits _ => .pure fits
      · refine Agrees.fewer (.bind (agreeing stream fits) (by omega) ?_)
        intro next rest fits less
        refine .bind (.skipSymbol fits) (Nat.le_refl _) fun more rest fits less => ?_
        split
        · exact ih _ fits (by omega) (by omega)
        · exact .bind (.takeSymbol fits) (Nat.zero_le _) fun _ _ fits _ => .pure fits

theorem items_agrees (agreeing : Agreeing tail 1 1 item item') (closing : Symbol) :
    Agreeing tail 0 1 (items closing item) (items closing item') := by
  intro stream fits
  refine .get (itemsUpTo_agrees agreeing closing [] fits ?_ ?_)
  · exact Nat.lt_succ_of_le fits.length_le
  · exact Nat.lt_succ_of_le fits.behind_le

/-- The tail opens neither a call nor an index, so calls and indices end in front of it. -/
theorem applications_agrees (agreeing : Agreeing tail 1 1 item item') {bound bound' : Nat}
    (callee : Expr) (fits : tail.Fits stream) (inside : stream.rest.length < bound)
    (inside' : stream.rest.length + tail.tokens.length < bound') :
    Agrees tail 0 0 (applications item bound callee) (applications item' bound' callee)
      stream := by
  induction bound generalizing bound' callee stream with
  | zero => omega
  | succ bound ih =>
      obtain ⟨bound', rfl⟩ : ∃ less, bound' = less + 1 := ⟨bound' - 1, by omega⟩
      refine .bind (.skipAbsent fits tail.noCall) (Nat.le_refl _) fun called rest fits less => ?_
      split
      · refine Agrees.fewer (.bind (items_agrees agreeing _ rest fits) (Nat.le_refl _) ?_)
        intro arguments rest fits less
        exact .get (ih _ fits (by omega) (by omega))
      · refine .bind (.skipAbsent fits tail.noIndex) (Nat.le_refl _) ?_
        intro indexed rest fits less
        split
        · refine Agrees.fewer (Agrees.fewer (.bind (agreeing rest fits) (Nat.le_refl _) ?_))
          intro index rest fits less
          refine .bind (.takeSymbol fits) (Nat.zero_le _) fun _ rest fits less => ?_
          exact .get (ih _ fits (by omega) (by omega))
        · exact .pure fits

theorem paramsUpTo_agrees {bound bound' : Nat} (read : List String) (fits : tail.Fits stream)
    (inside : stream.rest.length < bound)
    (inside' : stream.rest.length + tail.tokens.length < bound') :
    Agrees tail 0 1 (paramsUpTo bound read) (paramsUpTo bound' read) stream := by
  induction bound generalizing bound' read stream with
  | zero => omega
  | succ bound ih =>
      obtain ⟨bound', rfl⟩ : ∃ less, bound' = less + 1 := ⟨bound' - 1, by omega⟩
      refine .atSymbol (Nat.le_refl _) ?_
      split
      · rename_i found
        refine .bind (.advance fits (isFinish_of_isSymbol found)) (Nat.zero_le _) ?_
        exact fun _ _ fits _ => .pure fits
      · refine .current (Nat.le_refl _) ?_
        split
        · rename_i path named
          have unfinished : stream.current.isFinish = false := isFinish_of_ne (by simp [named])
          split
          · exact .unexpected
          · refine Agrees.fewer (.bind (.advance fits unfinished) (Nat.zero_le _) ?_)
            intro _ rest fits less
            refine .bind (.skipSymbol fits) (Nat.le_refl _) fun more rest fits less => ?_
            split
            · exact ih _ fits (by omega) (by omega)
            · exact .bind (.takeSymbol fits) (Nat.zero_le _) fun _ _ fits _ => .pure fits
        · exact .unexpected

theorem params_agrees : Agreeing tail 0 1 params params := by
  intro stream fits
  refine Agrees.fewer (.bind (.takeSymbol fits) (Nat.zero_le _) fun _ rest fits _ => ?_)
  refine .get (paramsUpTo_agrees [] fits ?_ ?_)
  · exact Nat.lt_succ_of_le fits.length_le
  · exact Nat.lt_succ_of_le fits.behind_le

theorem statementsUpTo_agrees (agreeing : Agreeing tail 1 1 statement statement')
    {bound bound' : Nat} (read : List Stmt) (fits : tail.Fits stream)
    (inside : stream.rest.length < bound)
    (inside' : stream.rest.length + tail.tokens.length < bound') :
    Agrees tail 0 1 (statementsUpTo statement bound read) (statementsUpTo statement' bound' read)
      stream := by
  induction bound generalizing bound' read stream with
  | zero => omega
  | succ bound ih =>
      obtain ⟨bound', rfl⟩ : ∃ less, bound' = less + 1 := ⟨bound' - 1, by omega⟩
      refine .skipOr fits (fun fits => .pure fits) (.current (Nat.le_refl _) ?_)
      split
      · exact .throw
      · refine Agrees.fewer (.bind (agreeing stream fits) (Nat.le_refl _) ?_)
        intro next rest fits less
        exact ih _ fits (by omega) (by omega)

theorem blockOf_agrees (agreeing : Agreeing tail 1 1 statement statement') :
    Agreeing tail 0 1 (blockOf statement) (blockOf statement') := by
  intro stream fits
  refine Agrees.fewer (.bind (.takeSymbol fits) (Nat.zero_le _) fun start rest fits _ => ?_)
  refine .get (.bind (statementsUpTo_agrees agreeing [] fits ?_ ?_) (Nat.le_refl _) ?_)
  · exact Nat.lt_succ_of_le fits.length_le
  · exact Nat.lt_succ_of_le fits.behind_le
  · intro statements rest fits _
    exact .bind (.spanFrom fits) (Nat.le_refl _) fun _ _ fits _ => .pure fits

theorem constructRest_agrees (agreeing : Agreeing tail 1 1 item item') :
    Agreeing tail 0 1 (constructRest item) (constructRest item') := by
  intro stream fits
  refine Agrees.fewer (.bind (.takeName fits) (Nat.zero_le _) fun named rest fits _ => ?_)
  refine Agrees.fewer (.bind (.takeSymbol fits) (Nat.zero_le _) fun _ rest fits _ => ?_)
  refine .bind (items_agrees agreeing _ rest fits) (Nat.le_refl _) fun _ _ fits _ => ?_
  exact .pure fits

theorem parenthesized_agrees (agreeing : Agreeing tail 1 1 item item') :
    Agreeing tail 0 1 (parenthesized item) (parenthesized item') := by
  intro stream fits
  refine Agrees.fewer (.bind (.takeSymbol fits) (Nat.zero_le _) fun _ rest fits _ => ?_)
  refine Agrees.fewer (.bind (agreeing rest fits) (Nat.le_refl _) fun inner rest fits _ => ?_)
  exact .bind (.takeSymbol fits) (Nat.zero_le _) fun _ _ fits _ => .pure fits

end Loops

/-! ## Levels of the grammar -/

/-- What all levels of the grammar read within an allowance, they read within every larger one, and
in front of the tail. -/
structure GrammarAgrees (tail : Tail) (allowance : Nat) : Prop where
  expression : ∀ more ≥ allowance, Agreeing tail 1 1 (expression allowance) (expression more)
  binary : ∀ more ≥ allowance, ∀ least,
    Agreeing tail 1 1 (binary allowance least) (binary more least)
  unary : ∀ more ≥ allowance, Agreeing tail 0 1 (unary allowance) (unary more)
  primary : ∀ more ≥ allowance, Agreeing tail 0 1 (primary allowance) (primary more)
  statement : ∀ more ≥ allowance, ∀ inLoop,
    Agreeing tail 1 1 (statement allowance inLoop) (statement more inLoop)

section Levels

variable {tail : Tail} {allowance more : Nat}

theorem refuseDepth_agrees {α : Type} {ahead taken : Nat} {other : Parse α} {stream : Stream} :
    Agrees tail ahead taken refuseDepth other stream :=
  .throw

theorem expression_agrees (lower : ∀ less < allowance, GrammarAgrees tail less)
    (le : allowance ≤ more) : Agreeing tail 1 1 (expression allowance) (expression more) := by
  intro stream fits
  rcases allowance with _ | _ | allowance
  · exact refuseDepth_agrees
  · exact refuseDepth_agrees
  obtain ⟨more, rfl⟩ : ∃ less, more = less + 2 := ⟨more - 2, by omega⟩
  have deeper := lower allowance (by omega)
  refine .bind (deeper.binary more (by omega) 1 stream fits) (Nat.le_refl _) ?_
  intro target rest fits _
  refine .bind (.skipSymbol fits) (Nat.le_refl _) fun assigned rest fits _ => ?_
  split
  · refine Agrees.fewer (.bind (deeper.expression more (by omega) rest fits) (Nat.le_refl _) ?_)
    intro value rest fits _
    split
    · exact (Agrees.pure fits).further
    · exact .throw
  · exact (Agrees.pure fits).further

theorem binary_agrees (lower : ∀ less < allowance, GrammarAgrees tail less)
    (le : allowance ≤ more) (least : Nat) :
    Agreeing tail 1 1 (binary allowance least) (binary more least) := by
  intro stream fits
  rcases allowance with _ | allowance
  · exact refuseDepth_agrees
  obtain ⟨more, rfl⟩ : ∃ less, more = less + 1 := ⟨more - 1, by omega⟩
  have deeper := lower allowance (by omega)
  refine .bind (deeper.unary more (by omega) stream fits) (Nat.zero_le _) ?_
  intro left rest fits _
  refine .get
    (climb_agrees (fun least => deeper.binary more (by omega) least) least left fits ?_ ?_)
  · exact Nat.lt_succ_of_le fits.length_le
  · exact Nat.lt_succ_of_le fits.behind_le

theorem unary_agrees (lower : ∀ less < allowance, GrammarAgrees tail less)
    (le : allowance ≤ more) : Agreeing tail 0 1 (unary allowance) (unary more) := by
  intro stream fits
  rcases allowance with _ | allowance
  · exact refuseDepth_agrees
  obtain ⟨more, rfl⟩ : ∃ less, more = less + 1 := ⟨more - 1, by omega⟩
  have deeper := lower allowance (by omega)
  refine .current (Nat.le_refl _) ?_
  cases found : prefixOf? stream.current with
  | some operator =>
      have unfinished := isFinish_of_prefixOf? found
      refine Agrees.fewer (.bind (.advance fits unfinished) (Nat.zero_le _) ?_)
      intro start rest fits _
      refine .bind (deeper.unary more (by omega) rest fits) (Nat.le_refl _) ?_
      exact fun operand _ fits _ => .pure fits
  | none =>
      refine .bind (deeper.primary more (by omega) stream fits) (Nat.le_refl _) ?_
      intro callee rest fits _
      have agreeing := deeper.expression more (by omega)
      refine .get (applications_agrees agreeing callee fits ?_ ?_)
      · exact Nat.lt_succ_of_le fits.length_le
      · exact Nat.lt_succ_of_le fits.behind_le

theorem primary_agrees (lower : ∀ less < allowance, GrammarAgrees tail less)
    (le : allowance ≤ more) : Agreeing tail 0 1 (primary allowance) (primary more) := by
  intro stream fits
  rcases allowance with _ | _ | allowance
  · exact refuseDepth_agrees
  · exact refuseDepth_agrees
  obtain ⟨more, rfl⟩ : ∃ less, more = less + 2 := ⟨more - 2, by omega⟩
  have deeper := lower allowance (by omega)
  have agreeing := deeper.expression more (by omega)
  refine .current (Nat.le_refl _) ?_
  -- a token that opens an operand does not end the input
  have taking {lexical : Lexical} (found : stream.current.lexical = lexical)
      (other : lexical ≠ .finish) : Agrees tail 0 1 advance advance stream :=
    .advance fits (isFinish_of_ne (found ▸ other))
  split
  case h_6 => exact parenthesized_agrees agreeing stream fits
  case h_11 => exact .unexpected
  all_goals
    rename_i found
    have taken := taking found (by simp)
  iterate 5 exact .bind taken (Nat.zero_le _) fun _ _ fits _ => .pure fits
  · refine Agrees.fewer (.bind taken (Nat.zero_le _) fun _ rest fits _ => ?_)
    refine .bind (items_agrees agreeing _ rest fits) (Nat.zero_le _) fun elements _ fits _ => ?_
    exact .bind (.spanFrom fits) (Nat.zero_le _) fun _ _ fits _ => .pure fits
  · refine Agrees.fewer (.bind taken (Nat.zero_le _) fun _ rest fits _ => ?_)
    refine Agrees.fewer (.bind (params_agrees rest fits) (Nat.zero_le _) ?_)
    intro params rest fits _
    have body := blockOf_agrees (deeper.statement more (by omega) false)
    refine .bind (body rest fits) (Nat.zero_le _) fun block _ fits _ => ?_
    exact .bind (.spanFrom fits) (Nat.zero_le _) fun _ _ fits _ => .pure fits
  · refine Agrees.fewer (.bind taken (Nat.zero_le _) fun _ rest fits _ => ?_)
    refine .bind (parenthesized_agrees agreeing rest fits) (Nat.zero_le _) fun path _ fits _ => ?_
    exact .bind (.spanFrom fits) (Nat.zero_le _) fun _ _ fits _ => .pure fits
  · refine Agrees.fewer (.bind taken (Nat.zero_le _) fun _ rest fits _ => ?_)
    refine .bind (constructRest_agrees agreeing rest fits) (Nat.zero_le _) fun parts _ fits _ => ?_
    exact .bind (.spanFrom fits) (Nat.zero_le _) fun _ _ fits _ => .pure fits

theorem statement_agrees (lower : ∀ less < allowance, GrammarAgrees tail less)
    (le : allowance ≤ more) (inLoop : Bool) :
    Agreeing tail 1 1 (statement allowance inLoop) (statement more inLoop) := by
  intro stream fits
  rcases allowance with _ | _ | allowance
  · exact refuseDepth_agrees
  · exact refuseDepth_agrees
  obtain ⟨more, rfl⟩ : ∃ less, more = less + 2 := ⟨more - 2, by omega⟩
  have deeper := lower allowance (by omega)
  have agreeing := deeper.expression more (by omega)
  have parenthesized := parenthesized_agrees agreeing
  have nested := fun inLoop => deeper.statement more (by omega) inLoop
  have body := blockOf_agrees (nested false)
  refine .current (by omega) ?_
  have taking {lexical : Lexical} (found : stream.current.lexical = lexical)
      (other : lexical ≠ .finish) : Agrees tail 0 1 advance advance stream :=
    .advance fits (isFinish_of_ne (found ▸ other))
  -- what ends a statement may look at the token after it
  have closing {node : Span → Stmt} {start : Token} {rest : Stream} (fits : tail.Fits rest) :
      Agrees tail 1 0 (skipSymbol .semicolon >>= fun _ => spanFrom start >>= fun span =>
        pure (node span)) (skipSymbol .semicolon >>= fun _ => spanFrom start >>= fun span =>
        pure (node span)) rest :=
    .bind (.skipSymbol fits) (Nat.le_refl _) fun _ _ fits _ =>
      .bind (.spanFrom fits) (Nat.zero_le _) fun _ _ fits _ => (Agrees.pure fits).further
  split
  case h_11 =>
    -- an expression
    refine .bind (agreeing stream fits) (Nat.le_refl _) fun value rest fits _ => ?_
    refine .bind (.skipSymbol fits) (Nat.le_refl _) fun _ _ fits _ => ?_
    exact (Agrees.pure fits).further
  case h_10 =>
    -- a block
    refine (Agrees.further ?_)
    refine .bind (blockOf_agrees (nested inLoop) stream fits) (Nat.zero_le _) ?_
    exact fun block _ fits _ => .pure fits
  all_goals
    rename_i found
    have taken := taking found (by simp)
    refine .bind taken (Nat.zero_le _) fun _ rest fits _ => ?_
  · -- a declaration
    refine Agrees.fewer (.bind (.takeName fits) (Nat.zero_le _) fun ⟨name, token⟩ rest fits _ => ?_)
    refine .bind (.refuseDotted fits) (Nat.zero_le _) fun _ rest fits _ => ?_
    refine .bind (.skipSymbol fits) (Nat.le_refl _) fun assigned rest fits _ => ?_
    split
    · refine Agrees.fewer (.bindMap (agreeing rest fits) (Nat.le_refl _) ?_)
      exact fun initial _ fits _ => closing fits
    · refine .bind (.pure fits) (Nat.zero_le _) fun _ _ fits _ => closing fits
  · -- a conditional
    refine Agrees.fewer (.bind (parenthesized rest fits) (Nat.zero_le _) ?_)
    intro condition rest fits _
    refine Agrees.fewer (.bind (nested inLoop rest fits) (Nat.le_refl _) ?_)
    intro consequent rest fits _
    refine .current (Nat.le_refl _) ?_
    dsimp only
    split
    · rename_i follows
      refine Agrees.fewer (.bind (.advance fits (isFinish_of_isKeyword follows)) (Nat.zero_le _) ?_)
      intro _ rest fits _
      refine Agrees.fewer (.bindMap (nested inLoop rest fits) (Nat.le_refl _) ?_)
      intro alternate rest fits _
      exact .bind (.spanFrom fits) (Nat.zero_le _) fun _ _ fits _ => (Agrees.pure fits).further
    · refine .bind (.pure fits) (Nat.zero_le _) fun _ rest fits _ => ?_
      exact .bind (.spanFrom fits) (Nat.zero_le _) fun _ _ fits _ => (Agrees.pure fits).further
  · -- a loop
    refine Agrees.fewer (.bind (parenthesized rest fits) (Nat.zero_le _) ?_)
    intro condition rest fits _
    refine Agrees.fewer (.bind (nested true rest fits) (Nat.le_refl _) fun body rest fits _ => ?_)
    exact .bind (.spanFrom fits) (Nat.zero_le _) fun _ _ fits _ => (Agrees.pure fits).further
  · -- a function
    have rest_agrees {node : List String → List Stmt × Span → Span → Stmt} {start : Token}
        {rest : Stream} (fits : tail.Fits rest) : Agrees tail 1 0
          (params >>= fun params => blockOf (statement allowance false) >>= fun block =>
            spanFrom start >>= fun span => pure (node params block span))
          (params >>= fun params => blockOf (statement more false) >>= fun block =>
            spanFrom start >>= fun span => pure (node params block span)) rest := by
      refine Agrees.fewer (.bind (params_agrees rest fits) (Nat.zero_le _) ?_)
      intro params rest fits _
      refine Agrees.fewer (.bind (body rest fits) (Nat.zero_le _) fun block rest fits _ => ?_)
      exact .bind (.spanFrom fits) (Nat.zero_le _) fun _ _ fits _ => (Agrees.pure fits).further
    refine .current (Nat.le_refl _) ?_
    dsimp only
    split
    · rename_i path named
      have unfinished : rest.current.isFinish = false := isFinish_of_ne (by simp [named])
      refine Agrees.fewer (.bind (.advance fits unfinished) (Nat.zero_le _) ?_)
      intro token rest fits _
      refine .bind (.refuseDotted fits) (Nat.zero_le _) fun _ rest fits _ => ?_
      exact .bind (.pure fits) (Nat.zero_le _) fun _ rest fits _ => rest_agrees fits
    · exact .bind (.pure fits) (Nat.zero_le _) fun _ rest fits _ => rest_agrees fits
  · -- a result
    refine .current (Nat.le_refl _) ?_
    dsimp only
    split
    · exact .bind (.pure fits) (Nat.zero_le _) fun _ rest fits _ => closing fits
    · refine Agrees.fewer (.bindMap (agreeing rest fits) (Nat.le_refl _) ?_)
      exact fun value rest fits _ => closing fits
  iterate 2
    -- leaving a loop or going on with it
    split
    · exact .bind (.skipSymbol fits) (Nat.le_refl _) fun _ _ fits _ => (Agrees.pure fits).further
    · exact .throw
  · -- a construction
    refine Agrees.fewer (.bind (constructRest_agrees agreeing rest fits) (Nat.zero_le _) ?_)
    exact fun parts rest fits _ => closing fits
  · -- a module
    refine Agrees.fewer (.bind (parenthesized rest fits) (Nat.zero_le _) ?_)
    exact fun path rest fits _ => closing fits

theorem grammarAgrees (tail : Tail) (allowance : Nat) : GrammarAgrees tail allowance := by
  induction allowance using Nat.strongRecOn with
  | ind allowance lower =>
      exact
        { expression := fun _ le => expression_agrees lower le
          binary := fun _ le => binary_agrees lower le
          unary := fun _ le => unary_agrees lower le
          primary := fun _ le => primary_agrees lower le
          statement := fun _ le => statement_agrees lower le }

end Levels

/-! ## Operands in front of a tail -/

/-- A parser does not ask where the token before its first one ends. -/
def ForgetsLast {α : Type} (parser : Parse α) (stream : Stream) : Prop :=
  ∀ place, parser { stream with last := place } = parser stream

section ForgetsLast

variable {α β : Type} {stream : Stream}

theorem ForgetsLast.advance {next : Token → Parse α} (isFinish : stream.finish.isFinish = true)
    (unfinished : stream.current.isFinish = false) :
    ForgetsLast (advance >>= next) stream := by
  intro place
  have same : { stream with last := place }.advance = stream.advance := by
    cases rest_eq : stream.rest with
    | nil =>
        rw [Stream.current, rest_eq, List.headD_nil, isFinish] at unfinished
        cases unfinished
    | cons token rest =>
        have token_unfinished : token.isFinish = false := by
          simpa [Stream.current, rest_eq] using unfinished
        simp [Stream.advance, rest_eq, token_unfinished]
  rw [bind_run (advance_run _), bind_run (advance_run _), same]
  rfl

theorem ForgetsLast.current {next : Token → Parse α}
    (forgets : ForgetsLast (next stream.current) stream) :
    ForgetsLast (current >>= next) stream := by
  intro place
  rw [bind_run (current_run _), bind_run (current_run _)]
  exact forgets place

theorem ForgetsLast.bind {parser : Parse α} {next : α → Parse β}
    (forgets : ForgetsLast parser stream) : ForgetsLast (parser >>= next) stream := by
  intro place
  change (parser _ >>= fun pair => next pair.1 pair.2) = (parser _ >>= fun pair => _)
  rw [forgets place]

theorem unexpected_forgetsLast {expected : String} :
    ForgetsLast (unexpected (α := α) expected) stream :=
  .current fun _ => by split <;> rfl

theorem parenthesized_forgetsLast {item : Parse Expr} (isFinish : stream.finish.isFinish = true)
    (isOpen : stream.current.isSymbol .openParen = true) :
    ForgetsLast (parenthesized item) stream := by
  refine .bind fun place => ?_
  have isOpen' : { stream with last := place }.current.isSymbol .openParen = true := isOpen
  have forgets : ForgetsLast (advance >>= Pure.pure) stream :=
    .advance isFinish (isFinish_of_isSymbol isOpen)
  rw [takeSymbol_run isOpen, takeSymbol_run isOpen']
  exact forgets place

theorem primary_forgetsLast (allowance : Nat) (isFinish : stream.finish.isFinish = true) :
    ForgetsLast (primary allowance) stream := by
  rcases allowance with _ | _ | allowance
  · exact fun _ => rfl
  · exact fun _ => rfl
  refine .current ?_
  have unfinished {lexical : Lexical} (found : stream.current.lexical = lexical)
      (other : lexical ≠ .finish) : stream.current.isFinish = false :=
    isFinish_of_ne (found ▸ other)
  split
  case h_6 =>
    rename_i found
    exact parenthesized_forgetsLast isFinish (by simp [Token.isSymbol, found])
  case h_11 => exact unexpected_forgetsLast
  all_goals
    rename_i found
    exact .advance isFinish (unfinished found (by simp))

theorem unary_forgetsLast (allowance : Nat) (isFinish : stream.finish.isFinish = true) :
    ForgetsLast (unary allowance) stream := by
  rcases allowance with _ | allowance
  · exact fun _ => rfl
  refine .current ?_
  split
  · rename_i operator found
    exact .advance isFinish (isFinish_of_prefixOf? found)
  · exact .bind (primary_forgetsLast allowance isFinish)

end ForgetsLast

/-- Tokens that stand alone for an operand stand for it in front of every tail, within every larger
allowance. -/
theorem unary_behind {allowance more : Nat} {tail : Tail} {alone ended stream : Stream}
    {value : Expr} (run : unary allowance alone = .ok (value, ended)) (ends : ended.rest = [])
    (fits : tail.Fits alone) (le : allowance ≤ more)
    (rest_eq : stream.rest = alone.rest ++ tail.tokens) (finish_eq : stream.finish = tail.finish)
    (total_eq : stream.total = tail.total) :
    Reads (unary more) stream fun result rest =>
      result = value ∧ rest.rest = tail.tokens ∧ rest.finish = stream.finish ∧
        rest.total = stream.total := by
  obtain ⟨-, -, same⟩ := (grammarAgrees tail allowance).unary more le alone fits value ended run
  have forgets : ForgetsLast (unary more) stream :=
    unary_forgetsLast more (by rw [finish_eq]; exact tail.isFinish)
  have stream_eq : tail.behind alone = { stream with last := alone.last } := by
    cases stream
    simp_all [Tail.behind]
  have outcome := same (Nat.zero_le _)
  rw [stream_eq, forgets alone.last] at outcome
  refine ⟨value, _, outcome, rfl, ?_, ?_, ?_⟩
  · simp [Tail.behind, ends]
  · simp [Tail.behind, finish_eq]
  · simp [Tail.behind, total_eq]

end Parser
end Scriptlet
