import Scriptlet.Tree.Source

/-!
# The allowance of the parser

What is read with some allowance is read with every larger one.  A level of the grammar that runs
out finds the program too deep; otherwise the allowance makes no difference, neither to what is read
nor to what is refused.
-/

namespace Scriptlet
namespace Parser

variable {α β : Type}

/-- On every stream a parser does what another one does, or it finds the program too deep. -/
def Below (parser other : Parse α) : Prop :=
  ∀ stream, parser stream = .error .tooDeep ∨ parser stream = other stream

namespace Below

theorem refl (parser : Parse α) : Below parser parser :=
  fun _ => .inr rfl

theorem refuseDepth (other : Parse α) : Below refuseDepth other :=
  fun _ => .inl rfl

theorem bind {first first' : Parse α} {next next' : α → Parse β} (before : Below first first')
    (after : ∀ value, Below (next value) (next' value)) :
    Below (first >>= next) (first' >>= next') := by
  intro stream
  change (first stream >>= fun pair => next pair.1 pair.2) = _ ∨
    (first stream >>= fun pair => next pair.1 pair.2) =
      (first' stream >>= fun pair => next' pair.1 pair.2)
  rcases before stream with deep | same
  · rw [deep]
    exact .inl rfl
  · rw [same]
    cases first' stream with
    | error failure => exact .inr rfl
    | ok pair => exact after pair.1 pair.2

/-- A first step that takes nothing from the allowance. -/
theorem step {first : Parse α} {next next' : α → Parse β}
    (after : ∀ value, Below (next value) (next' value)) :
    Below (first >>= next) (first >>= next') :=
  bind (refl first) after

/-- A step whose result is changed at once. -/
theorem map {parser other : Parse α} (change : α → β) (below : Below parser other) :
    Below (change <$> parser) (change <$> other) :=
  bind below fun value => refl (pure (change value))

theorem choosing {condition : Prop} [Decidable condition] {first first' second second' : Parse α}
    (yes : Below first first') (no : Below second second') :
    Below (if condition then first else second) (if condition then first' else second') := by
  split
  · exact yes
  · exact no

end Below

/-! ## Loops of the grammar -/

section Loops

variable {item other : Parse Expr} {statement there : Parse Stmt}

theorem climb_below {operand operand' : Nat → Parse Expr}
    (below : ∀ least, Below (operand least) (operand' least)) (least bound : Nat) (left : Expr) :
    Below (climb operand least bound left) (climb operand' least bound left) := by
  induction bound generalizing left with
  | zero => exact .refl _
  | succ bound ih =>
      refine .step fun token => ?_
      cases operatorOf? token with
      | none => exact .refl _
      | some operator =>
          refine .choosing (.refl _) (.step fun _ => ?_)
          exact .bind (below _) fun right => ih _

theorem itemsUpTo_below (below : Below item other) (closing : Symbol) (bound : Nat)
    (read : List Expr) :
    Below (itemsUpTo closing item bound read) (itemsUpTo closing other bound read) := by
  induction bound generalizing read with
  | zero => exact .refl _
  | succ bound ih =>
      refine .step fun closed => .choosing (.refl _) ?_
      exact .bind below fun next => .step fun more => .choosing (ih _) (.refl _)

theorem items_below (below : Below item other) (closing : Symbol) :
    Below (items closing item) (items closing other) :=
  .step fun _ => itemsUpTo_below below closing _ []

theorem applications_below (below : Below item other) (bound : Nat) (callee : Expr) :
    Below (applications item bound callee) (applications other bound callee) := by
  induction bound generalizing callee with
  | zero => exact .refl _
  | succ bound ih =>
      refine .step fun called => .choosing ?_ (.step fun indexed => .choosing ?_ (.refl _))
      · exact .bind (items_below below .closeParen) fun arguments => .step fun _ => ih _
      · exact .bind below fun index => .step fun _ => .step fun _ => ih _

theorem parenthesized_below (below : Below item other) :
    Below (parenthesized item) (parenthesized other) :=
  .step fun _ => .bind below fun _ => .refl _

theorem constructRest_below (below : Below item other) :
    Below (constructRest item) (constructRest other) :=
  .step fun _ => .step fun _ => .bind (items_below below .closeParen) fun _ => .refl _

theorem statementsUpTo_below (below : Below statement there) (bound : Nat) (read : List Stmt) :
    Below (statementsUpTo statement bound read) (statementsUpTo there bound read) := by
  induction bound generalizing read with
  | zero => exact .refl _
  | succ bound ih =>
      refine .step fun closed => .choosing (.refl _) (.step fun token => ?_)
      exact .choosing (.refl _) (.bind below fun next => ih _)

theorem blockOf_below (below : Below statement there) :
    Below (blockOf statement) (blockOf there) :=
  .step fun _ => .step fun _ => .bind (statementsUpTo_below below _ []) fun _ => .refl _

theorem statementsToEnd_below (below : Below statement there) (bound : Nat) (read : List Stmt) :
    Below (statementsToEnd statement bound read) (statementsToEnd there bound read) := by
  induction bound generalizing read with
  | zero => exact .refl _
  | succ bound ih =>
      exact .step fun token => .choosing (.refl _) (.bind below fun next => ih _)

end Loops

/-! ## Levels of the grammar -/

/-- Every level of the grammar reads with a larger allowance what it reads with a smaller one. -/
structure GrammarBelow (allowance more : Nat) : Prop where
  expression : Below (expression allowance) (expression more)
  binary : ∀ least, Below (binary allowance least) (binary more least)
  unary : Below (unary allowance) (unary more)
  primary : Below (primary allowance) (primary more)
  statement : ∀ inLoop, Below (statement allowance inLoop) (statement more inLoop)

section Levels

variable {allowance more : Nat}

theorem expression_below (lower : GrammarBelow allowance more) :
    Below (expression (allowance + 2)) (expression (more + 2)) := by
  refine .bind (lower.binary 1) fun target => .step fun assigned => .choosing ?_ (.refl _)
  exact .bind lower.expression fun value => .refl _

theorem binary_below (lower : GrammarBelow allowance more) (least : Nat) :
    Below (binary (allowance + 1) least) (binary (more + 1) least) :=
  .bind lower.unary fun left => .step fun _ => climb_below lower.binary least _ left

theorem unary_below (lower : GrammarBelow allowance more) :
    Below (unary (allowance + 1)) (unary (more + 1)) := by
  refine .step fun token => ?_
  cases prefixOf? token with
  | some operator => exact .step fun start => .bind lower.unary fun operand => .refl _
  | none =>
      exact .bind lower.primary fun callee => .step fun _ =>
        applications_below lower.expression _ callee

theorem primary_below (lower : GrammarBelow allowance more) :
    Below (primary (allowance + 2)) (primary (more + 2)) := by
  refine .step fun token => ?_
  split
  · exact .refl _
  · exact .refl _
  · exact .refl _
  · exact .refl _
  · exact .refl _
  · exact parenthesized_below lower.expression
  · exact .step fun _ => .bind (items_below lower.expression .closeBracket) fun elements => .refl _
  · exact .step fun _ => .step fun params =>
      .bind (blockOf_below (lower.statement false)) fun block => .refl _
  · exact .step fun _ => .bind (parenthesized_below lower.expression) fun path => .refl _
  · exact .step fun _ => .bind (constructRest_below lower.expression) fun rest => .refl _
  · exact .refl _

theorem statement_below (lower : GrammarBelow allowance more) (inLoop : Bool) :
    Below (statement (allowance + 2) inLoop) (statement (more + 2) inLoop) := by
  refine .step fun start => ?_
  split
  · refine .step fun _ => .step fun name => .step fun _ => .step fun assigned => ?_
    exact .choosing (.bind (.map some lower.expression) fun initial => .refl _) (.refl _)
  · refine .step fun _ => .bind (parenthesized_below lower.expression) fun condition => ?_
    refine .bind (lower.statement inLoop) fun consequent => .step fun next => ?_
    refine .choosing (.step fun _ => ?_) (.refl _)
    exact .bind (.map some (lower.statement inLoop)) fun alternate => .refl _
  · refine .step fun _ => .bind (parenthesized_below lower.expression) fun condition => ?_
    exact .bind (lower.statement true) fun body => .refl _
  · refine .step fun _ => .step fun next => ?_
    dsimp only
    split
    · refine .step fun _ => .step fun _ => .step fun name => .step fun params => ?_
      exact .bind (blockOf_below (lower.statement false)) fun block => .refl _
    · refine .step fun name => .step fun params => ?_
      exact .bind (blockOf_below (lower.statement false)) fun block => .refl _
  · refine .step fun _ => .step fun next => .choosing (.refl _) ?_
    exact .bind (.map some lower.expression) fun value => .refl _
  · exact .refl _
  · exact .refl _
  · exact .step fun _ => .bind (constructRest_below lower.expression) fun rest => .refl _
  · exact .step fun _ => .bind (parenthesized_below lower.expression) fun path => .refl _
  · exact .bind (blockOf_below (lower.statement inLoop)) fun block => .refl _
  · exact .bind lower.expression fun value => .refl _

end Levels

theorem grammarBelow {allowance more : Nat} (enough : allowance ≤ more) :
    GrammarBelow allowance more := by
  induction allowance using Nat.strongRecOn generalizing more with
  | ind allowance ih =>
      match allowance, more with
      | 0, _ =>
          exact ⟨.refuseDepth _, fun _ => .refuseDepth _, .refuseDepth _, .refuseDepth _,
            fun _ => .refuseDepth _⟩
      | 1, more + 1 =>
          have lower := ih 0 (by omega) (Nat.zero_le more)
          exact ⟨.refuseDepth _, binary_below lower, unary_below lower, .refuseDepth _,
            fun _ => .refuseDepth _⟩
      | allowance + 2, more + 2 =>
          have one := ih (allowance + 1) (by omega) (show allowance + 1 ≤ more + 1 by omega)
          have two := ih allowance (by omega) (show allowance ≤ more by omega)
          exact ⟨expression_below two, binary_below one, unary_below one, primary_below two,
            statement_below two⟩

theorem program_below {allowance more : Nat} (enough : allowance ≤ more) (file : Option String) :
    Below (program allowance file) (program more file) := by
  refine .step fun start => .step fun stream => .bind ?_ fun body => .refl _
  exact statementsToEnd_below ((grammarBelow enough).statement false) _ []

theorem parse_mono {allowance more : Nat} (enough : allowance ≤ more) {stream : Stream}
    {file source : Option String} {program : Program}
    (read : parse allowance stream file source = .ok program) :
    parse more stream file source = .ok program := by
  unfold parse at read ⊢
  rcases program_below enough file stream with deep | same
  · change (Parser.program allowance file).run stream = _ at deep
    rw [deep] at read
    cases read
  · change (Parser.program allowance file).run stream =
      (Parser.program more file).run stream at same
    rwa [same] at read

end Parser

namespace Program

variable {source : String} {file : Option String}

/-- A text that is read in some room is read in all larger ones. -/
theorem ofSource_mono {room more : Nat} (enough : room ≤ more) {program : Program}
    (read : ofSource room source file = .ok program) : ofSource more source file = .ok program := by
  unfold ofSource at read ⊢
  cases lexed : Lexer.lex source file with
  | error failure =>
      rw [lexed] at read
      cases read
  | ok tokens =>
      rw [lexed] at read
      dsimp only at read ⊢
      cases streamed : Parser.Stream.ofTokens? tokens with
      | none =>
          rw [streamed] at read
          cases read
      | some stream =>
          rw [streamed] at read
          exact Parser.parse_mono enough read

/-- The room makes no difference to which program is read. -/
theorem ofSource_unique {room other : Nat} {program reread : Program}
    (read : ofSource room source file = .ok program)
    (again : ofSource other source file = .ok reread) : reread = program := by
  rcases Nat.le_total room other with enough | enough
  · exact Except.ok.inj (again.symm.trans (ofSource_mono enough read))
  · exact Except.ok.inj ((ofSource_mono enough again).symm.trans read)

end Program

end Scriptlet
