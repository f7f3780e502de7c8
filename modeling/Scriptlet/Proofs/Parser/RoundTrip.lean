import Scriptlet.Proofs.Parser.Operand

/-!
# Reading what was written

A well-formed tree that is written as words is read back as the same bare tree.  Six steps of the
allowance for every word are always enough.
-/

namespace Scriptlet
namespace Parser

/-! ## Expressions -/

/-- The expression that a target is written as. -/
def targetExpr : Target → Expr
  | .name span id => .name span id
  | .member span object field => .member span object field

theorem targetExpr_wellFormed {target : Target} (formed : target.WellFormed) :
    (targetExpr target).WellFormed := by
  cases formed with
  | name span plain => exact .name span plain
  | member span path objectFormed plain => exact .member span path objectFormed plain

theorem targetExpr_operandWords (target : Target) :
    (targetExpr target).operandWords = [.name target.path] := by
  cases target <;> rfl

theorem target?_of_bare {expression : Expr} {target : Target}
    (same : expression.bare = (targetExpr target).bare) :
    ∃ place, expression.target? = some place ∧ place.bare = target.bare := by
  cases target <;> cases expression <;> simp [targetExpr, Expr.bare] at same
  · exact ⟨_, rfl, by simp [same]⟩
  · exact ⟨_, rfl, by simp [same]⟩

section Expressions

variable {allowance : Nat} {tail : List Lexical}

/-- An expression that is a primary one, with nothing applied to it. -/
theorem expression_of_primary {word : Lexical} {words : List Lexical} {same : Expr → Prop}
    (closes : (tail.headD .finish).closes = true)
    (notPrefix : ∀ token : Token, token.lexical = word → prefixOf? token = none)
    (reads : ReadsBack (primary allowance) (word :: words) tail same) :
    ReadsBack (expression (allowance + 4)) (word :: words) tail same := by
  refine expression_of_unary closes ?_
  intro stream spells
  refine .step (current_run stream) ?_
  simp only [notPrefix stream.current spells.current_lexical]
  refine .bind (reads stream spells) ?_
  rintro callee rest ⟨satisfied, spells⟩
  refine .step (get_run rest) ⟨callee, rest, applications_stops ?_, satisfied, spells⟩
  rw [spells.current_lexical]
  exact Lexical.extendsOperand_of_endsOperands (Lexical.endsOperands_of_closes closes)

theorem operandWords_length_le {expression : Expr} {expressions : List Expr}
    (found : expression ∈ expressions) :
    expression.operandWords.length ≤ (Expr.listWords expressions).length := by
  have further : ∀ rest : List Expr, expression ∈ rest →
      expression.operandWords.length ≤ (Expr.furtherWords rest).length := by
    intro rest later
    induction rest with
    | nil => cases later
    | cons first rest ih =>
        simp only [Expr.furtherWords, Expr.asOperand_words, List.length_cons, List.length_append]
        rcases List.mem_cons.mp later with rfl | later
        · omega
        · have rest_le := ih later
          omega
  cases found with
  | head => simp
  | tail first later =>
      have rest_le := further _ later
      simp only [Expr.listWords, List.length_append]
      omega

theorem words_length_le {statement : Stmt} {statements : List Stmt}
    (found : statement ∈ statements) :
    statement.words.length ≤ (Stmt.listWords statements).length := by
  induction statements with
  | nil => cases found
  | cons first rest ih =>
      simp only [Stmt.listWords, List.length_append]
      rcases List.mem_cons.mp found with rfl | later
      · omega
      · have rest_le := ih later
        omega

/-- The items of a list are read back one by one. -/
theorem listed_readsBack (lower : ReadsBelow allowance) {expressions : List Expr}
    (formed : ∀ expression ∈ expressions, expression.WellFormed)
    (enough : 6 * (Expr.listWords expressions).length ≤ allowance) :
    ReadsItems (Parser.expression allowance) expressions := by
  intro expression found tail closes
  have shorter := operandWords_length_le found
  exact expression_operand (lower.mono (by omega)) (formed expression found)
    (by omega) closes

/-- The statements of a body are read back one by one. -/
theorem body_readsBack {inLoop : Bool} (reads : GrammarReads allowance) {statements : List Stmt}
    (formed : ∀ statement ∈ statements, statement.WellFormed inLoop)
    (enough : 6 * (Stmt.listWords statements).length ≤ allowance) :
    ReadsStatements (Parser.statement allowance inLoop) statements := by
  intro statement found tail notElse
  have shorter := words_length_le found
  exact reads.statement (formed statement found) (by omega) fun _ => notElse

theorem expression_binary (lower : ReadsBelow allowance) {left right : Expr}
    {span : Span} {operator : BinaryOperator} (leftFormed : left.WellFormed)
    (rightFormed : right.WellFormed)
    (enough : 6 * (Expr.binary span left operator right).words.length ≤ allowance)
    (closes : (tail.headD .finish).closes = true) :
    ReadsBack (expression allowance) (Expr.binary span left operator right).words tail
      fun read => read.bare = (Expr.binary span left operator right).bare := by
  have leftPositive := operandWords_length_pos left
  have rightPositive := operandWords_length_pos right
  simp only [Expr.words, Expr.asOperand_words, List.length_append, List.length_cons] at enough
  obtain ⟨allowance, rfl⟩ : ∃ less, allowance = less + 4 := ⟨allowance - 4, by omega⟩
  intro stream spells
  have operands : stream.Spells
      (left.operandWords ++ (.symbol operator.symbol :: (right.operandWords ++ tail))) := by
    simpa using spells
  have ends := Lexical.endsOperands_of_closes closes
  have operators : Reads (binary (allowance + 2) 1) stream fun read rest =>
      read.bare = (Expr.binary span left operator right).bare ∧ rest.Spells tail := by
    have stops : ((.symbol operator.symbol :: (right.operandWords ++ tail)).headD
        Lexical.finish).extendsOperand = false := by
      cases operator <;> rfl
    refine .bind (unary_operand (lower.mono (by omega)) leftFormed (by omega)
      stops stream operands) ?_
    rintro first rest ⟨firstSame, spells⟩
    refine .step (get_run rest) (Reads.current spells fun token lexical_eq => ?_)
    simp only [operatorOf?_of_symbol lexical_eq]
    rw [if_neg (by cases operator <;> decide)]
    refine Reads.advance spells (by simp) fun _ _ _ spells => ?_
    refine .bind (binary_operand (lower.mono (by omega)) rightFormed (by omega)
      ends _ spells) ?_
    rintro second last ⟨secondSame, spells⟩
    refine ⟨_, last, climb_stops ?_, ?_, spells⟩
    · rw [spells.current_lexical]
      exact ends
    · simp [firstSame, secondSame]
  refine .bind operators ?_
  rintro read rest ⟨same, spells⟩
  exact Reads.noSymbol spells (Lexical.isSymbol_assign_of_closes closes) (.pure ⟨same, spells⟩)

theorem expression_unary (lower : ReadsBelow allowance) {operand : Expr}
    {span : Span} {operator : UnaryOperator} (formed : operand.WellFormed)
    (enough : 6 * (Expr.unary span operator operand).words.length ≤ allowance)
    (closes : (tail.headD .finish).closes = true) :
    ReadsBack (expression allowance) (Expr.unary span operator operand).words tail
      fun read => read.bare = (Expr.unary span operator operand).bare := by
  simp only [Expr.words, Expr.asOperand_words, List.length_cons] at enough
  obtain ⟨allowance, rfl⟩ : ∃ less, allowance = less + 4 := ⟨allowance - 4, by omega⟩
  have stops := Lexical.extendsOperand_of_endsOperands (Lexical.endsOperands_of_closes closes)
  refine expression_of_unary closes fun stream spells => ?_
  refine Reads.current spells fun token lexical_eq => ?_
  simp only [prefixOf?_of_symbol lexical_eq]
  refine Reads.advance spells (by simp) fun start rest _ spells => ?_
  refine .bind (unary_operand (lower.mono (by omega)) formed (by omega) stops
    rest spells) ?_
  rintro read last ⟨same, spells⟩
  exact .pure ⟨by simp [same], spells⟩

theorem expression_assign (lower : ReadsBelow allowance) {target : Target}
    {value : Expr} {span : Span} (targetFormed : target.WellFormed) (valueFormed : value.WellFormed)
    (enough : 6 * (Expr.assign span target value).words.length ≤ allowance)
    (closes : (tail.headD .finish).closes = true) :
    ReadsBack (expression allowance) (Expr.assign span target value).words tail
      fun read => read.bare = (Expr.assign span target value).bare := by
  simp only [Expr.words, Expr.asOperand_words, List.length_cons] at enough
  obtain ⟨allowance, rfl⟩ : ∃ less, allowance = less + 2 := ⟨allowance - 2, by omega⟩
  have below : ReadsBelow allowance := lower.mono (by omega)
  intro stream spells
  have place : stream.Spells ((targetExpr target).operandWords ++
      (.symbol .assign :: (value.operandWords ++ tail))) := by
    rw [targetExpr_operandWords]
    exact spells
  have short : 6 * (targetExpr target).operandWords.length ≤ allowance + 2 := by
    rw [targetExpr_operandWords, List.length_singleton]
    omega
  refine .bind (binary_operand below (targetExpr_wellFormed targetFormed) short rfl stream place) ?_
  rintro written rest ⟨writtenSame, spells⟩
  refine Reads.skipSymbol spells fun rest spells => ?_
  refine .bind (expression_operand below valueFormed (by omega) closes rest spells) ?_
  rintro read last ⟨readSame, spells⟩
  obtain ⟨found, isTarget, foundSame⟩ := target?_of_bare writtenSame
  simp only [isTarget]
  exact .pure ⟨by simp [foundSame, readSame], spells⟩

theorem expression_call (lower : ReadsBelow allowance) {callee : Expr}
    {arguments : List Expr} {span : Span} (calleeFormed : callee.WellFormed)
    (argumentsFormed : ∀ argument ∈ arguments, argument.WellFormed)
    (enough : 6 * (Expr.call span callee arguments).words.length ≤ allowance)
    (closes : (tail.headD .finish).closes = true) :
    ReadsBack (expression allowance) (Expr.call span callee arguments).words tail
      fun read => read.bare = (Expr.call span callee arguments).bare := by
  have positive := operandWords_length_pos callee
  simp only [Expr.words, Expr.asOperand_words, List.length_append, length_inParens] at enough
  obtain ⟨allowance, rfl⟩ : ∃ less, allowance = less + 4 := ⟨allowance - 4, by omega⟩
  refine expression_of_unary closes ?_
  refine unary_applied (lower.mono (by omega)) calleeFormed (by omega) ?_
  intro read rest calleeSame spells
  refine Reads.skipSymbol spells fun opened spells => ?_
  have below : ReadsBelow allowance := lower.mono (by omega)
  have listed := listed_readsBack below argumentsFormed (by omega)
  refine .bind (items_readsBack (Or.inl rfl) arguments listed opened spells) ?_
  rintro read last ⟨same, spells⟩
  refine .step (get_run last) ⟨_, last, applications_stops ?_, ?_, spells⟩
  · rw [spells.current_lexical]
    exact Lexical.extendsOperand_of_endsOperands (Lexical.endsOperands_of_closes closes)
  · simp [calleeSame, same]

theorem expression_index (lower : ReadsBelow allowance) {object index : Expr}
    {span : Span} (objectFormed : object.WellFormed) (indexFormed : index.WellFormed)
    (enough : 6 * (Expr.index span object index).words.length ≤ allowance)
    (closes : (tail.headD .finish).closes = true) :
    ReadsBack (expression allowance) (Expr.index span object index).words tail
      fun read => read.bare = (Expr.index span object index).bare := by
  have positive := operandWords_length_pos object
  simp only [Expr.words, Expr.asOperand_words, List.length_append, List.length_cons] at enough
  obtain ⟨allowance, rfl⟩ : ∃ less, allowance = less + 4 := ⟨allowance - 4, by omega⟩
  have below : ReadsBelow allowance := lower.mono (by omega)
  refine expression_of_unary closes ?_
  refine unary_applied below objectFormed (by omega) ?_
  intro read rest objectSame spells
  refine Reads.noSymbol spells rfl (Reads.skipSymbol spells fun opened spells => ?_)
  have inner : opened.Spells (index.operandWords ++ (.symbol .closeBracket :: tail)) := by
    simpa using spells
  refine .bind (expression_operand below indexFormed (by omega) rfl opened inner) ?_
  rintro place last ⟨same, spells⟩
  refine Reads.takeSymbol spells fun _ closed spells => ?_
  refine .step (get_run closed) ⟨_, closed, applications_stops ?_, ?_, spells⟩
  · rw [spells.current_lexical]
    exact Lexical.extendsOperand_of_endsOperands (Lexical.endsOperands_of_closes closes)
  · simp [objectSame, same]

theorem expression_array (lower : ReadsBelow allowance) {elements : List Expr}
    {span : Span} (formed : ∀ element ∈ elements, element.WellFormed)
    (enough : 6 * (Expr.array span elements).words.length ≤ allowance)
    (closes : (tail.headD .finish).closes = true) :
    ReadsBack (expression allowance) (Expr.array span elements).words tail
      fun read => read.bare = (Expr.array span elements).bare := by
  simp only [Expr.words, List.length_cons, List.length_append] at enough
  obtain ⟨allowance, rfl⟩ : ∃ less, allowance = less + 6 := ⟨allowance - 6, by omega⟩
  have below : ReadsBelow allowance := lower.mono (by omega)
  refine expression_of_primary closes (by simp +contextual [prefixOf?]) fun stream spells => ?_
  refine Reads.current spells fun token lexical_eq => ?_
  simp only [lexical_eq]
  refine Reads.advance spells (by simp) fun _ opened _ spells => ?_
  have listed := listed_readsBack below formed (by omega)
  refine .bind (items_readsBack (Or.inr rfl) elements listed opened spells) ?_
  rintro read rest ⟨same, spells⟩
  exact .step (spanFrom_run token rest) (.pure ⟨by simp [same], spells⟩)

theorem expression_function (lower : ReadsBelow allowance) {names : List String}
    {body : List Stmt} {span : Span} (plain : ∀ param ∈ names, isDotted param = false)
    (formed : ∀ statement ∈ body, statement.WellFormed false)
    (enough : 6 * (Expr.function span names body).words.length ≤ allowance)
    (closes : (tail.headD .finish).closes = true) :
    ReadsBack (expression allowance) (Expr.function span names body).words tail
      fun read => read.bare = (Expr.function span names body).bare := by
  simp only [Expr.words, List.length_cons, List.length_append, length_inParens] at enough
  obtain ⟨allowance, rfl⟩ : ∃ less, allowance = less + 6 := ⟨allowance - 6, by omega⟩
  refine expression_of_primary closes (by simp +contextual [prefixOf?]) fun stream spells => ?_
  refine Reads.current spells fun token lexical_eq => ?_
  simp only [lexical_eq]
  refine Reads.advance spells (by simp) fun _ opened _ spells => ?_
  have statements := body_readsBack (lower allowance (by omega)) formed (by omega)
  refine functionRest_readsBack plain statements spells fun block rest same spells => ?_
  exact .step (spanFrom_run token rest) (.pure ⟨by simp [same], spells⟩)

theorem expression_load (lower : ReadsBelow allowance) {path : Expr} {span : Span}
    (formed : path.WellFormed) (enough : 6 * (Expr.load span path).words.length ≤ allowance)
    (closes : (tail.headD .finish).closes = true) :
    ReadsBack (expression allowance) (Expr.load span path).words tail
      fun read => read.bare = (Expr.load span path).bare := by
  simp only [Expr.words, Expr.asOperand_words, List.length_cons, length_inParens] at enough
  obtain ⟨allowance, rfl⟩ : ∃ less, allowance = less + 6 := ⟨allowance - 6, by omega⟩
  have below : ReadsBelow allowance := lower.mono (by omega)
  refine expression_of_primary closes (by simp +contextual [prefixOf?]) fun stream spells => ?_
  refine Reads.current spells fun token lexical_eq => ?_
  simp only [lexical_eq]
  refine Reads.advance spells (by simp) fun _ opened _ spells => ?_
  refine .bind (parenthesized_operand tail below formed (by omega) opened spells) ?_
  rintro read rest ⟨same, spells⟩
  exact .step (spanFrom_run token rest) (.pure ⟨by simp [same], spells⟩)

theorem expression_construct (lower : ReadsBelow allowance) {className : String}
    {arguments : List Expr} {span : Span} (formed : ∀ argument ∈ arguments, argument.WellFormed)
    (enough : 6 * (Expr.construct span className arguments).words.length ≤ allowance)
    (closes : (tail.headD .finish).closes = true) :
    ReadsBack (expression allowance) (Expr.construct span className arguments).words tail
      fun read => read.bare = (Expr.construct span className arguments).bare := by
  simp only [Expr.words, List.length_cons, length_inParens] at enough
  obtain ⟨allowance, rfl⟩ : ∃ less, allowance = less + 6 := ⟨allowance - 6, by omega⟩
  have below : ReadsBelow allowance := lower.mono (by omega)
  refine expression_of_primary closes (by simp +contextual [prefixOf?]) fun stream spells => ?_
  refine Reads.current spells fun token lexical_eq => ?_
  simp only [lexical_eq]
  refine Reads.advance spells (by simp) fun _ opened _ spells => ?_
  have listed := listed_readsBack below formed (by omega)
  refine .bind (constructRest_readsBack className arguments listed opened spells) ?_
  rintro ⟨_, read⟩ rest ⟨⟨rfl, same⟩, afterSpells⟩
  exact .step (spanFrom_run token rest) (.pure ⟨by simp [same], afterSpells⟩)

/-- Every expression is read back within an allowance for its words. -/
theorem expression_readsBack (lower : ReadsBelow allowance) {expression : Expr}
    (formed : expression.WellFormed) (enough : 6 * expression.words.length ≤ allowance)
    (closes : (tail.headD .finish).closes = true) :
    ReadsBack (Parser.expression allowance) expression.words tail
      fun read => read.bare = expression.bare := by
  cases isWord : expression.isWord with
  | true =>
      rw [← operandWords_of_isWord isWord] at enough ⊢
      exact expression_operand lower formed enough closes
  | false =>
      cases formed with
      | number | text | bool | name | member => cases isWord
      | binary _ _ leftFormed rightFormed =>
          exact expression_binary lower leftFormed rightFormed enough closes
      | unary _ _ operandFormed => exact expression_unary lower operandFormed enough closes
      | assign _ targetFormed valueFormed =>
          exact expression_assign lower targetFormed valueFormed enough closes
      | call _ calleeFormed argumentsFormed =>
          exact expression_call lower calleeFormed argumentsFormed enough closes
      | index _ objectFormed indexFormed =>
          exact expression_index lower objectFormed indexFormed enough closes
      | array _ elementsFormed => exact expression_array lower elementsFormed enough closes
      | function _ plain bodyFormed =>
          exact expression_function lower plain bodyFormed enough closes
      | load _ pathFormed => exact expression_load lower pathFormed enough closes
      | construct _ _ argumentsFormed =>
          exact expression_construct lower argumentsFormed enough closes

end Expressions

/-! ## Statements -/

section Statements

variable {allowance : Nat} {inLoop : Bool} {tail : List Lexical} {span : Span}

theorem statement_declare (lower : ReadsBelow allowance) {name : String}
    {initial : Option Expr} (plain : isDotted name = false)
    (formed : ∀ value ∈ initial, value.WellFormed)
    (enough : 6 * (Stmt.declare span name initial).words.length ≤ allowance) :
    ReadsBack (statement allowance inLoop) (Stmt.declare span name initial).words tail
      fun read => read.bare = (Stmt.declare span name initial).bare := by
  intro stream spells
  cases initial with
  | none =>
      simp only [Stmt.words, List.length_cons] at enough
      obtain ⟨allowance, rfl⟩ : ∃ less, allowance = less + 2 := ⟨allowance - 2, by omega⟩
      refine Reads.current spells fun start lexical_eq => ?_
      simp only [lexical_eq]
      refine Reads.advance spells (by simp) fun _ rest _ spells => ?_
      refine .step (takeName_run spells.current_lexical) (.step (refuseDotted_run plain) ?_)
      have ended := spells.advance (by simp)
      refine Reads.noSymbol ended rfl (.step rfl (Reads.skipSymbol ended fun last spells => ?_))
      exact .step (spanFrom_run start last) (.pure ⟨by simp, spells⟩)
  | some value =>
      simp only [Stmt.words, Expr.asOperand_words, List.length_cons, List.length_append] at enough
      obtain ⟨allowance, rfl⟩ : ∃ less, allowance = less + 2 := ⟨allowance - 2, by omega⟩
      refine Reads.current spells fun start lexical_eq => ?_
      simp only [lexical_eq]
      refine Reads.advance spells (by simp) fun _ rest _ spells => ?_
      refine .step (takeName_run spells.current_lexical) (.step (refuseDotted_run plain) ?_)
      refine Reads.skipSymbol (spells.advance (by simp)) fun rest spells => ?_
      have inner : rest.Spells (value.operandWords ++ (.symbol .semicolon :: tail)) := by
        simpa using spells
      have below : ReadsBelow allowance := lower.mono (by omega)
      refine .bindMap (expression_operand below (formed value rfl) (by omega) rfl rest inner) ?_
      rintro read rest ⟨same, spells⟩
      refine Reads.skipSymbol spells fun last spells => ?_
      exact .step (spanFrom_run start last) (.pure ⟨by simp [same], spells⟩)

theorem statement_expression (lower : ReadsBelow allowance) {value : Expr}
    (formed : value.WellFormed)
    (enough : 6 * (Stmt.expression span value).words.length ≤ allowance) :
    ReadsBack (statement allowance inLoop) (Stmt.expression span value).words tail
      fun read => read.bare = (Stmt.expression span value).bare := by
  simp only [Stmt.words, List.length_append, length_inParens, List.length_singleton] at enough
  obtain ⟨allowance, rfl⟩ : ∃ less, allowance = less + 8 := ⟨allowance - 8, by omega⟩
  intro stream spells
  refine Reads.current spells fun start lexical_eq => ?_
  simp only [lexical_eq]
  have wrapped : stream.Spells (inParens value.words ++ (.symbol .semicolon :: tail)) := by
    simpa using spells
  refine .bind (expression_of_primary rfl (by simp +contextual [prefixOf?]) (primary_inParens
    ((lower allowance (by omega)).expression formed (by omega) rfl)) stream wrapped) ?_
  rintro read rest ⟨same, spells⟩
  exact Reads.skipSymbol spells fun last spells => .pure ⟨by simp [same], spells⟩

theorem statement_block (lower : ReadsBelow allowance) {statements : List Stmt}
    (formed : ∀ statement ∈ statements, statement.WellFormed inLoop)
    (enough : 6 * (Stmt.block span statements).words.length ≤ allowance) :
    ReadsBack (statement allowance inLoop) (Stmt.block span statements).words tail
      fun read => read.bare = (Stmt.block span statements).bare := by
  simp only [Stmt.words, List.length_cons, List.length_append] at enough
  obtain ⟨allowance, rfl⟩ : ∃ less, allowance = less + 2 := ⟨allowance - 2, by omega⟩
  intro stream spells
  refine Reads.current spells fun start lexical_eq => ?_
  simp only [lexical_eq]
  have listed := body_readsBack (lower allowance (by omega)) formed (by omega)
  refine .bind (blockOf_readsBack statements listed stream spells) ?_
  rintro block rest ⟨same, spells⟩
  exact .pure ⟨by simp [same], spells⟩

/-- Without an alternative, the word after a conditional must not be `else`. -/
theorem statement_conditional_none (lower : ReadsBelow allowance)
    {condition : Expr} {consequent : Stmt} (conditionFormed : condition.WellFormed)
    (consequentFormed : consequent.WellFormed inLoop)
    (enough : 6 * (Stmt.conditional span condition consequent none).words.length ≤ allowance)
    (notElse : tail.headD .finish ≠ .keyword .elseWord) :
    ReadsBack (statement allowance inLoop)
      (Stmt.conditional span condition consequent none).words tail
      fun read => read.bare = (Stmt.conditional span condition consequent none).bare := by
  simp only [Stmt.words, Expr.asOperand_words, List.length_cons, List.length_append,
    length_inParens] at enough
  obtain ⟨allowance, rfl⟩ : ∃ less, allowance = less + 2 := ⟨allowance - 2, by omega⟩
  have below : ReadsBelow allowance := lower.mono (by omega)
  intro stream spells
  refine Reads.current spells fun start lexical_eq => ?_
  simp only [lexical_eq]
  refine Reads.advance spells (by simp) fun _ rest _ spells => ?_
  have opened : rest.Spells (inParens condition.operandWords ++ (consequent.words ++ tail)) := by
    simpa using spells
  refine .bind (parenthesized_operand _ below conditionFormed (by omega) rest opened) ?_
  rintro test rest ⟨testSame, spells⟩
  refine .bind ((lower allowance (by omega)).statement consequentFormed (by omega)
    (fun _ => notElse) rest spells) ?_
  rintro branch last ⟨branchSame, spells⟩
  have ended : last.current.isKeyword .elseWord = false := by
    rw [Token.isKeyword, spells.current_lexical]
    split
    · rename_i word found
      rw [found] at notElse
      simpa using notElse
    · rfl
  refine .step (current_run last) ?_
  rw [if_neg (by simp [ended])]
  exact .step rfl (.step (spanFrom_run start last)
    (.pure ⟨by simp [testSame, branchSame], spells⟩))

theorem statement_conditional_some (lower : ReadsBelow allowance)
    {condition : Expr} {consequent alternate : Stmt} (conditionFormed : condition.WellFormed)
    (consequentFormed : consequent.WellFormed inLoop) (closed : consequent.isOpen = false)
    (alternateFormed : alternate.WellFormed inLoop)
    (enough :
      6 * (Stmt.conditional span condition consequent (some alternate)).words.length ≤ allowance)
    (notElse : alternate.isOpen = true → tail.headD .finish ≠ .keyword .elseWord) :
    ReadsBack (statement allowance inLoop)
      (Stmt.conditional span condition consequent (some alternate)).words tail
      fun read =>
        read.bare = (Stmt.conditional span condition consequent (some alternate)).bare := by
  simp only [Stmt.words, Expr.asOperand_words, List.length_cons, List.length_append,
    length_inParens] at enough
  obtain ⟨allowance, rfl⟩ : ∃ less, allowance = less + 2 := ⟨allowance - 2, by omega⟩
  have below : ReadsBelow allowance := lower.mono (by omega)
  intro stream spells
  refine Reads.current spells fun start lexical_eq => ?_
  simp only [lexical_eq]
  refine Reads.advance spells (by simp) fun _ rest _ spells => ?_
  have opened : rest.Spells (inParens condition.operandWords ++
      (consequent.words ++ (.keyword .elseWord :: (alternate.words ++ tail)))) := by
    simpa using spells
  refine .bind (parenthesized_operand _ below conditionFormed (by omega) rest opened) ?_
  rintro test rest ⟨testSame, spells⟩
  refine .bind ((lower allowance (by omega)).statement consequentFormed (by omega)
    (by simp [closed]) rest spells) ?_
  rintro branch rest ⟨branchSame, spells⟩
  refine Reads.current spells fun token lexical_eq => ?_
  rw [if_pos (by simp [Token.isKeyword, lexical_eq])]
  refine Reads.advance spells (by simp) fun _ rest _ spells => ?_
  refine .bindMap ((lower allowance (by omega)).statement alternateFormed (by omega) notElse
    rest spells) ?_
  rintro other last ⟨otherSame, spells⟩
  exact .step (spanFrom_run start last)
    (.pure ⟨by simp [testSame, branchSame, otherSame], spells⟩)

theorem statement_loop (lower : ReadsBelow allowance) {condition : Expr}
    {body : Stmt} (conditionFormed : condition.WellFormed) (bodyFormed : body.WellFormed true)
    (enough : 6 * (Stmt.loop span condition body).words.length ≤ allowance)
    (notElse : body.isOpen = true → tail.headD .finish ≠ .keyword .elseWord) :
    ReadsBack (statement allowance inLoop) (Stmt.loop span condition body).words tail
      fun read => read.bare = (Stmt.loop span condition body).bare := by
  simp only [Stmt.words, Expr.asOperand_words, List.length_cons, List.length_append,
    length_inParens] at enough
  obtain ⟨allowance, rfl⟩ : ∃ less, allowance = less + 2 := ⟨allowance - 2, by omega⟩
  have below : ReadsBelow allowance := lower.mono (by omega)
  intro stream spells
  refine Reads.current spells fun start lexical_eq => ?_
  simp only [lexical_eq]
  refine Reads.advance spells (by simp) fun _ rest _ spells => ?_
  have opened : rest.Spells (inParens condition.operandWords ++ (body.words ++ tail)) := by
    simpa using spells
  refine .bind (parenthesized_operand _ below conditionFormed (by omega) rest opened) ?_
  rintro test rest ⟨testSame, spells⟩
  refine .bind ((lower allowance (by omega)).statement bodyFormed (by omega) notElse rest spells) ?_
  rintro read last ⟨same, spells⟩
  exact .step (spanFrom_run start last) (.pure ⟨by simp [testSame, same], spells⟩)

theorem statement_function (lower : ReadsBelow allowance) {name : Option String}
    {names : List String} {body : List Stmt} (plainName : ∀ id ∈ name, isDotted id = false)
    (plain : ∀ param ∈ names, isDotted param = false)
    (formed : ∀ statement ∈ body, statement.WellFormed false)
    (enough : 6 * (Stmt.function span name names body).words.length ≤ allowance) :
    ReadsBack (statement allowance inLoop) (Stmt.function span name names body).words tail
      fun read => read.bare = (Stmt.function span name names body).bare := by
  have short : 6 * (Stmt.listWords body).length + 8 ≤ allowance := by
    cases name <;>
    · simp only [Stmt.words, List.length_cons, List.length_append, length_inParens] at enough
      omega
  obtain ⟨allowance, rfl⟩ : ∃ less, allowance = less + 2 := ⟨allowance - 2, by omega⟩
  have statements := body_readsBack (lower allowance (by omega)) formed (by omega)
  intro stream spells
  cases name with
  | none =>
      refine Reads.current spells fun start lexical_eq => ?_
      simp only [lexical_eq]
      refine Reads.advance spells (by simp) fun _ rest _ spells => ?_
      refine Reads.current spells fun next next_eq => ?_
      simp only [next_eq]
      refine .step rfl ?_
      refine functionRest_readsBack plain statements spells fun block last same spells => ?_
      exact .step (spanFrom_run start last) (.pure ⟨by simp [same], spells⟩)
  | some id =>
      refine Reads.current spells fun start lexical_eq => ?_
      simp only [lexical_eq]
      refine Reads.advance spells (by simp) fun _ rest _ spells => ?_
      refine Reads.current spells fun next next_eq => ?_
      simp only [next_eq]
      refine Reads.advance spells (by simp) fun _ rest _ spells => ?_
      refine .step (refuseDotted_run (plainName id rfl)) (.step rfl ?_)
      refine functionRest_readsBack plain statements spells fun block last same spells => ?_
      exact .step (spanFrom_run start last) (.pure ⟨by simp [same], spells⟩)

/-- A value is read after `return` unless the statement ends there. -/
theorem statement_result (lower : ReadsBelow allowance) {value : Option Expr}
    (formed : ∀ expression ∈ value, expression.WellFormed)
    (enough : 6 * (Stmt.result span value).words.length ≤ allowance) :
    ReadsBack (statement allowance inLoop) (Stmt.result span value).words tail
      fun read => read.bare = (Stmt.result span value).bare := by
  intro stream spells
  cases value with
  | none =>
      simp only [Stmt.words, List.length_cons] at enough
      obtain ⟨allowance, rfl⟩ : ∃ less, allowance = less + 2 := ⟨allowance - 2, by omega⟩
      refine Reads.current spells fun start lexical_eq => ?_
      simp only [lexical_eq]
      refine Reads.advance spells (by simp) fun _ rest _ spells => ?_
      refine Reads.current spells fun next next_eq => ?_
      rw [if_pos (by simp [Token.isSymbol, next_eq])]
      refine .step rfl (Reads.skipSymbol spells fun last spells => ?_)
      exact .step (spanFrom_run start last) (.pure ⟨by simp, spells⟩)
  | some value =>
      simp only [Stmt.words, Expr.asOperand_words, List.length_cons, List.length_append] at enough
      obtain ⟨allowance, rfl⟩ : ∃ less, allowance = less + 2 := ⟨allowance - 2, by omega⟩
      have below : ReadsBelow allowance := lower.mono (by omega)
      refine Reads.current spells fun start lexical_eq => ?_
      simp only [lexical_eq]
      refine Reads.advance spells (by simp) fun _ rest _ spells => ?_
      have inner : rest.Spells (value.operandWords ++ (.symbol .semicolon :: tail)) := by
        simpa using spells
      refine .step (current_run rest) ?_
      rw [if_neg (by simp [operand_goes_on inner])]
      refine .bindMap (expression_operand below (formed value rfl) (by omega) rfl rest inner) ?_
      rintro read rest ⟨same, spells⟩
      refine Reads.skipSymbol spells fun last spells => ?_
      exact .step (spanFrom_run start last) (.pure ⟨by simp [same], spells⟩)

theorem statement_leave (enough : 6 * (Stmt.leave span).words.length ≤ allowance) :
    ReadsBack (statement allowance true) (Stmt.leave span).words tail
      fun read => read.bare = (Stmt.leave span).bare := by
  simp only [Stmt.words, List.length_cons] at enough
  obtain ⟨allowance, rfl⟩ : ∃ less, allowance = less + 2 := ⟨allowance - 2, by omega⟩
  intro stream spells
  refine Reads.current spells fun start lexical_eq => ?_
  simp only [lexical_eq]
  refine Reads.advance spells (by simp) fun _ rest _ spells => ?_
  exact Reads.skipSymbol spells fun last spells => .pure ⟨by simp, spells⟩

theorem statement_proceed (enough : 6 * (Stmt.proceed span).words.length ≤ allowance) :
    ReadsBack (statement allowance true) (Stmt.proceed span).words tail
      fun read => read.bare = (Stmt.proceed span).bare := by
  simp only [Stmt.words, List.length_cons] at enough
  obtain ⟨allowance, rfl⟩ : ∃ less, allowance = less + 2 := ⟨allowance - 2, by omega⟩
  intro stream spells
  refine Reads.current spells fun start lexical_eq => ?_
  simp only [lexical_eq]
  refine Reads.advance spells (by simp) fun _ rest _ spells => ?_
  exact Reads.skipSymbol spells fun last spells => .pure ⟨by simp, spells⟩

theorem statement_construct (lower : ReadsBelow allowance) {className : String}
    {arguments : List Expr} (formed : ∀ argument ∈ arguments, argument.WellFormed)
    (enough : 6 * (Stmt.construct span className arguments).words.length ≤ allowance) :
    ReadsBack (statement allowance inLoop) (Stmt.construct span className arguments).words tail
      fun read => read.bare = (Stmt.construct span className arguments).bare := by
  simp only [Stmt.words, List.length_cons, List.length_append, length_inParens] at enough
  obtain ⟨allowance, rfl⟩ : ∃ less, allowance = less + 2 := ⟨allowance - 2, by omega⟩
  have below : ReadsBelow allowance := lower.mono (by omega)
  intro stream spells
  refine Reads.current spells fun start lexical_eq => ?_
  simp only [lexical_eq]
  refine Reads.advance spells (by simp) fun _ rest _ spells => ?_
  have inner : rest.Spells ((.name className :: inParens (Expr.listWords arguments)) ++
      (.symbol .semicolon :: tail)) := by
    simpa using spells
  have listed := listed_readsBack below formed (by omega)
  refine .bind (constructRest_readsBack className arguments listed rest inner) ?_
  rintro ⟨_, read⟩ rest ⟨⟨rfl, same⟩, afterSpells⟩
  refine Reads.skipSymbol afterSpells fun last spells => ?_
  exact .step (spanFrom_run start last) (.pure ⟨by simp [same], spells⟩)

theorem statement_load (lower : ReadsBelow allowance) {path : Expr}
    (formed : path.WellFormed) (enough : 6 * (Stmt.load span path).words.length ≤ allowance) :
    ReadsBack (statement allowance inLoop) (Stmt.load span path).words tail
      fun read => read.bare = (Stmt.load span path).bare := by
  simp only [Stmt.words, Expr.asOperand_words, List.length_cons, List.length_append,
    length_inParens] at enough
  obtain ⟨allowance, rfl⟩ : ∃ less, allowance = less + 2 := ⟨allowance - 2, by omega⟩
  have below : ReadsBelow allowance := lower.mono (by omega)
  intro stream spells
  refine Reads.current spells fun start lexical_eq => ?_
  simp only [lexical_eq]
  refine Reads.advance spells (by simp) fun _ rest _ spells => ?_
  have inner : rest.Spells (inParens path.operandWords ++ (.symbol .semicolon :: tail)) := by
    simpa using spells
  refine .bind (parenthesized_operand _ below formed (by omega) rest inner) ?_
  rintro read rest ⟨same, spells⟩
  refine Reads.skipSymbol spells fun last spells => ?_
  exact .step (spanFrom_run start last) (.pure ⟨by simp [same], spells⟩)

/-- Every statement is read back within an allowance for its words. -/
theorem statement_readsBack (lower : ReadsBelow allowance) {statement : Stmt}
    (formed : statement.WellFormed inLoop) (enough : 6 * statement.words.length ≤ allowance)
    (notElse : statement.isOpen = true → tail.headD .finish ≠ .keyword .elseWord) :
    ReadsBack (Parser.statement allowance inLoop) statement.words tail
      fun read => read.bare = statement.bare := by
  cases formed with
  | declare _ _ plain initialFormed => exact statement_declare lower plain initialFormed enough
  | expression _ _ expressionFormed => exact statement_expression lower expressionFormed enough
  | block _ statementsFormed => exact statement_block lower statementsFormed enough
  | conditional _ conditionFormed consequentFormed alternateFormed closed =>
      rename_i alternate
      cases alternate with
      | none =>
          exact statement_conditional_none lower conditionFormed consequentFormed enough
            (notElse rfl)
      | some alternate =>
          exact statement_conditional_some lower conditionFormed consequentFormed (closed rfl)
            (alternateFormed alternate rfl) enough notElse
  | loop _ _ conditionFormed bodyFormed =>
      exact statement_loop lower conditionFormed bodyFormed enough notElse
  | function _ _ plainName plain bodyFormed =>
      exact statement_function lower plainName plain bodyFormed enough
  | result _ _ valueFormed => exact statement_result lower valueFormed enough
  | leave _ => exact statement_leave enough
  | proceed _ => exact statement_proceed enough
  | construct _ _ _ argumentsFormed => exact statement_construct lower argumentsFormed enough
  | load _ _ pathFormed => exact statement_load lower pathFormed enough

end Statements

/-- Six steps of the allowance for every word are enough. -/
theorem grammarReads (allowance : Nat) : GrammarReads allowance := by
  induction allowance using Nat.strongRecOn with
  | ind allowance lower =>
      exact ⟨fun formed enough closes => expression_readsBack lower formed enough closes,
        fun formed enough notElse => statement_readsBack lower formed enough notElse⟩

/-! ## Programs -/

/-- Tokens for the words of a program make up a stream that spells its statements. -/
theorem Stream.ofTokens?_words {tokens : List Token} {words : List Lexical}
    (spelled : tokens.map Token.lexical = words ++ [.finish]) :
    ∃ stream, Stream.ofTokens? tokens = some stream ∧ stream.Spells words := by
  obtain ⟨front, back, rfl, front_eq, back_eq⟩ := List.map_eq_append_iff.mp spelled
  obtain ⟨finish, rfl, finish_eq⟩ := List.map_eq_singleton_iff.mp back_eq
  have isFinish : finish.isFinish = true := by simp [Token.isFinish, finish_eq]
  have length_eq : front.length = words.length := by simp [← front_eq]
  rw [Stream.ofTokens?, List.getLast?_concat]
  refine ⟨_, if_pos isFinish, ⟨?_, finish_eq, ?_⟩⟩
  · simpa using front_eq
  · simp [length_eq]

theorem program_readsBack {allowance : Nat} {body : List Stmt} (file : Option String)
    (formed : ∀ statement ∈ body, statement.WellFormed false)
    (enough : 6 * (Stmt.listWords body).length ≤ allowance) :
    ReadsBack (program allowance file) (Stmt.listWords body) []
      fun read => Stmt.bareAll read.body = Stmt.bareAll body := by
  intro stream spells
  refine .step (current_run stream) (.step (get_run stream) ?_)
  have listed := body_readsBack (grammarReads allowance) formed enough
  have bounded : body.length ≤ stream.total + 1 := by
    have shorter := length_le_statementWords body
    have total := spells.length_le
    simp only [List.length_append] at total
    omega
  refine .bind (statementsToEnd_readsBack body listed _ bounded [] stream spells) ?_
  rintro read rest ⟨same, spells⟩
  dsimp only
  split
  · exact .step rfl (.pure ⟨same, spells⟩)
  · exact .step (spanFrom_run _ rest) (.pure ⟨same, spells⟩)

/-- A well-formed program is read back from any tokens for its words. -/
theorem parse_words {allowance : Nat} {program : Program} {tokens : List Token}
    (formed : program.WellFormed) (spelled : tokens.map Token.lexical = program.words)
    (ample : ampleAllowance tokens ≤ allowance) (file source : Option String) :
    ∃ stream read, Stream.ofTokens? tokens = some stream ∧
      parse allowance stream file source = .ok read ∧ read.bare = program.bare := by
  obtain ⟨stream, stream_eq, spells⟩ := Stream.ofTokens?_words spelled
  have length_eq : tokens.length = (Stmt.listWords program.body).length + 1 := by
    have lengths := congrArg List.length spelled
    simpa [Program.words] using lengths
  have enough : 6 * (Stmt.listWords program.body).length ≤ allowance := by
    unfold ampleAllowance at ample
    omega
  obtain ⟨read, rest, run, same, -⟩ :=
    program_readsBack file formed enough stream (by simpa using spells)
  have run : (Parser.program allowance file).run stream = .ok (read, rest) := run
  exact ⟨stream, read, stream_eq, by rw [parse, run], by simp [Program.bare, same]⟩

end Parser

/-- Whatever was read from a text is read again from the tokens that the printer writes for it, in
any file and with any places: only the places and the name of the file are other ones. -/
theorem Program.parse_words_of_ofSource {room : Nat} {source : String} {file : Option String}
    {program : Program} (read : Program.ofSource room source file = .ok program)
    {tokens : List Token} (spelled : tokens.map Token.lexical = program.words) {allowance : Nat}
    (ample : Parser.ampleAllowance tokens ≤ allowance) (otherFile otherSource : Option String) :
    ∃ stream again, Parser.Stream.ofTokens? tokens = some stream ∧
      Parser.parse allowance stream otherFile otherSource = .ok again ∧
      again.bare = program.bare :=
  Parser.parse_words (Program.ofSource_wellFormed read) spelled ample otherFile otherSource

/-- An alternative after two conditionals stays with the inner one. -/
theorem Program.parse_words_of_nested :
    ∃ program, Program.ofSource 60
        "while (a) if (b) if (!c.d) break else e.f = g[h] or i(j)" none = .ok program ∧
      ∃ stream again,
        Parser.Stream.ofTokens? (program.words.map (⟨·, "", default⟩)) = some stream ∧
        Parser.parse (Parser.ampleAllowance (program.words.map (⟨·, "", default⟩))) stream none none
          = .ok again ∧
        again.bare = program.bare := by
  have succeeds : (Program.ofSource 60
      "while (a) if (b) if (!c.d) break else e.f = g[h] or i(j)" none).toBool = true := by
    decide +kernel
  cases read : Program.ofSource 60
      "while (a) if (b) if (!c.d) break else e.f = g[h] or i(j)" none with
  | error fault =>
      rw [read] at succeeds
      cases succeeds
  | ok program =>
      refine ⟨program, rfl, Program.parse_words_of_ofSource read ?_ (Nat.le_refl _) none none⟩
      simp [Function.comp_def]

end Scriptlet
