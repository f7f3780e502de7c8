import Scriptlet.Proofs.Parser.Spelling

/-!
# Reading operands and lists

Every level of the grammar has its own statement: what it reads in front of which words, and within
which allowance.  Here are the operands, which start all chains of operators, and the lists of
expressions, parameters and statements.
-/

namespace Scriptlet
namespace Parser

/-! ## Operands -/

/-- What is read back within an allowance. -/
structure GrammarReads (allowance : Nat) : Prop where
  expression : ∀ {expression : Expr} {tail : List Lexical}, expression.WellFormed →
    6 * expression.words.length ≤ allowance → (tail.headD .finish).closes = true →
    ReadsBack (Parser.expression allowance) expression.words tail
      fun read => read.bare = expression.bare
  statement : ∀ {inLoop : Bool} {statement : Stmt} {tail : List Lexical},
    statement.WellFormed inLoop → 6 * statement.words.length ≤ allowance →
    (statement.isOpen = true → tail.headD .finish ≠ .keyword .elseWord) →
    ReadsBack (Parser.statement allowance inLoop) statement.words tail
      fun read => read.bare = statement.bare

/-- What is read back within every smaller allowance. -/
def ReadsBelow (allowance : Nat) : Prop :=
  ∀ less < allowance, GrammarReads less

theorem ReadsBelow.mono {allowance less : Nat} (lower : ReadsBelow allowance)
    (le : less ≤ allowance) : ReadsBelow less :=
  fun other other_lt => lower other (Nat.lt_of_lt_of_le other_lt le)

theorem operandWords_of_isWord {expression : Expr} (isWord : expression.isWord = true) :
    expression.operandWords = expression.words := by
  simp [Expr.operandWords, asOperand, isWord]

theorem operandWords_of_not_isWord {expression : Expr} (composite : expression.isWord = false) :
    expression.operandWords = inParens expression.words := by
  simp [Expr.operandWords, asOperand, composite]

/-- An operand starts with a word that is neither an operator nor a closing symbol. -/
theorem operandWords_head (expression : Expr) :
    ∃ word words, expression.operandWords = word :: words ∧
      (∀ token : Token, token.lexical = word → prefixOf? token = none) ∧
      word.closes = false ∧ word.isSymbol .closeBrace = false ∧ word ≠ .finish := by
  cases isWord : expression.isWord with
  | false =>
      refine ⟨_, _, operandWords_of_not_isWord isWord, ?_, rfl, rfl, by simp⟩
      intro token lexical_eq
      simp [prefixOf?, lexical_eq]
  | true =>
      rw [operandWords_of_isWord isWord]
      cases expression with
      | bool span value =>
          cases value <;> exact ⟨_, _, rfl, by simp +contextual [prefixOf?], rfl, rfl, by simp⟩
      | number | text | name | member =>
          exact ⟨_, _, rfl, by simp +contextual [prefixOf?], rfl, rfl, by simp⟩
      | _ => cases isWord

/-- In front of an operand, a statement does not end. -/
theorem operand_goes_on {expression : Expr} {tail : List Lexical} {stream : Stream}
    (spells : stream.Spells (expression.operandWords ++ tail)) :
    (stream.current.isSymbol .semicolon || stream.current.isSymbol .closeBrace ||
      stream.current.isFinish) = false := by
  obtain ⟨word, words, words_eq, -, stays, notClosing, notFinish⟩ := operandWords_head expression
  have lexical_eq : stream.current.lexical = word := by
    rw [spells.current_lexical, words_eq]
    rfl
  have notSemicolon : word.isSymbol .semicolon = false := by
    cases word with
    | symbol symbol => cases symbol <;> simp [Lexical.closes, Lexical.isSymbol] at stays ⊢
    | _ => rfl
  have notEnd : stream.current.isFinish = false := isFinish_of_ne (lexical_eq ▸ notFinish)
  rw [spells.isSymbol, spells.isSymbol, ← spells.current_lexical, lexical_eq, notSemicolon,
    notClosing, notEnd]
  rfl

theorem operandWords_length_pos (expression : Expr) : 0 < expression.operandWords.length := by
  obtain ⟨word, words, words_eq, -⟩ := operandWords_head expression
  simp [words_eq]

theorem length_inParens (words : List Lexical) : (inParens words).length = words.length + 2 := by
  simp [inParens]

/-- An expression in parentheses. -/
theorem parenthesized_readsBack {item : Parse Expr} {words tail : List Lexical} {same : Expr → Prop}
    (reads : ReadsBack item words (.symbol .closeParen :: tail) same) :
    ReadsBack (parenthesized item) (inParens words) tail same := by
  intro stream spells
  refine Reads.takeSymbol spells fun _ opened spells => ?_
  refine .bind (reads opened (by simpa using spells)) ?_
  rintro inner rest ⟨same, spells⟩
  exact Reads.takeSymbol spells fun _ closed spells => .pure ⟨same, spells⟩

theorem primary_inParens {allowance : Nat} {words tail : List Lexical} {same : Expr → Prop}
    (reads : ReadsBack (expression allowance) words (.symbol .closeParen :: tail) same) :
    ReadsBack (primary (allowance + 2)) (inParens words) tail same := by
  intro stream spells
  refine Reads.current spells fun token lexical_eq => ?_
  simp only [lexical_eq]
  exact parenthesized_readsBack reads stream spells

theorem primary_operand {allowance : Nat} {expression : Expr} (tail : List Lexical)
    (lower : ReadsBelow allowance) (formed : expression.WellFormed)
    (enough : 6 * expression.operandWords.length ≤ allowance + 4) :
    ReadsBack (primary allowance) expression.operandWords tail
      fun read => read.bare = expression.bare := by
  have positive := operandWords_length_pos expression
  obtain ⟨allowance, rfl⟩ : ∃ less, allowance = less + 2 := ⟨allowance - 2, by omega⟩
  intro stream spells
  cases isWord : expression.isWord with
  | false =>
      rw [operandWords_of_not_isWord isWord] at spells enough
      rw [length_inParens] at enough
      exact primary_inParens ((lower allowance (by omega)).expression formed (by omega) rfl) stream
        spells
  | true =>
      rw [operandWords_of_isWord isWord] at spells
      cases formed with
      | number | text =>
          refine Reads.current spells fun token lexical_eq => ?_
          simp only [lexical_eq]
          exact Reads.advance spells (by simp) fun _ _ _ spells => .pure ⟨by simp, spells⟩
      | bool span value =>
          cases value <;>
          · refine Reads.current spells fun token lexical_eq => ?_
            simp only [lexical_eq]
            exact Reads.advance spells (by simp) fun _ _ _ spells =>
              .pure ⟨by simp, spells⟩
      | name span plain =>
          refine Reads.current spells fun token lexical_eq => ?_
          simp only [lexical_eq]
          exact Reads.advance spells (by simp) fun _ _ _ spells =>
            .pure ⟨expandPath_path (.name span plain) rfl _, spells⟩
      | member span path objectFormed plain =>
          refine Reads.current spells fun token lexical_eq => ?_
          simp only [lexical_eq]
          exact Reads.advance spells (by simp) fun _ _ _ spells =>
            .pure ⟨expandPath_path (.member span path objectFormed plain) path _, spells⟩
      | _ => cases isWord

/-- An operand with the calls and the indices after it. -/
theorem unary_applied {allowance : Nat} {callee : Expr} {words tail : List Lexical}
    {same : Expr → Prop} (lower : ReadsBelow allowance)
    (formed : callee.WellFormed) (enough : 6 * callee.operandWords.length ≤ allowance + 4)
    (reads : ∀ (read : Expr) (rest : Stream), read.bare = callee.bare →
      rest.Spells (words ++ tail) →
      Reads (applications (expression allowance) (rest.total + 1) read) rest
        fun read rest => same read ∧ rest.Spells tail) :
    ReadsBack (unary (allowance + 1)) (callee.operandWords ++ words) tail same := by
  obtain ⟨word, others, words_eq, notPrefix, -, -⟩ := operandWords_head callee
  intro stream spells
  rw [List.append_assoc] at spells
  refine .step (current_run stream) ?_
  have first : prefixOf? stream.current = none := by
    apply notPrefix
    rw [spells.current_lexical, words_eq]
    rfl
  simp only [first]
  refine .bind (primary_operand _ lower formed enough stream spells) ?_
  rintro read rest ⟨readSame, spells⟩
  exact .step (get_run rest) (reads read rest readSame spells)

theorem unary_operand {allowance : Nat} {expression : Expr} {tail : List Lexical}
    (lower : ReadsBelow allowance) (formed : expression.WellFormed)
    (enough : 6 * expression.operandWords.length ≤ allowance + 3)
    (stops : (tail.headD .finish).extendsOperand = false) :
    ReadsBack (unary allowance) expression.operandWords tail
      fun read => read.bare = expression.bare := by
  have positive := operandWords_length_pos expression
  obtain ⟨allowance, rfl⟩ : ∃ less, allowance = less + 1 := ⟨allowance - 1, by omega⟩
  rw [← List.append_nil expression.operandWords]
  refine unary_applied (lower.mono (by omega)) formed (by omega) ?_
  intro callee rest same spells
  refine ⟨callee, rest, applications_stops ?_, same, spells⟩
  rw [spells.current_lexical]
  exact stops

theorem binary_operand {allowance least : Nat} {expression : Expr} {tail : List Lexical}
    (lower : ReadsBelow allowance) (formed : expression.WellFormed)
    (enough : 6 * expression.operandWords.length ≤ allowance + 2)
    (ends : (tail.headD .finish).endsOperands = true) :
    ReadsBack (binary allowance least) expression.operandWords tail
      fun read => read.bare = expression.bare := by
  have positive := operandWords_length_pos expression
  obtain ⟨allowance, rfl⟩ : ∃ less, allowance = less + 1 := ⟨allowance - 1, by omega⟩
  intro stream spells
  have below : ReadsBelow allowance := lower.mono (by omega)
  have stops := Lexical.extendsOperand_of_endsOperands ends
  refine .bind (unary_operand below formed (by omega) stops stream spells) ?_
  rintro left rest ⟨same, spells⟩
  refine .step (get_run rest) ⟨left, rest, climb_stops ?_, same, spells⟩
  rw [spells.current_lexical]
  exact ends

/-- An expression that is an operand with calls and indices, and no operator around it. -/
theorem expression_of_unary {allowance : Nat} {words tail : List Lexical} {same : Expr → Prop}
    (closes : (tail.headD .finish).closes = true)
    (reads : ReadsBack (unary allowance) words tail same) :
    ReadsBack (expression (allowance + 3)) words tail same := by
  intro stream spells
  have operators : Reads (binary (allowance + 1) 1) stream
      fun read rest => same read ∧ rest.Spells tail := by
    refine .bind (reads stream spells) ?_
    rintro left rest ⟨satisfied, spells⟩
    refine .step (get_run rest) ⟨left, rest, climb_stops ?_, satisfied, spells⟩
    rw [spells.current_lexical]
    exact Lexical.endsOperands_of_closes closes
  refine .bind operators ?_
  rintro read rest ⟨satisfied, spells⟩
  exact Reads.noSymbol spells (Lexical.isSymbol_assign_of_closes closes) (.pure ⟨satisfied, spells⟩)

theorem expression_operand {allowance : Nat} {expression : Expr} {tail : List Lexical}
    (lower : ReadsBelow allowance) (formed : expression.WellFormed)
    (enough : 6 * expression.operandWords.length ≤ allowance)
    (closes : (tail.headD .finish).closes = true) :
    ReadsBack (Parser.expression allowance) expression.operandWords tail
      fun read => read.bare = expression.bare := by
  have positive := operandWords_length_pos expression
  obtain ⟨allowance, rfl⟩ : ∃ less, allowance = less + 3 := ⟨allowance - 3, by omega⟩
  have stops := Lexical.extendsOperand_of_endsOperands (Lexical.endsOperands_of_closes closes)
  refine expression_of_unary closes ?_
  exact unary_operand (lower.mono (by omega)) formed (by omega) stops

theorem parenthesized_operand {allowance : Nat} {expression : Expr} (tail : List Lexical)
    (lower : ReadsBelow allowance) (formed : expression.WellFormed)
    (enough : 6 * expression.operandWords.length ≤ allowance) :
    ReadsBack (parenthesized (Parser.expression allowance)) (inParens expression.operandWords) tail
      fun read => read.bare = expression.bare :=
  parenthesized_readsBack (expression_operand lower formed enough rfl)

/-! ## Lists -/

/-- The symbols that close a list of expressions. -/
def closesList (symbol : Symbol) : Prop :=
  symbol = .closeParen ∨ symbol = .closeBracket

/-- The given expressions are read back one by one, as operands. -/
def ReadsItems (item : Parse Expr) (expressions : List Expr) : Prop :=
  ∀ expression ∈ expressions, ∀ tail, (tail.headD .finish).closes = true →
    ReadsBack item expression.operandWords tail fun read => read.bare = expression.bare

/-- The given statements are read back one by one, unless an alternative follows. -/
def ReadsStatements (parser : Parse Stmt) (statements : List Stmt) : Prop :=
  ∀ statement ∈ statements, ∀ tail, tail.headD .finish ≠ .keyword .elseWord →
    ReadsBack parser statement.words tail fun read => read.bare = statement.bare

theorem furtherWords_head {closing : Symbol} (bracket : closesList closing)
    (expressions : List Expr) (tail : List Lexical) :
    ((Expr.furtherWords expressions ++ .symbol closing :: tail).headD .finish).closes = true := by
  cases expressions with
  | nil => rcases bracket with rfl | rfl <;> rfl
  | cons expression rest => simp [Expr.furtherWords, Lexical.closes]

theorem isSymbol_closing {closing : Symbol} (bracket : closesList closing) {word : Lexical}
    (stays : word.closes = false) : word.isSymbol closing = false := by
  cases word with
  | symbol symbol =>
      rcases bracket with rfl | rfl <;> cases symbol <;>
        simp [Lexical.closes, Lexical.isSymbol] at stays ⊢
  | _ => rfl

theorem length_le_furtherWords (expressions : List Expr) :
    expressions.length ≤ (Expr.furtherWords expressions).length := by
  induction expressions with
  | nil => simp
  | cons expression rest ih =>
      simp only [Expr.furtherWords, List.length_cons, List.length_append]
      omega

theorem length_le_listWords (expressions : List Expr) :
    expressions.length ≤ (Expr.listWords expressions).length := by
  cases expressions with
  | nil => simp
  | cons expression rest =>
      have positive := operandWords_length_pos expression
      have rest_le := length_le_furtherWords rest
      simp only [Expr.listWords, Expr.asOperand_words, List.length_cons, List.length_append]
      omega

/-- Items up to a closing bracket, after those that have been read. -/
theorem itemsUpTo_readsBack {item : Parse Expr} {closing : Symbol} (bracket : closesList closing)
    {tail : List Lexical} (expressions : List Expr) (reads : ReadsItems item expressions)
    (bound : Nat) (enough : expressions.length ≤ bound) (before : List Expr) :
    ReadsBack (itemsUpTo closing item bound before)
      (Expr.listWords expressions ++ [.symbol closing]) tail
      fun read => Expr.bareAll read = Expr.bareAll (before.reverse ++ expressions) := by
  induction expressions generalizing bound before with
  | nil =>
      intro stream spells
      cases bound with
      | zero => exact Reads.takeSymbol spells fun _ _ spells => .pure ⟨by simp, spells⟩
      | succ bound =>
          refine .step (atSymbol_run closing stream) ?_
          rw [spells.isSymbol, if_pos (by simp [Expr.listWords, Lexical.isSymbol])]
          exact Reads.advance spells (by simp) fun _ _ _ spells => .pure ⟨by simp, spells⟩
  | cons expression rest ih =>
      intro stream spells
      obtain ⟨bound, rfl⟩ : ∃ less, bound = less + 1 := ⟨bound - 1, by simp at enough; omega⟩
      obtain ⟨word, words, words_eq, -, stays, -⟩ := operandWords_head expression
      have operand_spells : stream.Spells
          (expression.operandWords ++ (Expr.furtherWords rest ++ .symbol closing :: tail)) := by
        simpa using spells
      refine .step (atSymbol_run closing stream) ?_
      rw [operand_spells.isSymbol, words_eq, List.cons_append, List.headD_cons,
        isSymbol_closing bracket stays]
      have follows := furtherWords_head bracket rest tail
      have first := reads expression (List.mem_cons_self ..) _ follows stream operand_spells
      refine .bind first ?_
      rintro next after ⟨same, spells⟩
      cases rest with
      | nil =>
          refine Reads.noSymbol spells ?_ ?_
          · rcases bracket with rfl | rfl <;> rfl
          · refine Reads.takeSymbol spells fun _ _ spells => .pure ⟨?_, spells⟩
            simp [Expr.bareAll_eq_map, same]
      | cons second rest =>
          refine Reads.skipSymbol spells fun later spells => ?_
          have further := ih (fun other found => reads other (List.mem_cons_of_mem _ found)) bound
            (by simpa using enough) (next :: before)
          refine (further later ?_).mono ?_
          · simpa [Expr.listWords, List.append_assoc] using spells
          · rintro read last ⟨readSame, spells⟩
            exact ⟨readSame.trans (by simp [Expr.bareAll_eq_map, same]), spells⟩

theorem items_readsBack {item : Parse Expr} {closing : Symbol} (bracket : closesList closing)
    {tail : List Lexical} (expressions : List Expr) (reads : ReadsItems item expressions) :
    ReadsBack (items closing item) (Expr.listWords expressions ++ [.symbol closing]) tail
      fun read => Expr.bareAll read = Expr.bareAll expressions := by
  intro stream spells
  refine .step (get_run stream) ?_
  refine itemsUpTo_readsBack bracket expressions reads _ ?_ [] stream spells
  have shorter := length_le_listWords expressions
  have total := spells.length_le
  simp only [List.length_append] at total
  omega

theorem length_le_furtherParams (params : List String) :
    params.length ≤ (furtherParams params).length := by
  induction params with
  | nil => simp
  | cons param rest ih =>
      simp only [furtherParams, List.length_cons]
      omega

/-- Parameters up to the closing parenthesis, after those that have been read. -/
theorem paramsUpTo_readsBack {tail : List Lexical} (params : List String)
    (plain : ∀ param ∈ params, isDotted param = false) (bound : Nat)
    (enough : params.length ≤ bound) (before : List String) :
    ReadsBack (paramsUpTo bound before) (paramWords params ++ [.symbol .closeParen]) tail
      fun read => read = before.reverse ++ params := by
  induction params generalizing bound before with
  | nil =>
      intro stream spells
      cases bound with
      | zero => exact Reads.takeSymbol spells fun _ _ spells => .pure ⟨by simp, spells⟩
      | succ bound =>
          refine .step (atSymbol_run .closeParen stream) ?_
          rw [spells.isSymbol, if_pos (by simp [paramWords, Lexical.isSymbol])]
          exact Reads.advance spells (by simp) fun _ _ _ spells => .pure ⟨by simp, spells⟩
  | cons param rest ih =>
      intro stream spells
      obtain ⟨bound, rfl⟩ : ∃ less, bound = less + 1 := ⟨bound - 1, by simp at enough; omega⟩
      refine .step (atSymbol_run .closeParen stream) ?_
      rw [spells.isSymbol, if_neg (by simp [paramWords, Lexical.isSymbol])]
      refine Reads.current spells fun token lexical_eq => ?_
      simp only [lexical_eq, plain param (List.mem_cons_self ..)]
      refine Reads.advance spells (by simp) fun _ _ _ spells => ?_
      cases rest with
      | nil =>
          refine Reads.noSymbol spells rfl ?_
          exact Reads.takeSymbol spells fun _ _ spells => .pure ⟨by simp, spells⟩
      | cons second rest =>
          refine Reads.skipSymbol spells fun later spells => ?_
          have further := ih (fun other found => plain other (List.mem_cons_of_mem _ found)) bound
            (by simpa using enough) (param :: before)
          refine (further later spells).mono ?_
          rintro read last ⟨readSame, spells⟩
          exact ⟨readSame.trans (by simp), spells⟩

theorem params_readsBack {tail : List Lexical} (names : List String)
    (plain : ∀ param ∈ names, isDotted param = false) :
    ReadsBack params (inParens (paramWords names)) tail fun read => read = names := by
  intro stream spells
  refine Reads.takeSymbol spells fun _ opened spells => .step (get_run opened) ?_
  refine paramsUpTo_readsBack names plain _ ?_ [] opened (by simpa using spells)
  have total := spells.length_le
  cases names with
  | nil => simp
  | cons param rest =>
      have shorter := length_le_furtherParams rest
      simp only [paramWords, List.append_eq, List.length_append, List.length_cons] at total ⊢
      omega

/-- Nothing that a statement starts with closes a block, ends the input or goes on with a
conditional. -/
theorem words_head (statement : Stmt) :
    ∃ word words, statement.words = word :: words ∧ word.isSymbol .closeBrace = false ∧
      word ≠ .finish ∧ word ≠ .keyword .elseWord := by
  cases statement with
  | declare span name initial => cases initial <;> exact ⟨_, _, rfl, rfl, by simp, by simp⟩
  | conditional span condition consequent alternate =>
      cases alternate <;> exact ⟨_, _, rfl, rfl, by simp, by simp⟩
  | function span name params body => cases name <;> exact ⟨_, _, rfl, rfl, by simp, by simp⟩
  | result span value => cases value <;> exact ⟨_, _, rfl, rfl, by simp, by simp⟩
  | _ => exact ⟨_, _, rfl, rfl, by simp, by simp⟩

theorem listWords_head (statements : List Stmt) (tail : List Lexical)
    (ends : tail.headD .finish ≠ .keyword .elseWord) :
    (Stmt.listWords statements ++ tail).headD .finish ≠ .keyword .elseWord := by
  cases statements with
  | nil => simpa [Stmt.listWords] using ends
  | cons statement rest =>
      obtain ⟨word, words, words_eq, -, -, notElse⟩ := words_head statement
      simpa [Stmt.listWords, words_eq] using notElse

theorem length_le_statementWords (statements : List Stmt) :
    statements.length ≤ (Stmt.listWords statements).length := by
  induction statements with
  | nil => simp
  | cons statement rest ih =>
      obtain ⟨word, words, words_eq, -⟩ := words_head statement
      simp only [Stmt.listWords, words_eq, List.length_cons, List.length_append]
      omega

/-- Statements up to the closing brace, after those that have been read. -/
theorem statementsUpTo_readsBack {parser : Parse Stmt} {tail : List Lexical}
    (statements : List Stmt) (reads : ReadsStatements parser statements) (bound : Nat)
    (enough : statements.length ≤ bound) (before : List Stmt) :
    ReadsBack (statementsUpTo parser bound before)
      (Stmt.listWords statements ++ [.symbol .closeBrace]) tail
      fun read => Stmt.bareAll read = Stmt.bareAll (before.reverse ++ statements) := by
  induction statements generalizing bound before with
  | nil =>
      intro stream spells
      cases bound with
      | zero => exact Reads.takeSymbol spells fun _ _ spells => .pure ⟨by simp, spells⟩
      | succ bound => exact Reads.skipSymbol spells fun _ spells => .pure ⟨by simp, spells⟩
  | cons statement rest ih =>
      intro stream spells
      obtain ⟨bound, rfl⟩ : ∃ less, bound = less + 1 := ⟨bound - 1, by simp at enough; omega⟩
      obtain ⟨word, words, words_eq, notClosing, notFinish, -⟩ := words_head statement
      have first_spells : stream.Spells
          (statement.words ++ (Stmt.listWords rest ++ .symbol .closeBrace :: tail)) := by
        simpa [Stmt.listWords, List.append_assoc] using spells
      have word_spells := first_spells
      rw [words_eq] at word_spells
      refine Reads.noSymbol word_spells notClosing (Reads.current word_spells ?_)
      intro token lexical_eq
      rw [if_neg (by simp [isFinish_of_ne (lexical_eq ▸ notFinish)])]
      have follows := listWords_head rest (.symbol .closeBrace :: tail) (by simp)
      refine .bind (reads statement (List.mem_cons_self ..) _ follows stream first_spells) ?_
      rintro next after ⟨same, spells⟩
      have further := ih (fun other found => reads other (List.mem_cons_of_mem _ found)) bound
        (by simpa using enough) (next :: before)
      refine (further after (by simpa using spells)).mono ?_
      rintro read last ⟨readSame, spells⟩
      exact ⟨readSame.trans (by simp [Stmt.bareAll_eq_map, same]), spells⟩

/-- Statements up to the end of the input, after those that have been read. -/
theorem statementsToEnd_readsBack {parser : Parse Stmt} (statements : List Stmt)
    (reads : ReadsStatements parser statements) (bound : Nat)
    (enough : statements.length ≤ bound) (before : List Stmt) :
    ReadsBack (statementsToEnd parser bound before) (Stmt.listWords statements) []
      fun read => Stmt.bareAll read = Stmt.bareAll (before.reverse ++ statements) := by
  induction statements generalizing bound before with
  | nil =>
      intro stream spells
      cases bound with
      | zero => exact .pure ⟨by simp, spells⟩
      | succ bound =>
          have finished : stream.current.isFinish = true := by
            simp [Token.isFinish, spells.current_lexical, Stmt.listWords]
          refine .step (current_run stream) ?_
          rw [if_pos finished]
          exact .pure ⟨by simp, spells⟩
  | cons statement rest ih =>
      intro stream spells
      obtain ⟨bound, rfl⟩ : ∃ less, bound = less + 1 := ⟨bound - 1, by simp at enough; omega⟩
      obtain ⟨word, words, words_eq, -, notFinish, -⟩ := words_head statement
      have first_spells : stream.Spells (statement.words ++ (Stmt.listWords rest ++ [])) := by
        simpa [Stmt.listWords] using spells
      have word_spells := first_spells
      rw [words_eq] at word_spells
      refine Reads.current word_spells fun token lexical_eq => ?_
      rw [if_neg (by simp [isFinish_of_ne (lexical_eq ▸ notFinish)])]
      have follows := listWords_head rest [] (by simp)
      refine .bind (reads statement (List.mem_cons_self ..) _ follows stream first_spells) ?_
      rintro next after ⟨same, spells⟩
      have further := ih (fun other found => reads other (List.mem_cons_of_mem _ found)) bound
        (by simpa using enough) (next :: before)
      refine (further after spells).mono ?_
      rintro read last ⟨readSame, spells⟩
      exact ⟨readSame.trans (by simp [Stmt.bareAll_eq_map, same]), spells⟩

theorem blockOf_readsBack {parser : Parse Stmt} {tail : List Lexical} (statements : List Stmt)
    (reads : ReadsStatements parser statements) :
    ReadsBack (blockOf parser)
      (.symbol .openBrace :: (Stmt.listWords statements ++ [.symbol .closeBrace])) tail
      fun read => Stmt.bareAll read.1 = Stmt.bareAll statements := by
  intro stream spells
  refine Reads.takeSymbol spells fun start opened spells => .step (get_run opened) ?_
  have enough : statements.length ≤ opened.total + 1 := by
    have shorter := length_le_statementWords statements
    have total := spells.length_le
    simp only [List.append_eq, List.length_append] at total
    omega
  refine .bind (statementsUpTo_readsBack statements reads _ enough [] opened spells) ?_
  rintro read rest ⟨same, spells⟩
  exact .step (spanFrom_run start rest) (.pure ⟨same, spells⟩)

theorem constructRest_readsBack {item : Parse Expr} {tail : List Lexical} (className : String)
    (arguments : List Expr) (reads : ReadsItems item arguments) :
    ReadsBack (constructRest item) (.name className :: inParens (Expr.listWords arguments)) tail
      fun read => read.1 = className ∧ Expr.bareAll read.2 = Expr.bareAll arguments := by
  intro stream spells
  refine .step (takeName_run spells.current_lexical) ?_
  refine Reads.takeSymbol (spells.advance (by simp)) fun _ opened spells => ?_
  refine .bind (items_readsBack (Or.inl rfl) arguments reads opened spells) ?_
  rintro read rest ⟨same, spells⟩
  exact .pure ⟨⟨rfl, same⟩, spells⟩

/-- The parameters and the body of a function. -/
theorem functionRest_readsBack {α : Type} {parser : Parse Stmt} {tail : List Lexical}
    {names : List String} {body : List Stmt} {next : List String → List Stmt × Span → Parse α}
    {post : α → Stream → Prop} {stream : Stream}
    (plain : ∀ param ∈ names, isDotted param = false) (reads : ReadsStatements parser body)
    (spells : stream.Spells (functionWords names body ++ tail))
    (after : ∀ (block : List Stmt × Span) (rest : Stream),
      Stmt.bareAll block.1 = Stmt.bareAll body → rest.Spells tail →
        Reads (next names block) rest post) :
    Reads (do let names ← params; let block ← blockOf parser; next names block) stream post := by
  have opened : stream.Spells (inParens (paramWords names) ++ (.symbol .openBrace ::
      (Stmt.listWords body ++ [.symbol .closeBrace]) ++ tail)) := by
    simpa [functionWords, List.append_assoc] using spells
  refine .bind (params_readsBack names plain stream opened) ?_
  rintro _ rest ⟨rfl, bodySpells⟩
  refine .bind (blockOf_readsBack body reads rest bodySpells) ?_
  rintro block rest ⟨same, afterSpells⟩
  exact after block rest same afterSpells

end Parser
end Scriptlet
