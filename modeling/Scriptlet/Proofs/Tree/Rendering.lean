import Scriptlet.Token
import Scriptlet.Tree

/-!
# Trees as tokens

A reference printer.  Every composite operand stands in parentheses, a path of members is one dotted
name, and every statement that may be closed by a semicolon is.  What a tree says apart from its
places is the bare tree.
-/

namespace Scriptlet

/-! ## Bare trees -/

mutual

/-- An expression without its places. -/
@[simp]
def Expr.bare : Expr → Expr
  | .number _ value => .number default value
  | .text _ value => .text default value
  | .bool _ value => .bool default value
  | .name _ name => .name default name
  | .binary _ left operator right => .binary default left.bare operator right.bare
  | .unary _ operator operand => .unary default operator operand.bare
  | .assign _ target value => .assign default target.bare value.bare
  | .call _ callee arguments => .call default callee.bare (Expr.bareAll arguments)
  | .member _ object member => .member default object.bare member
  | .index _ object index => .index default object.bare index.bare
  | .array _ elements => .array default (Expr.bareAll elements)
  | .function _ params body => .function default params (Stmt.bareAll body)
  | .load _ path => .load default path.bare
  | .construct _ className arguments => .construct default className (Expr.bareAll arguments)

/-- A target without its places. -/
@[simp]
def Target.bare : Target → Target
  | .name _ name => .name default name
  | .member _ object member => .member default object.bare member

/-- Expressions without their places. -/
def Expr.bareAll : List Expr → List Expr
  | [] => []
  | expression :: rest => expression.bare :: Expr.bareAll rest

/-- A statement without its places. -/
@[simp]
def Stmt.bare : Stmt → Stmt
  | .declare _ name none => .declare default name none
  | .declare _ name (some initial) => .declare default name (some initial.bare)
  | .expression _ expression => .expression default expression.bare
  | .block _ statements => .block default (Stmt.bareAll statements)
  | .conditional _ condition consequent none =>
      .conditional default condition.bare consequent.bare none
  | .conditional _ condition consequent (some alternate) =>
      .conditional default condition.bare consequent.bare (some alternate.bare)
  | .loop _ condition body => .loop default condition.bare body.bare
  | .function _ name params body => .function default name params (Stmt.bareAll body)
  | .result _ none => .result default none
  | .result _ (some value) => .result default (some value.bare)
  | .leave _ => .leave default
  | .proceed _ => .proceed default
  | .construct _ className arguments => .construct default className (Expr.bareAll arguments)
  | .load _ path => .load default path.bare

/-- Statements without their places. -/
def Stmt.bareAll : List Stmt → List Stmt
  | [] => []
  | statement :: rest => statement.bare :: Stmt.bareAll rest

end

/-- A program without its places and without the name of its file. -/
def Program.bare (program : Program) : Program :=
  ⟨default, Stmt.bareAll program.body, none⟩

theorem Expr.bareAll_eq_map (expressions : List Expr) :
    Expr.bareAll expressions = expressions.map Expr.bare := by
  induction expressions with
  | nil => simp [Expr.bareAll]
  | cons expression rest ih => simp [Expr.bareAll, ih]

theorem Stmt.bareAll_eq_map (statements : List Stmt) :
    Stmt.bareAll statements = statements.map Stmt.bare := by
  induction statements with
  | nil => simp [Stmt.bareAll]
  | cons statement rest ih => simp [Stmt.bareAll, ih]

theorem Stmt.bare_declare (span : Span) (name : String) (initial : Option Expr) :
    (declare span name initial).bare = declare default name (initial.map Expr.bare) := by
  cases initial <;> rfl

theorem Stmt.bare_conditional (span : Span) (condition : Expr) (consequent : Stmt)
    (alternate : Option Stmt) : (conditional span condition consequent alternate).bare =
      conditional default condition.bare consequent.bare (alternate.map Stmt.bare) := by
  cases alternate <;> rfl

theorem Stmt.bare_result (span : Span) (value : Option Expr) :
    (result span value).bare = result default (value.map Expr.bare) := by
  cases value <;> rfl

/-! ## Words -/

/-- The symbol of an operator with two operands. -/
def BinaryOperator.symbol : BinaryOperator → Symbol
  | .either => .either
  | .both => .both
  | .equal => .equal
  | .notEqual => .notEqual
  | .less => .less
  | .greater => .greater
  | .lessEqual => .lessEqual
  | .greaterEqual => .greaterEqual
  | .add => .plus
  | .subtract => .minus
  | .multiply => .star
  | .divide => .slash
  | .remainder => .percent

/-- The symbol of an operator with one operand. -/
def UnaryOperator.symbol : UnaryOperator → Symbol
  | .negate => .minus
  | .not => .bang

/-- Whether an expression is written as a single word. -/
def Expr.isWord : Expr → Bool
  | .number _ _ | .text _ _ | .bool _ _ | .name _ _ | .member _ _ _ => true
  | _ => false

/-- The dotted name of a path of members. -/
def Expr.path : Expr → String
  | .name _ id => id
  | .member _ object field => object.path ++ "." ++ field
  | _ => ""

/-- The dotted name of a target. -/
def Target.path : Target → String
  | .name _ id => id
  | .member _ object field => object.path ++ "." ++ field

/-- Words in parentheses. -/
def inParens (words : List Lexical) : List Lexical :=
  .symbol .openParen :: (words ++ [.symbol .closeParen])

/-- The words of an operand: those of the expression, in parentheses unless it is a single word. -/
def asOperand (isWord : Bool) (words : List Lexical) : List Lexical :=
  if isWord then words else inParens words

/-- The words of a list of parameters, each after a comma. -/
def furtherParams : List String → List Lexical
  | [] => []
  | param :: rest => .symbol .comma :: .name param :: furtherParams rest

/-- The words of a list of parameters. -/
def paramWords : List String → List Lexical
  | [] => []
  | param :: rest => .name param :: furtherParams rest

mutual

/-- The words of an expression that stands by itself. -/
@[simp]
def Expr.words : Expr → List Lexical
  | .number _ value => [.number value]
  | .text _ value => [.text value]
  | .bool _ true => [.keyword .trueWord]
  | .bool _ false => [.keyword .falseWord]
  | .name _ name => [.name name]
  | .binary _ left operator right =>
      asOperand left.isWord left.words ++
        .symbol operator.symbol :: asOperand right.isWord right.words
  | .unary _ operator operand =>
      .symbol operator.symbol :: asOperand operand.isWord operand.words
  | .assign _ target value =>
      .name target.path :: .symbol .assign :: asOperand value.isWord value.words
  | .call _ callee arguments =>
      asOperand callee.isWord callee.words ++ inParens (Expr.listWords arguments)
  | .member _ object member => [.name (object.path ++ "." ++ member)]
  | .index _ object index =>
      asOperand object.isWord object.words ++
        .symbol .openBracket ::
          (asOperand index.isWord index.words ++ [.symbol .closeBracket])
  | .array _ elements =>
      .symbol .openBracket :: (Expr.listWords elements ++ [.symbol .closeBracket])
  | .function _ params body =>
      .keyword .fnWord ::
        (inParens (paramWords params) ++
          .symbol .openBrace :: (Stmt.listWords body ++ [.symbol .closeBrace]))
  | .load _ path => .keyword .requireWord :: inParens (asOperand path.isWord path.words)
  | .construct _ className arguments =>
      .keyword .newWord :: .name className :: inParens (Expr.listWords arguments)

/-- The words of operands with commas between them. -/
@[simp]
def Expr.listWords : List Expr → List Lexical
  | [] => []
  | expression :: rest => asOperand expression.isWord expression.words ++ Expr.furtherWords rest

/-- The words of operands, each after a comma. -/
@[simp]
def Expr.furtherWords : List Expr → List Lexical
  | [] => []
  | expression :: rest =>
      .symbol .comma ::
        (asOperand expression.isWord expression.words ++ Expr.furtherWords rest)

/-- The words of a statement. -/
@[simp]
def Stmt.words : Stmt → List Lexical
  | .declare _ name none => [.keyword .letWord, .name name, .symbol .semicolon]
  | .declare _ name (some initial) =>
      .keyword .letWord :: .name name :: .symbol .assign ::
        (asOperand initial.isWord initial.words ++ [.symbol .semicolon])
  | .expression _ expression => inParens expression.words ++ [.symbol .semicolon]
  | .block _ statements =>
      .symbol .openBrace :: (Stmt.listWords statements ++ [.symbol .closeBrace])
  | .conditional _ condition consequent none =>
      .keyword .ifWord ::
        (inParens (asOperand condition.isWord condition.words) ++ consequent.words)
  | .conditional _ condition consequent (some alternate) =>
      .keyword .ifWord ::
        (inParens (asOperand condition.isWord condition.words) ++
          (consequent.words ++ .keyword .elseWord :: alternate.words))
  | .loop _ condition body =>
      .keyword .whileWord ::
        (inParens (asOperand condition.isWord condition.words) ++ body.words)
  | .function _ none params body =>
      .keyword .fnWord ::
        (inParens (paramWords params) ++
          .symbol .openBrace :: (Stmt.listWords body ++ [.symbol .closeBrace]))
  | .function _ (some name) params body =>
      .keyword .fnWord :: .name name ::
        (inParens (paramWords params) ++
          .symbol .openBrace :: (Stmt.listWords body ++ [.symbol .closeBrace]))
  | .result _ none => [.keyword .returnWord, .symbol .semicolon]
  | .result _ (some value) =>
      .keyword .returnWord :: (asOperand value.isWord value.words ++ [.symbol .semicolon])
  | .leave _ => [.keyword .breakWord, .symbol .semicolon]
  | .proceed _ => [.keyword .continueWord, .symbol .semicolon]
  | .construct _ className arguments =>
      .keyword .newWord :: .name className ::
        (inParens (Expr.listWords arguments) ++ [.symbol .semicolon])
  | .load _ path =>
      .keyword .requireWord ::
        (inParens (asOperand path.isWord path.words) ++ [.symbol .semicolon])

/-- The words of statements in a row. -/
@[simp]
def Stmt.listWords : List Stmt → List Lexical
  | [] => []
  | statement :: rest => statement.words ++ Stmt.listWords rest

end

/-- The words of an expression in the place of an operand. -/
def Expr.operandWords (expression : Expr) : List Lexical :=
  asOperand expression.isWord expression.words

@[simp]
theorem Expr.asOperand_words (expression : Expr) :
    asOperand expression.isWord expression.words = expression.operandWords :=
  rfl

/-- The words of a function after its keyword and its name. -/
def functionWords (params : List String) (body : List Stmt) : List Lexical :=
  inParens (paramWords params) ++
    .symbol .openBrace :: (Stmt.listWords body ++ [.symbol .closeBrace])

/-- The words of a program, up to the end of the input. -/
def Program.words (program : Program) : List Lexical :=
  Stmt.listWords program.body ++ [.finish]

end Scriptlet
