import Scriptlet.Tree
import Scriptlet.Token
import Scriptlet.Fault
import Scriptlet.Text.Lines
import Scriptlet.Text.Split

/-!
# From tokens to programs

A recursive-descent parser that never looks beyond the current token and stops at the first mistake.
Nesting is bounded: every level of the grammar takes from an allowance, and a program that is nested
deeper is refused as too deep. Chains of operators, calls and statements are loops, bounded by the
number of tokens, and take nothing from the allowance.
-/

namespace Scriptlet
namespace Parser

/-- Why a program was not read. -/
inductive Failure where
  | refused (cause : Cause) (span : Span)
  | tooDeep
  deriving Repr

/-- The tokens that are left, and the place where the last token that was taken ends. -/
structure Stream where
  rest : List Token
  /-- The token that closes the input. -/
  finish : Token
  last : Location
  /-- The number of tokens at the start, which no loop exceeds. -/
  total : Nat

namespace Stream

/-- A stream of tokens; the last one must end the input. -/
def ofTokens? (tokens : List Token) : Option Stream :=
  match tokens.getLast? with
  | some finish =>
      if finish.isFinish then
        some ⟨tokens.dropLast, finish, (tokens.headD finish).span.stop, tokens.length⟩
      else none
  | none => none

/-- The current token. -/
def current (stream : Stream) : Token :=
  stream.rest.headD stream.finish

/-- The stream after the current token; the end of the input is never passed. -/
def advance (stream : Stream) : Stream :=
  match stream.rest with
  | token :: rest =>
      if token.isFinish then stream else { stream with rest := rest, last := token.span.stop }
  | [] => stream

end Stream

/-- A parser of a part of a program. -/
abbrev Parse := StateT Stream (Except Failure)

/-- The current token. -/
def current : Parse Token :=
  return (← get).current

/-- Takes the current token. -/
def advance : Parse Token := do
  let token ← current
  modify Stream.advance
  return token

/-- Refuses the current token, where something else was expected. -/
def unexpected {α : Type} (expected : String) : Parse α := do
  let token ← current
  if token.isFinish then throw (.refused (.unexpectedEnd expected) token.span)
  else throw (.refused (.unexpectedToken expected token.render) token.span)

/-- Whether the current token is a symbol. -/
def atSymbol (symbol : Symbol) : Parse Bool :=
  return (← current).isSymbol symbol

/-- Takes a symbol if it is the current token. -/
def skipSymbol (symbol : Symbol) : Parse Bool := do
  if ← atSymbol symbol then
    let _ ← advance
    return true
  else return false

/-- Takes a symbol that must be the current token. -/
def takeSymbol (symbol : Symbol) : Parse Token := do
  if ← atSymbol symbol then advance else unexpected s!"'{symbol.text}'"

/-- Takes a name, possibly a dotted one, that must be the current token. -/
def takeName (expected : String) : Parse (String × Token) := do
  let token ← current
  match token.lexical with
  | .name path => return (path, ← advance)
  | _ => unexpected expected

/-- Whether a name is a path of several names. -/
def isDotted (path : String) : Bool :=
  path.toList.contains '.'

/-- Refuses a dotted name that has been taken. -/
def refuseDotted (expected path : String) (token : Token) : Parse Unit := do
  if isDotted path then
    throw (.refused (.unexpectedToken expected token.render) token.span)

/-- The span from the start of a token to the end of the last token that was taken. -/
def spanFrom (start : Token) : Parse Span :=
  return ⟨start.span.start, (← get).last⟩

/-- The expression that a path of names stands for: the first is a name, the others are members. -/
def expandPath (path : String) (start : Location) : Expr :=
  match Text.cutAt '.' path.toList with
  | [] => .name ⟨start, start⟩ path
  | first :: rest =>
      let root : Expr := .name ⟨start, start.shift first.length⟩ (String.ofList first)
      (rest.foldl
        (fun (built : Expr × Nat) segment =>
          let width := built.2 + 1 + segment.length
          (.member ⟨start, start.shift width⟩ built.1 (String.ofList segment), width))
        (root, first.length)).1

/-- The operator with two operands that a token stands for. -/
def operatorOf? (token : Token) : Option BinaryOperator :=
  match token.lexical with
  | .symbol .either | .keyword .orWord => some .either
  | .symbol .both | .keyword .andWord => some .both
  | .symbol .equal => some .equal
  | .symbol .notEqual | .keyword .isntWord => some .notEqual
  | .symbol .less => some .less
  | .symbol .greater => some .greater
  | .symbol .lessEqual => some .lessEqual
  | .symbol .greaterEqual => some .greaterEqual
  | .symbol .plus => some .add
  | .symbol .minus => some .subtract
  | .symbol .star => some .multiply
  | .symbol .slash => some .divide
  | .symbol .percent => some .remainder
  | _ => none

/-- The operator with one operand that a token stands for. -/
def prefixOf? (token : Token) : Option UnaryOperator :=
  match token.lexical with
  | .symbol .minus => some .negate
  | .symbol .bang => some .not
  | _ => none

/-- Extends `left` by operators that bind at least as tightly as `least`. The right operand of each
is read by `operand` from the next tighter level on. -/
def climb (operand : Nat → Parse Expr) (least : Nat) : (bound : Nat) → Expr → Parse Expr
  | 0, left => return left
  | bound + 1, left => do
      match operatorOf? (← current) with
      | none => return left
      | some operator =>
          if operator.precedence < least then return left
          else
            let _ ← advance
            let right ← operand (operator.precedence + 1)
            climb operand least bound (.binary (left.span.through right.span) left operator right)

/-- Reads items separated by commas up to a closing bracket; a comma may follow the last item. The
items so far are in reverse. -/
def itemsUpTo (closing : Symbol) (item : Parse Expr) :
    (bound : Nat) → (read : List Expr) → Parse (List Expr)
  | 0, read => do
      let _ ← takeSymbol closing
      return read.reverse
  | bound + 1, read => do
      if ← atSymbol closing then
        let _ ← advance
        return read.reverse
      else
        let next ← item
        if ← skipSymbol .comma then itemsUpTo closing item bound (next :: read)
        else
          let _ ← takeSymbol closing
          return (next :: read).reverse

/-- Reads items separated by commas up to a closing bracket. -/
def items (closing : Symbol) (item : Parse Expr) : Parse (List Expr) := do
  itemsUpTo closing item ((← get).total + 1) []

/-- Extends an expression by calls and indices. -/
def applications (expression : Parse Expr) : (bound : Nat) → Expr → Parse Expr
  | 0, callee => return callee
  | bound + 1, callee => do
      if ← skipSymbol .openParen then
        let arguments ← items .closeParen expression
        let stop := (← get).last
        applications expression bound (.call ⟨callee.span.start, stop⟩ callee arguments)
      else if ← skipSymbol .openBracket then
        let index ← expression
        let _ ← takeSymbol .closeBracket
        let stop := (← get).last
        applications expression bound (.index ⟨callee.span.start, stop⟩ callee index)
      else return callee

/-- Reads the names of parameters up to the closing parenthesis. -/
def paramsUpTo : (bound : Nat) → (read : List String) → Parse (List String)
  | 0, read => do
      let _ ← takeSymbol .closeParen
      return read.reverse
  | bound + 1, read => do
      if ← atSymbol .closeParen then
        let _ ← advance
        return read.reverse
      else
        match (← current).lexical with
        | .name path =>
            if isDotted path then unexpected "parameter name"
            else
              let _ ← advance
              if ← skipSymbol .comma then paramsUpTo bound (path :: read)
              else
                let _ ← takeSymbol .closeParen
                return (path :: read).reverse
        | _ => unexpected "parameter name"

/-- Reads a list of parameters in parentheses. -/
def params : Parse (List String) := do
  let _ ← takeSymbol .openParen
  paramsUpTo ((← get).total + 1) []

/-- Reads statements up to a closing brace. -/
def statementsUpTo (statement : Parse Stmt) : (bound : Nat) → (read : List Stmt) → Parse (List Stmt)
  | 0, read => do
      let _ ← takeSymbol .closeBrace
      return read.reverse
  | bound + 1, read => do
      if ← skipSymbol .closeBrace then return read.reverse
      else
        let token ← current
        if token.isFinish then throw (.refused (.unexpectedEnd "'\x7d' to close block") token.span)
        else
          let next ← statement
          statementsUpTo statement bound (next :: read)

/-- Reads a block in braces: the statements and the span. -/
def blockOf (statement : Parse Stmt) : Parse (List Stmt × Span) := do
  let start ← takeSymbol .openBrace
  let statements ← statementsUpTo statement ((← get).total + 1) []
  return (statements, ← spanFrom start)

/-- Reads the class name and the arguments after `new`. -/
def constructRest (expression : Parse Expr) : Parse (String × List Expr) := do
  let (className, _) ← takeName "class name after 'new'"
  let _ ← takeSymbol .openParen
  let arguments ← items .closeParen expression
  return (className, arguments)

/-- Reads an expression in parentheses. -/
def parenthesized (expression : Parse Expr) : Parse Expr := do
  let _ ← takeSymbol .openParen
  let inner ← expression
  let _ ← takeSymbol .closeParen
  return inner

/-- Fails because the program is nested too deep. -/
def refuseDepth {α : Type} : Parse α :=
  throw .tooDeep

mutual

/-- Reads an expression; an assignment takes everything to its right. -/
def expression : Nat → Parse Expr
  | 0 | 1 => refuseDepth
  | allowance + 2 => do
      let target ← binary allowance 1
      if ← skipSymbol .assign then
        let value ← expression allowance
        match target.target? with
        | some place => return .assign (target.span.through value.span) place value
        | none => throw (.refused .invalidTarget target.span)
      else return target

/-- Reads an expression of operators that bind at least as tightly as `least`. -/
def binary : Nat → (least : Nat) → Parse Expr
  | 0, _ => refuseDepth
  | allowance + 1, least => do
      let left ← unary allowance
      climb (binary allowance) least ((← get).total + 1) left

/-- Reads an operand with the operators in front of it. -/
def unary : Nat → Parse Expr
  | 0 => refuseDepth
  | allowance + 1 => do
      match prefixOf? (← current) with
      | some operator =>
          let start ← advance
          let operand ← unary allowance
          return .unary (start.span.through operand.span) operator operand
      | none =>
          let callee ← primary allowance
          applications (expression allowance) ((← get).total + 1) callee

/-- Reads an operand without the calls and indices after it. -/
def primary : Nat → Parse Expr
  | 0 | 1 => refuseDepth
  | allowance + 2 => do
      let token ← current
      match token.lexical with
      | .number value =>
          let _ ← advance
          return .number token.span value
      | .text value =>
          let _ ← advance
          return .text token.span value
      | .keyword .trueWord =>
          let _ ← advance
          return .bool token.span true
      | .keyword .falseWord =>
          let _ ← advance
          return .bool token.span false
      | .name path =>
          let _ ← advance
          return expandPath path token.span.start
      | .symbol .openParen => parenthesized (expression allowance)
      | .symbol .openBracket =>
          let _ ← advance
          let elements ← items .closeBracket (expression allowance)
          return .array (← spanFrom token) elements
      | .keyword .fnWord =>
          let _ ← advance
          let params ← params
          let (body, _) ← blockOf (statement allowance false)
          return .function (← spanFrom token) params body
      | .keyword .requireWord =>
          let _ ← advance
          let path ← parenthesized (expression allowance)
          return .load (← spanFrom token) path
      | .keyword .newWord =>
          let _ ← advance
          let (className, arguments) ← constructRest (expression allowance)
          return .construct (← spanFrom token) className arguments
      | _ => unexpected "expression"

/-- Reads a statement, inside or outside of a loop. -/
def statement : Nat → (inLoop : Bool) → Parse Stmt
  | 0, _ | 1, _ => refuseDepth
  | allowance + 2, inLoop => do
      let start ← current
      match start.lexical with
      | .keyword .letWord =>
          let _ ← advance
          let (name, token) ← takeName "identifier after 'let'"
          refuseDotted "plain identifier" name token
          let initial ←
            if ← skipSymbol .assign then some <$> expression allowance else pure none
          let _ ← skipSymbol .semicolon
          return .declare (← spanFrom start) name initial
      | .keyword .ifWord =>
          let _ ← advance
          let condition ← parenthesized (expression allowance)
          let consequent ← statement allowance inLoop
          let alternate ←
            if (← current).isKeyword .elseWord then
              let _ ← advance
              some <$> statement allowance inLoop
            else pure none
          return .conditional (← spanFrom start) condition consequent alternate
      | .keyword .whileWord =>
          let _ ← advance
          let condition ← parenthesized (expression allowance)
          let body ← statement allowance true
          return .loop (← spanFrom start) condition body
      | .keyword .fnWord =>
          let _ ← advance
          let next ← current
          let name ← match next.lexical with
            | .name path => do
                let token ← advance
                refuseDotted "function name" path token
                pure (some path)
            | _ => pure none
          let params ← params
          let (body, _) ← blockOf (statement allowance false)
          return .function (← spanFrom start) name params body
      | .keyword .returnWord =>
          let _ ← advance
          let next ← current
          let value ←
            if next.isSymbol .semicolon || next.isSymbol .closeBrace || next.isFinish then pure none
            else some <$> expression allowance
          let _ ← skipSymbol .semicolon
          return .result (← spanFrom start) value
      | .keyword .breakWord =>
          let _ ← advance
          if inLoop then
            let _ ← skipSymbol .semicolon
            return .leave start.span
          else throw (.refused (.outsideLoop Keyword.breakWord.text) start.span)
      | .keyword .continueWord =>
          let _ ← advance
          if inLoop then
            let _ ← skipSymbol .semicolon
            return .proceed start.span
          else throw (.refused (.outsideLoop Keyword.continueWord.text) start.span)
      | .keyword .newWord =>
          let _ ← advance
          let (className, arguments) ← constructRest (expression allowance)
          let _ ← skipSymbol .semicolon
          return .construct (← spanFrom start) className arguments
      | .keyword .requireWord =>
          let _ ← advance
          let path ← parenthesized (expression allowance)
          let _ ← skipSymbol .semicolon
          return .load (← spanFrom start) path
      | .symbol .openBrace =>
          let (statements, span) ← blockOf (statement allowance inLoop)
          return .block span statements
      | _ =>
          let value ← expression allowance
          let _ ← skipSymbol .semicolon
          return .expression value.span value

end

/-- Reads statements up to the end of the input. -/
def statementsToEnd (statement : Parse Stmt) : (bound : Nat) → (read : List Stmt) →
    Parse (List Stmt)
  | 0, read => return read.reverse
  | bound + 1, read => do
      if (← current).isFinish then return read.reverse
      else
        let next ← statement
        statementsToEnd statement bound (next :: read)

/-- Reads a whole program. -/
def program (allowance : Nat) (file : Option String) : Parse Program := do
  let start ← current
  let body ← statementsToEnd (statement allowance false) ((← get).total + 1) []
  let span ← if body.isEmpty then pure start.span else spanFrom start
  return ⟨span, body, file⟩

/-- An allowance that no program of so many tokens exceeds. -/
def ampleAllowance (tokens : List Token) : Nat :=
  8 * tokens.length + 8

/-- The line of a source text that an error quotes; an unexpected end quotes none. -/
def quotedLine (source : Option String) (cause : Cause) (span : Span) : Option String :=
  match cause with
  | .unexpectedEnd _ => none
  | _ => source.bind (Text.line? · span.start.line)

/-- Reads a program from a stream of tokens; `source` is the text to quote in errors. -/
def parse (allowance : Nat) (stream : Stream) (file source : Option String) :
    Except Fault Program :=
  match (program allowance file).run stream with
  | .ok (program, _) => .ok program
  | .error (.refused cause span) =>
      .error (.script
        { cause := cause, span := some span, sourceLine := quotedLine source cause span })
  | .error .tooDeep => .error .exhausted

end Parser
end Scriptlet
