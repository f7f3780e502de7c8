import Scriptlet.Location

/-!
# Programs as trees

Expressions, statements and programs. Every node carries the span of the source that it was read
from. Only a name and a member can be assigned to.
-/

namespace Scriptlet

/-- The operators with two operands. -/
inductive BinaryOperator where
  | either
  | both
  | equal
  | notEqual
  | less
  | greater
  | lessEqual
  | greaterEqual
  | add
  | subtract
  | multiply
  | divide
  | remainder
  deriving DecidableEq, Repr

namespace BinaryOperator

/-- The spelling of an operator. -/
def text : BinaryOperator → String
  | .either => "||"
  | .both => "&&"
  | .equal => "=="
  | .notEqual => "!="
  | .less => "<"
  | .greater => ">"
  | .lessEqual => "<="
  | .greaterEqual => ">="
  | .add => "+"
  | .subtract => "-"
  | .multiply => "*"
  | .divide => "/"
  | .remainder => "%"

/-- How tightly an operator binds its operands; a greater number binds tighter. -/
def precedence : BinaryOperator → Nat
  | .either => 1
  | .both => 2
  | .equal | .notEqual => 3
  | .less | .greater | .lessEqual | .greaterEqual => 4
  | .add | .subtract => 5
  | .multiply | .divide | .remainder => 6

/-- All operators with two operands. -/
def all : List BinaryOperator :=
  [.either, .both, .equal, .notEqual, .less, .greater, .lessEqual, .greaterEqual, .add, .subtract,
    .multiply, .divide, .remainder]

/-- The operator with a given spelling. -/
def ofText? (text : String) : Option BinaryOperator :=
  all.find? fun operator => operator.text == text

end BinaryOperator

/-- The operators with one operand. -/
inductive UnaryOperator where
  | negate
  | not
  deriving DecidableEq, Repr

/-- The spelling of an operator. -/
def UnaryOperator.text : UnaryOperator → String
  | .negate => "-"
  | .not => "!"

mutual

/-- Expressions. -/
inductive Expr where
  | number (span : Span) (value : Float)
  | text (span : Span) (value : String)
  | bool (span : Span) (value : Bool)
  | name (span : Span) (name : String)
  | binary (span : Span) (left : Expr) (operator : BinaryOperator) (right : Expr)
  | unary (span : Span) (operator : UnaryOperator) (operand : Expr)
  | assign (span : Span) (target : Target) (value : Expr)
  | call (span : Span) (callee : Expr) (arguments : List Expr)
  | member (span : Span) (object : Expr) (member : String)
  | index (span : Span) (object : Expr) (index : Expr)
  | array (span : Span) (elements : List Expr)
  | function (span : Span) (params : List String) (body : List Stmt)
  /-- Loads a module without running it. -/
  | load (span : Span) (path : Expr)
  /-- Constructs an instance without binding a name. -/
  | construct (span : Span) (className : String) (arguments : List Expr)

/-- What can be assigned to. -/
inductive Target where
  | name (span : Span) (name : String)
  | member (span : Span) (object : Expr) (member : String)

/-- Statements. -/
inductive Stmt where
  | declare (span : Span) (name : String) (initial : Option Expr)
  | expression (span : Span) (expression : Expr)
  | block (span : Span) (statements : List Stmt)
  | conditional (span : Span) (condition : Expr) (consequent : Stmt) (alternate : Option Stmt)
  | loop (span : Span) (condition : Expr) (body : Stmt)
  | function (span : Span) (name : Option String) (params : List String) (body : List Stmt)
  /-- Ends the function, or the module or program outside of functions. -/
  | result (span : Span) (value : Option Expr)
  /-- Ends the loop. -/
  | leave (span : Span)
  /-- Ends this round of the loop. -/
  | proceed (span : Span)
  /-- Constructs an instance and, the first time, binds it to the name of its class. -/
  | construct (span : Span) (className : String) (arguments : List Expr)
  /-- Runs a module in the scope of the statement. -/
  | load (span : Span) (path : Expr)

end

/-- The span of an expression. -/
def Expr.span : Expr → Span
  | .number span _ | .text span _ | .bool span _ | .name span _ | .binary span _ _ _
  | .unary span _ _ | .assign span _ _ | .call span _ _ | .member span _ _ | .index span _ _
  | .array span _ | .function span _ _ | .load span _ | .construct span _ _ => span

/-- The span of a target. -/
def Target.span : Target → Span
  | .name span _ | .member span _ _ => span

/-- The span of a statement. -/
def Stmt.span : Stmt → Span
  | .declare span _ _ | .expression span _ | .block span _ | .conditional span _ _ _
  | .loop span _ _ | .function span _ _ _ | .result span _ | .leave span | .proceed span
  | .construct span _ _ | .load span _ => span

/-- The target that an expression denotes, if it can be assigned to. -/
def Expr.target? : Expr → Option Target
  | .name span id => some (.name span id)
  | .member span object field => some (.member span object field)
  | _ => none

/-- A complete program. -/
structure Program where
  span : Span
  body : List Stmt
  /-- The name of the file that holds the program. -/
  file : Option String

end Scriptlet
