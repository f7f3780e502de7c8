import Scriptlet.Tree.Parser

/-!
# Well-formed trees

The trees that stand for program texts.  A member is part of a path that starts with a name, and the
names on a path have no dots.  Loops are left and taken up again inside of them only, where a
function starts anew.  An alternative never follows a conditional that could have taken it.
-/

namespace Scriptlet

/-- Whether an expression is a name or a path of members that starts with a name. -/
def Expr.isPath : Expr → Bool
  | .name _ _ => true
  | .member _ object _ => object.isPath
  | _ => false

/-- Whether an `else` after a statement would belong to it. -/
def Stmt.isOpen : Stmt → Bool
  | .conditional _ _ _ none => true
  | .conditional _ _ _ (some alternate) => alternate.isOpen
  | .loop _ _ body => body.isOpen
  | _ => false

mutual

/-- The expressions that stand for texts. -/
inductive Expr.WellFormed : Expr → Prop where
  | number (span : Span) (value : Float) : Expr.WellFormed (.number span value)
  | text (span : Span) (value : String) : Expr.WellFormed (.text span value)
  | bool (span : Span) (value : Bool) : Expr.WellFormed (.bool span value)
  | name (span : Span) {name : String} (plain : Parser.isDotted name = false) :
      Expr.WellFormed (.name span name)
  | binary (span : Span) {left right : Expr} (operator : BinaryOperator)
      (leftFormed : Expr.WellFormed left) (rightFormed : Expr.WellFormed right) :
      Expr.WellFormed (.binary span left operator right)
  | unary (span : Span) {operand : Expr} (operator : UnaryOperator)
      (operandFormed : Expr.WellFormed operand) : Expr.WellFormed (.unary span operator operand)
  | assign (span : Span) {target : Target} {value : Expr} (targetFormed : Target.WellFormed target)
      (valueFormed : Expr.WellFormed value) : Expr.WellFormed (.assign span target value)
  | call (span : Span) {callee : Expr} {arguments : List Expr}
      (calleeFormed : Expr.WellFormed callee)
      (argumentsFormed : ∀ argument ∈ arguments, Expr.WellFormed argument) :
      Expr.WellFormed (.call span callee arguments)
  | member (span : Span) {object : Expr} {member : String} (path : object.isPath = true)
      (objectFormed : Expr.WellFormed object) (plain : Parser.isDotted member = false) :
      Expr.WellFormed (.member span object member)
  | index (span : Span) {object index : Expr} (objectFormed : Expr.WellFormed object)
      (indexFormed : Expr.WellFormed index) : Expr.WellFormed (.index span object index)
  | array (span : Span) {elements : List Expr}
      (elementsFormed : ∀ element ∈ elements, Expr.WellFormed element) :
      Expr.WellFormed (.array span elements)
  | function (span : Span) {params : List String} {body : List Stmt}
      (plain : ∀ param ∈ params, Parser.isDotted param = false)
      (bodyFormed : ∀ statement ∈ body, Stmt.WellFormed false statement) :
      Expr.WellFormed (.function span params body)
  | load (span : Span) {path : Expr} (pathFormed : Expr.WellFormed path) :
      Expr.WellFormed (.load span path)
  | construct (span : Span) (className : String) {arguments : List Expr}
      (argumentsFormed : ∀ argument ∈ arguments, Expr.WellFormed argument) :
      Expr.WellFormed (.construct span className arguments)

/-- The targets that stand for texts. -/
inductive Target.WellFormed : Target → Prop where
  | name (span : Span) {name : String} (plain : Parser.isDotted name = false) :
      Target.WellFormed (.name span name)
  | member (span : Span) {object : Expr} {member : String} (path : object.isPath = true)
      (objectFormed : Expr.WellFormed object) (plain : Parser.isDotted member = false) :
      Target.WellFormed (.member span object member)

/-- The statements that stand for texts, inside or outside of a loop. -/
inductive Stmt.WellFormed : (inLoop : Bool) → Stmt → Prop where
  | declare (inLoop : Bool) (span : Span) {name : String} {initial : Option Expr}
      (plain : Parser.isDotted name = false)
      (initialFormed : ∀ value ∈ initial, Expr.WellFormed value) :
      Stmt.WellFormed inLoop (.declare span name initial)
  | expression (inLoop : Bool) (span : Span) {expression : Expr}
      (expressionFormed : Expr.WellFormed expression) :
      Stmt.WellFormed inLoop (.expression span expression)
  | block {inLoop : Bool} (span : Span) {statements : List Stmt}
      (statementsFormed : ∀ statement ∈ statements, Stmt.WellFormed inLoop statement) :
      Stmt.WellFormed inLoop (.block span statements)
  | conditional {inLoop : Bool} (span : Span) {condition : Expr} {consequent : Stmt}
      {alternate : Option Stmt} (conditionFormed : Expr.WellFormed condition)
      (consequentFormed : Stmt.WellFormed inLoop consequent)
      (alternateFormed : ∀ statement ∈ alternate, Stmt.WellFormed inLoop statement)
      (closed : alternate.isSome = true → consequent.isOpen = false) :
      Stmt.WellFormed inLoop (.conditional span condition consequent alternate)
  | loop (inLoop : Bool) (span : Span) {condition : Expr} {body : Stmt}
      (conditionFormed : Expr.WellFormed condition) (bodyFormed : Stmt.WellFormed true body) :
      Stmt.WellFormed inLoop (.loop span condition body)
  | function (inLoop : Bool) (span : Span) {name : Option String} {params : List String}
      {body : List Stmt} (plainName : ∀ id ∈ name, Parser.isDotted id = false)
      (plain : ∀ param ∈ params, Parser.isDotted param = false)
      (bodyFormed : ∀ statement ∈ body, Stmt.WellFormed false statement) :
      Stmt.WellFormed inLoop (.function span name params body)
  | result (inLoop : Bool) (span : Span) {value : Option Expr}
      (valueFormed : ∀ expression ∈ value, Expr.WellFormed expression) :
      Stmt.WellFormed inLoop (.result span value)
  | leave (span : Span) : Stmt.WellFormed true (.leave span)
  | proceed (span : Span) : Stmt.WellFormed true (.proceed span)
  | construct (inLoop : Bool) (span : Span) (className : String) {arguments : List Expr}
      (argumentsFormed : ∀ argument ∈ arguments, Expr.WellFormed argument) :
      Stmt.WellFormed inLoop (.construct span className arguments)
  | load (inLoop : Bool) (span : Span) {path : Expr} (pathFormed : Expr.WellFormed path) :
      Stmt.WellFormed inLoop (.load span path)

end

/-- The programs that stand for texts: nothing leaves a loop outside of loops. -/
def Program.WellFormed (program : Program) : Prop :=
  ∀ statement ∈ program.body, statement.WellFormed false

end Scriptlet
