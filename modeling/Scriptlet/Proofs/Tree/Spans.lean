import Scriptlet.Tree

/-!
# Spans of a tree

The spans of all nodes of a tree, its own one first.
-/

namespace Scriptlet

mutual

/-- The spans of an expression and of everything in it. -/
def Expr.spans : Expr → List Span
  | .number span _ | .text span _ | .bool span _ | .name span _ => [span]
  | .binary span left _ right => span :: (left.spans ++ right.spans)
  | .unary span _ operand => span :: operand.spans
  | .assign span target value => span :: (target.spans ++ value.spans)
  | .call span callee arguments => span :: (callee.spans ++ expressionSpans arguments)
  | .member span object _ => span :: object.spans
  | .index span object place => span :: (object.spans ++ place.spans)
  | .array span elements => span :: expressionSpans elements
  | .function span _ body => span :: bodySpans body
  | .load span path => span :: path.spans
  | .construct span _ arguments => span :: expressionSpans arguments

/-- The spans of a target and of everything in it. -/
def Target.spans : Target → List Span
  | .name span _ => [span]
  | .member span object _ => span :: object.spans

/-- The spans of several expressions. -/
def expressionSpans : List Expr → List Span
  | [] => []
  | expression :: rest => expression.spans ++ expressionSpans rest

/-- The spans of a statement and of everything in it. -/
def Stmt.spans : Stmt → List Span
  | .declare span _ none | .result span none | .leave span | .proceed span => [span]
  | .declare span _ (some value) | .result span (some value) | .expression span value =>
      span :: value.spans
  | .block span statements => span :: bodySpans statements
  | .conditional span condition consequent none =>
      span :: (condition.spans ++ consequent.spans)
  | .conditional span condition consequent (some alternate) =>
      span :: (condition.spans ++ (consequent.spans ++ alternate.spans))
  | .loop span condition body => span :: (condition.spans ++ body.spans)
  | .function span _ _ body => span :: bodySpans body
  | .construct span _ arguments => span :: expressionSpans arguments
  | .load span path => span :: path.spans

/-- The spans of a body. -/
def bodySpans : List Stmt → List Span
  | [] => []
  | statement :: rest => statement.spans ++ bodySpans rest

end

/-- The spans of a program and of everything in it. -/
def Program.spans (program : Program) : List Span :=
  program.span :: bodySpans program.body

theorem mem_expressionSpans {expressions : List Expr} {span : Span} :
    span ∈ expressionSpans expressions ↔ ∃ part ∈ expressions, span ∈ part.spans := by
  induction expressions with
  | nil => simp [expressionSpans]
  | cons expression rest ih => simp [expressionSpans, ih]

theorem mem_bodySpans {statements : List Stmt} {span : Span} :
    span ∈ bodySpans statements ↔ ∃ part ∈ statements, span ∈ part.spans := by
  induction statements with
  | nil => simp [bodySpans]
  | cons statement rest ih => simp [bodySpans, ih]

theorem Expr.span_mem_spans (expression : Expr) : expression.span ∈ expression.spans := by
  cases expression <;> simp [Expr.span, Expr.spans]

theorem Target.span_mem_spans (target : Target) : target.span ∈ target.spans := by
  cases target <;> simp [Target.span, Target.spans]

theorem Stmt.span_mem_spans (statement : Stmt) : statement.span ∈ statement.spans := by
  cases statement with
  | declare span name initial => cases initial <;> simp [Stmt.span, Stmt.spans]
  | result span value => cases value <;> simp [Stmt.span, Stmt.spans]
  | conditional span condition consequent alternate =>
      cases alternate <;> simp [Stmt.span, Stmt.spans]
  | _ => simp [Stmt.span, Stmt.spans]

/-- What an expression can be assigned to has the same spans. -/
theorem Expr.spans_of_target? {expression : Expr} {target : Target}
    (denoted : expression.target? = some target) : target.spans = expression.spans := by
  cases expression <;> simp only [Expr.target?, Option.some.injEq, reduceCtorEq] at denoted
  all_goals
    subst denoted
    simp [Expr.spans, Target.spans]

end Scriptlet
