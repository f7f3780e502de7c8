import Scriptlet.Tree
import Scriptlet.Token

/-!
# Nesting of spans

A tree of spans keeps of a syntax tree what its nodes stand on, and forgets what they are.  It nests
if every span lies within the span around it and spans side by side follow each other, as the texts
do that they belong to.
-/

namespace Scriptlet

namespace Span

/-- One span lies within another. -/
def Contains (outer inner : Span) : Prop :=
  outer.start.offset ≤ inner.start.offset ∧ inner.stop.offset ≤ outer.stop.offset

/-- One span stops before another starts. -/
def Precedes (first second : Span) : Prop :=
  first.stop.offset ≤ second.start.offset

/-- A span starts where a token starts, and stops where a token stops or, as a part of a dotted
name, at one of the dots of the name that it starts with. -/
def StandsOn (tokens : List Token) (span : Span) : Prop :=
  ∃ first ∈ tokens, span.start = first.span.start ∧
    ((∃ last ∈ tokens, span.stop = last.span.stop) ∨
      ∃ path width, first.lexical = .name path ∧ path.toList[width]? = some '.' ∧
        span.stop = first.span.start.shift width)

end Span

/-- The span of a node, and the trees of the nodes that it is made of, in the order
of the source. -/
inductive SpanTree where
  | node (span : Span) (parts : List SpanTree)

namespace SpanTree

def span : SpanTree → Span
  | .node span _ => span

/-- Every node stands on tokens and is not empty, and its parts lie within it, one after the
other. -/
inductive Nests (tokens : List Token) : SpanTree → Prop where
  | node {span : Span} {parts : List SpanTree} (stands : span.StandsOn tokens)
      (nonempty : span.start.offset < span.stop.offset)
      (inside : ∀ part ∈ parts, span.Contains part.span)
      (increase : parts.Pairwise fun first second => first.span.Precedes second.span)
      (deeper : ∀ part ∈ parts, Nests tokens part) : Nests tokens (.node span parts)

namespace Nests

variable {tokens : List Token} {tree : SpanTree}

theorem standsOn (nests : tree.Nests tokens) : tree.span.StandsOn tokens := by
  cases nests
  assumption

theorem nonempty (nests : tree.Nests tokens) :
    tree.span.start.offset < tree.span.stop.offset := by
  cases nests
  assumption

end Nests

end SpanTree

mutual

/-- The spans of an expression. -/
def Expr.spanTree : Expr → SpanTree
  | .number span _ | .text span _ | .bool span _ | .name span _ => .node span []
  | .binary span left _ right => .node span [left.spanTree, right.spanTree]
  | .unary span _ operand => .node span [operand.spanTree]
  | .assign span target value => .node span [target.spanTree, value.spanTree]
  | .call span callee arguments => .node span (callee.spanTree :: expressionTrees arguments)
  | .member span object _ => .node span [object.spanTree]
  | .index span object place => .node span [object.spanTree, place.spanTree]
  | .array span elements => .node span (expressionTrees elements)
  | .function span _ body => .node span (bodyTrees body)
  | .load span path => .node span [path.spanTree]
  | .construct span _ arguments => .node span (expressionTrees arguments)

/-- The spans of a target. -/
def Target.spanTree : Target → SpanTree
  | .name span _ => .node span []
  | .member span object _ => .node span [object.spanTree]

/-- The spans of several expressions. -/
def expressionTrees : List Expr → List SpanTree
  | [] => []
  | expression :: rest => expression.spanTree :: expressionTrees rest

/-- The spans of a statement. -/
def Stmt.spanTree : Stmt → SpanTree
  | .declare span _ none | .result span none | .leave span | .proceed span => .node span []
  | .declare span _ (some value) | .result span (some value) | .expression span value =>
      .node span [value.spanTree]
  | .block span statements => .node span (bodyTrees statements)
  | .conditional span condition consequent none =>
      .node span [condition.spanTree, consequent.spanTree]
  | .conditional span condition consequent (some alternate) =>
      .node span [condition.spanTree, consequent.spanTree, alternate.spanTree]
  | .loop span condition body => .node span [condition.spanTree, body.spanTree]
  | .function span _ _ body => .node span (bodyTrees body)
  | .construct span _ arguments => .node span (expressionTrees arguments)
  | .load span path => .node span [path.spanTree]

/-- The spans of a body. -/
def bodyTrees : List Stmt → List SpanTree
  | [] => []
  | statement :: rest => statement.spanTree :: bodyTrees rest

end

/-- The spans of a program. -/
def Program.spanTree (program : Program) : SpanTree :=
  .node program.span (bodyTrees program.body)

theorem expressionTrees_eq_map (expressions : List Expr) :
    expressionTrees expressions = expressions.map Expr.spanTree := by
  induction expressions with
  | nil => rfl
  | cons expression rest ih => simp [expressionTrees, ih]

theorem bodyTrees_eq_map (statements : List Stmt) :
    bodyTrees statements = statements.map Stmt.spanTree := by
  induction statements with
  | nil => rfl
  | cons statement rest ih => simp [bodyTrees, ih]

@[simp]
theorem Expr.spanTree_span (expression : Expr) : expression.spanTree.span = expression.span := by
  cases expression <;> rfl

/-- What an expression can be assigned to has the same spans. -/
theorem Expr.spanTree_of_target? {expression : Expr} {target : Target}
    (denoted : expression.target? = some target) : target.spanTree = expression.spanTree := by
  cases expression <;> simp only [Expr.target?, Option.some.injEq, reduceCtorEq] at denoted
  all_goals
    subst denoted
    simp [Expr.spanTree, Target.spanTree]

end Scriptlet
