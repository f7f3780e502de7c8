import Scriptlet.Proofs.Tree.Spans
import Scriptlet.Proofs.Evaluator.Course

/-!
# Nodes of a tree

The expressions and statements that code is made of, at any depth.  What is true of all nodes of a
piece of code is true of all nodes of its parts.
-/

namespace Scriptlet

/-- An expression or a statement. -/
inductive Node where
  | expression (part : Expr)
  | statement (part : Stmt)

namespace Node

def span : Node → Span
  | .expression part => part.span
  | .statement part => part.span

/-- The name that is bound when the node is evaluated or executed. -/
def bound? : Node → Option String
  | .expression (Expr.assign _ (.name _ id) _) => some id
  | .statement (Stmt.declare _ id _) => some id
  | .statement (Stmt.function _ name _ _) => name
  | .statement (Stmt.construct _ className _) => some className
  | _ => none

end Node

mutual

/-- The nodes of an expression, itself first. -/
def Expr.nodes : Expr → List Node
  | whole@(.number ..) | whole@(.text ..) | whole@(.bool ..) | whole@(.name ..) =>
      [.expression whole]
  | whole@(.binary _ left _ right) => .expression whole :: (left.nodes ++ right.nodes)
  | whole@(.unary _ _ operand) => .expression whole :: operand.nodes
  | whole@(.assign _ target value) => .expression whole :: (target.nodes ++ value.nodes)
  | whole@(.call _ callee arguments) =>
      .expression whole :: (callee.nodes ++ expressionNodes arguments)
  | whole@(.member _ object _) => .expression whole :: object.nodes
  | whole@(.index _ object place) => .expression whole :: (object.nodes ++ place.nodes)
  | whole@(.array _ elements) => .expression whole :: expressionNodes elements
  | whole@(.function _ _ body) => .expression whole :: bodyNodes body
  | whole@(.load _ path) => .expression whole :: path.nodes
  | whole@(.construct _ _ arguments) => .expression whole :: expressionNodes arguments

/-- The nodes in a target. -/
def Target.nodes : Target → List Node
  | .name _ _ => []
  | .member _ object _ => object.nodes

/-- The nodes of several expressions. -/
def expressionNodes : List Expr → List Node
  | [] => []
  | expression :: rest => expression.nodes ++ expressionNodes rest

/-- The nodes of a statement, itself first. -/
def Stmt.nodes : Stmt → List Node
  | whole@(.declare _ _ none) | whole@(.result _ none) | whole@(.leave _) | whole@(.proceed _) =>
      [.statement whole]
  | whole@(.declare _ _ (some value)) | whole@(.result _ (some value))
  | whole@(.expression _ value) => .statement whole :: value.nodes
  | whole@(.block _ statements) => .statement whole :: bodyNodes statements
  | whole@(.conditional _ condition consequent none) =>
      .statement whole :: (condition.nodes ++ consequent.nodes)
  | whole@(.conditional _ condition consequent (some alternate)) =>
      .statement whole :: (condition.nodes ++ (consequent.nodes ++ alternate.nodes))
  | whole@(.loop _ condition body) => .statement whole :: (condition.nodes ++ body.nodes)
  | whole@(.function _ _ _ body) => .statement whole :: bodyNodes body
  | whole@(.construct _ _ arguments) => .statement whole :: expressionNodes arguments
  | whole@(.load _ path) => .statement whole :: path.nodes

/-- The nodes of a body. -/
def bodyNodes : List Stmt → List Node
  | [] => []
  | statement :: rest => statement.nodes ++ bodyNodes rest

end

theorem mem_expressionNodes {expressions : List Expr} {node : Node} :
    node ∈ expressionNodes expressions ↔ ∃ part ∈ expressions, node ∈ part.nodes := by
  induction expressions with
  | nil => simp [expressionNodes]
  | cons expression rest ih => simp [expressionNodes, ih]

theorem mem_bodyNodes {statements : List Stmt} {node : Node} :
    node ∈ bodyNodes statements ↔ ∃ part ∈ statements, node ∈ part.nodes := by
  induction statements with
  | nil => simp [bodyNodes]
  | cons statement rest ih => simp [bodyNodes, ih]

theorem Expr.self_mem_nodes (expression : Expr) : .expression expression ∈ expression.nodes := by
  cases expression <;> simp [Expr.nodes]

theorem Stmt.self_mem_nodes (statement : Stmt) : .statement statement ∈ statement.nodes := by
  cases statement with
  | declare span name initial => cases initial <;> simp [Stmt.nodes]
  | result span value => cases value <;> simp [Stmt.nodes]
  | conditional span condition consequent alternate => cases alternate <;> simp [Stmt.nodes]
  | _ => simp [Stmt.nodes]

theorem Stmt.nodes_declare (span : Span) (name : String) (initial : Option Expr) :
    (declare span name initial).nodes =
      .statement (.declare span name initial) :: initial.elim [] Expr.nodes := by
  cases initial <;> rfl

theorem Stmt.nodes_conditional (span : Span) (condition : Expr) (consequent : Stmt)
    (alternate : Option Stmt) : (conditional span condition consequent alternate).nodes =
      .statement (.conditional span condition consequent alternate) ::
        (condition.nodes ++ (consequent.nodes ++ alternate.elim [] Stmt.nodes)) := by
  cases alternate <;> simp [Stmt.nodes]

theorem Stmt.nodes_result (span : Span) (value : Option Expr) :
    (result span value).nodes = .statement (.result span value) :: value.elim [] Expr.nodes := by
  cases value <;> rfl

/-! ## Parts -/

theorem Expr.nodes_of_part {whole part : Expr} (found : part ∈ whole.parts) :
    part.nodes ⊆ whole.nodes := by
  intro node inside
  cases whole with
  | assign span target value =>
      cases target <;> simp only [Expr.parts, List.mem_cons, List.not_mem_nil, or_false] at found
      · subst found
        simp [Expr.nodes, inside]
      · rcases found with rfl | rfl <;> simp [Expr.nodes, Target.nodes, inside]
  | binary | index =>
      simp only [Expr.parts, List.mem_cons, List.not_mem_nil, or_false] at found
      rcases found with rfl | rfl <;> simp [Expr.nodes, inside]
  | call span callee arguments =>
      rcases List.mem_cons.mp found with rfl | found
      · simp [Expr.nodes, inside]
      · have later := mem_expressionNodes.mpr ⟨part, found, inside⟩
        simp [Expr.nodes, later]
  | array | construct =>
      exact List.mem_cons_of_mem _ (mem_expressionNodes.mpr ⟨part, found, inside⟩)
  | unary | member | load =>
      obtain rfl := List.mem_singleton.mp found
      simp [Expr.nodes, inside]
  | _ => cases found

theorem Stmt.nodes_of_expression {whole : Stmt} {part : Expr} (found : part ∈ whole.expressions) :
    part.nodes ⊆ whole.nodes := by
  intro node inside
  cases whole with
  | declare span name value | result span value =>
      cases value with
      | none => cases found
      | some value =>
          obtain rfl := List.mem_singleton.mp found
          simp [Stmt.nodes, inside]
  | conditional span condition consequent alternate =>
      obtain rfl := List.mem_singleton.mp found
      cases alternate <;> simp [Stmt.nodes, inside]
  | loop | expression | load =>
      obtain rfl := List.mem_singleton.mp found
      simp [Stmt.nodes, inside]
  | construct => exact List.mem_cons_of_mem _ (mem_expressionNodes.mpr ⟨part, found, inside⟩)
  | _ => cases found

theorem Stmt.nodes_of_part {whole part : Stmt} (found : part ∈ whole.parts) :
    part.nodes ⊆ whole.nodes := by
  intro node inside
  cases whole with
  | block => exact List.mem_cons_of_mem _ (mem_bodyNodes.mpr ⟨part, found, inside⟩)
  | conditional span condition consequent alternate =>
      cases alternate <;> simp only [Stmt.parts, Option.toList, List.mem_cons, List.not_mem_nil,
        or_false] at found
      · subst found
        simp [Stmt.nodes, inside]
      · rcases found with rfl | rfl <;> simp [Stmt.nodes, inside]
  | loop =>
      obtain rfl := List.mem_singleton.mp found
      simp [Stmt.nodes, inside]
  | _ => cases found

/-! ## Spans -/

section Spans

variable {node : Node} {head : Span} {first second : List Node} {firstSpans secondSpans : List Span}

theorem span_mem_cons (here : node.span = head) (found : ∀ other ∈ first, other.span ∈ firstSpans) :
    ∀ other ∈ node :: first, other.span ∈ head :: firstSpans := by
  intro other inside
  rcases List.mem_cons.mp inside with rfl | inside
  · exact here ▸ List.mem_cons_self
  · exact List.mem_cons_of_mem _ (found other inside)

theorem span_mem_append (before : ∀ other ∈ first, other.span ∈ firstSpans)
    (after : ∀ other ∈ second, other.span ∈ secondSpans) :
    ∀ other ∈ first ++ second, other.span ∈ firstSpans ++ secondSpans := by
  intro other inside
  exact List.mem_append.mpr ((List.mem_append.mp inside).imp (before other) (after other))

end Spans

mutual

theorem Expr.span_mem_of_nodes : ∀ expression : Expr,
    ∀ node ∈ expression.nodes, node.span ∈ expression.spans
  | .number .. | .text .. | .bool .. | .name .. => span_mem_cons rfl nofun
  | .unary _ _ part | .member _ part _ | .load _ part =>
      span_mem_cons rfl part.span_mem_of_nodes
  | .binary _ first _ second | .index _ first second =>
      span_mem_cons rfl (span_mem_append first.span_mem_of_nodes second.span_mem_of_nodes)
  | .assign _ target value =>
      span_mem_cons rfl (span_mem_append target.span_mem_of_nodes value.span_mem_of_nodes)
  | .call _ callee arguments =>
      span_mem_cons rfl (span_mem_append callee.span_mem_of_nodes (spans_mem_of_nodes arguments))
  | .array _ parts | .construct _ _ parts => span_mem_cons rfl (spans_mem_of_nodes parts)
  | .function _ _ body => span_mem_cons rfl (bodySpans_mem_of_nodes body)

theorem Target.span_mem_of_nodes : ∀ target : Target,
    ∀ node ∈ target.nodes, node.span ∈ target.spans
  | .name .. => nofun
  | .member _ object _ => fun node found =>
      List.mem_cons_of_mem _ (object.span_mem_of_nodes node found)

theorem spans_mem_of_nodes : ∀ expressions : List Expr,
    ∀ node ∈ expressionNodes expressions, node.span ∈ expressionSpans expressions
  | [] => nofun
  | expression :: rest =>
      span_mem_append expression.span_mem_of_nodes (spans_mem_of_nodes rest)

theorem Stmt.span_mem_of_nodes : ∀ statement : Stmt,
    ∀ node ∈ statement.nodes, node.span ∈ statement.spans
  | .declare _ _ none | .result _ none | .leave _ | .proceed _ => span_mem_cons rfl nofun
  | .declare _ _ (some value) | .result _ (some value) | .expression _ value | .load _ value =>
      span_mem_cons rfl value.span_mem_of_nodes
  | .block _ body | .function _ _ _ body => span_mem_cons rfl (bodySpans_mem_of_nodes body)
  | .conditional _ condition consequent none | .loop _ condition consequent =>
      span_mem_cons rfl
        (span_mem_append condition.span_mem_of_nodes consequent.span_mem_of_nodes)
  | .conditional _ condition consequent (some alternate) =>
      span_mem_cons rfl (span_mem_append condition.span_mem_of_nodes
        (span_mem_append consequent.span_mem_of_nodes alternate.span_mem_of_nodes))
  | .construct _ _ arguments => span_mem_cons rfl (spans_mem_of_nodes arguments)

/-- The spans of the nodes of a body are among its spans. -/
theorem bodySpans_mem_of_nodes : ∀ statements : List Stmt,
    ∀ node ∈ bodyNodes statements, node.span ∈ bodySpans statements
  | [] => nofun
  | statement :: rest =>
      span_mem_append statement.span_mem_of_nodes (bodySpans_mem_of_nodes rest)

end

end Scriptlet
