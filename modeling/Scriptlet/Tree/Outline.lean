import Scriptlet.Tree
import Scriptlet.Number.Format
import Scriptlet.Text.Quoted

/-!
# Outlines of programs

The outline of a tree names its nodes and their parts in a uniform way. Written down, every node has
a line of its own, and its parts follow with indentation. A `new` statement also shows whether it
has bound the name of its class, which it does when it is first executed.
-/

namespace Scriptlet

mutual

/-- A node of an outline: a label, a span and labelled parts. -/
inductive Outline where
  | node (label : String) (span : Span) (parts : List (String × Part))

/-- A part of a node. -/
inductive Part where
  | child (node : Outline)
  | children (nodes : List Outline)
  | names (names : List String)
  | text (value : String)
  | number (value : Float)
  | flag (value : Bool)
  | missing

end

namespace Outline

/-- Which `new` statements of a tree have bound the name of their class: by the way from the top of
the tree to a statement, which part of a part it is, and by its span. -/
abbrev Constructed :=
  List Nat → Span → Bool

/-- No `new` statement has bound a name. -/
def unconstructed : Constructed :=
  fun _ _ => false

/-- Which `new` statements of a part of a tree have bound the name of their class. -/
def Constructed.below (constructed : Constructed) (index : Nat) : Constructed :=
  fun way => constructed (index :: way)

mutual

/-- The outline of an expression. -/
def ofExprIn (constructed : Constructed) : Expr → Outline
  | .number span value => .node "NumberLiteral" span [("value", .number value)]
  | .text span value => .node "StringLiteral" span [("value", .text value)]
  | .bool span value => .node "BoolLiteral" span [("value", .flag value)]
  | .name span name => .node "Identifier" span [("name", .text name)]
  | .binary span left operator right =>
      .node "BinaryOp" span
        [("left", .child (ofExprIn (constructed.below 0) left)),
          ("operator", .text operator.text),
          ("right", .child (ofExprIn (constructed.below 1) right))]
  | .unary span operator operand =>
      .node "UnaryOp" span
        [("operator", .text operator.text),
          ("operand", .child (ofExprIn (constructed.below 0) operand))]
  | .assign span target value =>
      .node "Assignment" span
        [("target", .child (ofTargetIn (constructed.below 0) target)),
          ("value", .child (ofExprIn (constructed.below 1) value))]
  | .call span callee arguments =>
      .node "FunctionCall" span
        [("callee", .child (ofExprIn (constructed.below 0) callee)),
          ("arguments", .children (ofExprsIn (constructed.below 1) arguments))]
  | .member span object member =>
      .node "MemberAccess" span
        [("object", .child (ofExprIn (constructed.below 0) object)), ("member", .text member)]
  | .index span object index =>
      .node "IndexAccess" span
        [("object", .child (ofExprIn (constructed.below 0) object)),
          ("index", .child (ofExprIn (constructed.below 1) index))]
  | .array span elements =>
      .node "ArrayLiteral" span
        [("elements", .children (ofExprsIn (constructed.below 0) elements))]
  | .function span params body =>
      .node "FunctionExpr" span
        [("params", .names params), ("body", .children (ofStmtsIn (constructed.below 0) body))]
  | .load span path =>
      .node "IncludeExpr" span [("path", .child (ofExprIn (constructed.below 0) path))]
  | .construct span className arguments =>
      .node "ConstructExpr" span
        [("class_name", .text className),
          ("arguments", .children (ofExprsIn (constructed.below 0) arguments))]

/-- The outline of a target. -/
def ofTargetIn (constructed : Constructed) : Target → Outline
  | .name span name => .node "Identifier" span [("name", .text name)]
  | .member span object member =>
      .node "MemberAccess" span
        [("object", .child (ofExprIn (constructed.below 0) object)), ("member", .text member)]

/-- The outlines of expressions. -/
def ofExprsIn (constructed : Constructed) : List Expr → List Outline
  | [] => []
  | expression :: rest =>
      ofExprIn (constructed.below 0) expression :: ofExprsIn (constructed.below 1) rest

/-- The part for an expression that may be missing. -/
def ofExprIn? (constructed : Constructed) : Option Expr → Part
  | some expression => .child (ofExprIn constructed expression)
  | none => .missing

/-- The outline of a statement. -/
def ofStmtIn (constructed : Constructed) : Stmt → Outline
  | .declare span name initial =>
      .node "LetStatement" span
        [("name", .text name), ("initializer", ofExprIn? (constructed.below 0) initial)]
  | .expression span expression =>
      .node "ExpressionStatement" span
        [("expression", .child (ofExprIn (constructed.below 0) expression))]
  | .block span statements =>
      .node "Block" span [("statements", .children (ofStmtsIn (constructed.below 0) statements))]
  | .conditional span condition consequent alternate =>
      .node "IfStatement" span
        [("condition", .child (ofExprIn (constructed.below 0) condition)),
          ("consequent", .child (ofStmtIn (constructed.below 1) consequent)),
          ("alternate", ofStmtIn? (constructed.below 2) alternate)]
  | .loop span condition body =>
      .node "WhileStatement" span
        [("condition", .child (ofExprIn (constructed.below 0) condition)),
          ("body", .child (ofStmtIn (constructed.below 1) body))]
  | .function span name params body =>
      .node "FunctionDecl" span
        [("name", match name with
          | some name => .text name
          | none => .missing),
          ("params", .names params), ("body", .children (ofStmtsIn (constructed.below 0) body))]
  | .result span value =>
      .node "ReturnStatement" span [("value", ofExprIn? (constructed.below 0) value)]
  | .leave span => .node "BreakStatement" span []
  | .proceed span => .node "ContinueStatement" span []
  | .construct span className arguments =>
      .node "ConstructStatement" span
        [("class_name", .text className),
          ("arguments", .children (ofExprsIn (constructed.below 0) arguments)),
          ("constructed", .flag (constructed [] span))]
  | .load span path =>
      .node "IncludeStatement" span [("path", .child (ofExprIn (constructed.below 0) path))]

/-- The outlines of statements. -/
def ofStmtsIn (constructed : Constructed) : List Stmt → List Outline
  | [] => []
  | statement :: rest =>
      ofStmtIn (constructed.below 0) statement :: ofStmtsIn (constructed.below 1) rest

/-- The part for a statement that may be missing. -/
def ofStmtIn? (constructed : Constructed) : Option Stmt → Part
  | some statement => .child (ofStmtIn constructed statement)
  | none => .missing

end

/-- The outline of a program of which some statements may have been executed. -/
def ofProgramIn (constructed : Constructed) (program : Program) : Outline :=
  .node "Program" program.span
    [("body", .children (ofStmtsIn constructed program.body)),
      ("filename", match program.file with
        | some name => .text name
        | none => .missing)]

/-- The outline of a statement as it is read. -/
def ofStmt (statement : Stmt) : Outline :=
  ofStmtIn unconstructed statement

/-- The outline of a program as it is read. -/
def ofProgram (program : Program) : Outline :=
  ofProgramIn unconstructed program

/-- The label of a node. -/
def label : Outline → String
  | .node label _ _ => label

/-- A line that is indented by `depth` levels. -/
def indented (depth : Nat) (text : String) : String :=
  String.ofList (List.replicate (2 * depth) ' ') ++ text

mutual

/-- The lines of an outline at a depth. -/
def lines (depth : Nat) : Outline → List String
  | .node label _ parts => indented depth label :: partsLines (depth + 1) parts

/-- The lines of the parts of a node at a depth. -/
def partsLines (depth : Nat) : List (String × Part) → List String
  | [] => []
  | (name, part) :: rest => partLines depth name part ++ partsLines depth rest

/-- The lines of one part at a depth. -/
def partLines (depth : Nat) (name : String) : Part → List String
  | .child inner => indented depth s!"{name}:" :: lines (depth + 1) inner
  | .children nodes =>
      indented depth s!"{name}: [" :: (nodesLines (depth + 1) nodes ++ [indented depth "]"])
  | .names names =>
      indented depth s!"{name}: [" ::
        (names.map (fun item => indented (depth + 1) (Text.quoted item)) ++ [indented depth "]"])
  | .text value => [indented depth s!"{name}: {Text.quoted value}"]
  | .number value => [indented depth s!"{name}: {Number.literal value}"]
  | .flag true => [indented depth s!"{name}: True"]
  | .flag false => [indented depth s!"{name}: False"]
  | .missing => [indented depth s!"{name}: None"]

/-- The lines of several nodes at a depth. -/
def nodesLines (depth : Nat) : List Outline → List String
  | [] => []
  | inner :: rest => lines depth inner ++ nodesLines depth rest

end

end Outline

end Scriptlet
