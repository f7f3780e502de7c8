import Scriptlet.Tree.Outline
import Scriptlet.Proofs.Tree.Nodes
import Scriptlet.Proofs.Tree.Rendering
import Scriptlet.Proofs.Text.Quoted

/-!
# Outlines tell programs apart

The lines of an outline determine the tree, but for its spans, and which of its `new` statements
have bound a name.  Lines are compared from the front: where two outlines have the same lines,
whatever follows each of them, the trees are the same and the same lines follow.  A list of items
ends where a line is less indented than its items are.
-/

namespace Scriptlet

/-! ## Lines with a depth -/

namespace Outline

theorem toList_indented (depth : Nat) (text : String) :
    (indented depth text).toList = List.replicate (2 * depth) ' ' ++ text.toList := by
  rw [indented, String.toList_append, String.toList_ofList]

theorem indented_inj {depth : Nat} {text other : String} :
    indented depth text = indented depth other ↔ text = other := by
  rw [← String.toList_inj, toList_indented, toList_indented, List.append_cancel_left_eq,
    String.toList_inj]

/-- The bracket that closes a list is less indented than its items. -/
theorem bracket_ne_deeper (depth : Nat) (text : String) :
    indented depth "]" ≠ indented (depth + 1) text := by
  intro same
  have chars := congrArg String.toList same
  rw [toList_indented, toList_indented, Nat.mul_succ, List.replicate_add, List.append_assoc,
    List.append_cancel_left_eq] at chars
  cases chars

/-- The line of a part determines what stands behind its name. -/
theorem labelled_inj {name text other : String} (same : s!"{name}: {text}" = s!"{name}: {other}") :
    text = other :=
  (String.append_right_inj _).mp same

end Outline

/-! ## Lines that tell something -/

/-- Where two lists of lines are the same, whatever follows each of them, something is the case and
the same lines follow. -/
def Tells (lines others : List String) (fact : Prop) : Prop :=
  ∀ rest more, lines ++ rest = others ++ more → fact ∧ rest = more

namespace Tells

open Outline

variable {lines others front front' : List String} {fact other : Prop} {depth : Nat}
  {text text' : String}

theorem nil : Tells [] [] True :=
  fun _ _ same => ⟨trivial, same⟩

theorem mono (tells : Tells lines others fact) (implies : fact → other) :
    Tells lines others other :=
  fun rest more same => (tells rest more same).imp_left implies

theorem symm (tells : Tells lines others fact) : Tells others lines fact :=
  fun rest more same => (tells more rest same.symm).imp_right Eq.symm

theorem append (first : Tells front front' fact) (second : Tells lines others other) :
    Tells (front ++ lines) (front' ++ others) (fact ∧ other) := by
  intro rest more same
  rw [List.append_assoc, List.append_assoc] at same
  obtain ⟨here, same⟩ := first _ _ same
  obtain ⟨there, same⟩ := second _ _ same
  exact ⟨⟨here, there⟩, same⟩

theorem line (same : text = text' → fact) :
    Tells [indented depth text] [indented depth text'] fact := by
  intro rest more equal
  obtain ⟨first, equal⟩ := List.cons.inj equal
  exact ⟨same (indented_inj.mp first), equal⟩

theorem cons (tells : Tells lines others fact) :
    Tells (indented depth text :: lines) (indented depth text' :: others) (text = text' ∧ fact) :=
  append (line id) tells

/-- The end of a list does not look like one of its items. -/
theorem closed (depth : Nat) (text : String) (others : List String) :
    Tells [indented depth "]"]
      ((indented (depth + 1) text :: others) ++ [indented depth "]"]) fact :=
  fun _ _ same => absurd (List.cons.inj same).1 (bracket_ne_deeper depth text)

end Tells

/-! ## Marks -/

mutual

/-- The marks of the `new` statements of an outline, in order: whether they have bound a name. -/
def Outline.marks : Outline → List Bool
  | .node _ _ parts => partsMarks parts

/-- The marks in the parts of a node. -/
def partsMarks : List (String × Part) → List Bool
  | [] => []
  | (name, part) :: rest => partMarks name part ++ partsMarks rest

/-- The marks in one part of a node. -/
def partMarks (name : String) : Part → List Bool
  | .child inner => inner.marks
  | .children nodes => nodesMarks nodes
  | .flag value => if name = "constructed" then [value] else []
  | .names _ | .text _ | .number _ | .missing => []

/-- The marks in several nodes. -/
def nodesMarks : List Outline → List Bool
  | [] => []
  | inner :: rest => inner.marks ++ nodesMarks rest

end

/-! ## Parts of nodes

Whatever else the lines tell, they tell the marks. -/

/-- What the lines of two nodes tell at any depth. -/
def Outline.Tells (node other : Outline) (fact : Prop) : Prop :=
  ∀ depth, Scriptlet.Tells (lines depth node) (lines depth other)
    (fact ∧ node.marks = other.marks)

/-- What the lines of two lists of nodes in brackets tell. -/
def Outline.AllTell (nodes others : List Outline) (fact : Prop) : Prop :=
  ∀ depth, Scriptlet.Tells (nodesLines (depth + 1) nodes ++ [indented depth "]"])
    (nodesLines (depth + 1) others ++ [indented depth "]"])
    (fact ∧ nodesMarks nodes = nodesMarks others)

/-- What the lines of two parts of one name tell. -/
def Part.Tells (part other : Part) (fact : Prop) : Prop :=
  ∀ depth name, Scriptlet.Tells (Outline.partLines depth name part)
    (Outline.partLines depth name other) (fact ∧ partMarks name part = partMarks name other)

/-- What the lines of the parts of two nodes tell. -/
def PartsTell (parts others : List (String × Part)) (fact : Prop) : Prop :=
  ∀ depth, Tells (Outline.partsLines depth parts) (Outline.partsLines depth others)
    (fact ∧ partsMarks parts = partsMarks others)

namespace Part.Tells

open Outline

variable {node other : Outline} {nodes others : List Outline} {fact further : Prop}
  {part part' : Part}

theorem symm (tells : part.Tells part' fact) : part'.Tells part fact :=
  fun depth name => (tells depth name).symm.mono (And.imp_right Eq.symm)

theorem mono (tells : part.Tells part' fact) (implies : fact → further) :
    part.Tells part' further :=
  fun depth name => (tells depth name).mono (And.imp_left implies)

theorem child (tells : node.Tells other fact) : (Part.child node).Tells (.child other) fact :=
  fun depth _ => (Scriptlet.Tells.cons (tells (depth + 1))).mono And.right

theorem children (tell : AllTell nodes others fact) :
    (Part.children nodes).Tells (.children others) fact :=
  fun depth _ => (Scriptlet.Tells.cons (tell depth)).mono And.right

theorem text (value value' : String) : (Part.text value).Tells (.text value') (value = value') :=
  fun _ _ => .line fun same => ⟨Text.quoted_injective (labelled_inj same), rfl⟩

theorem number (x y : Float) :
    (Part.number x).Tells (.number y) (Number.literal x = Number.literal y) :=
  fun _ _ => .line fun same => ⟨labelled_inj same, rfl⟩

theorem flag : ∀ value value' : Bool, (Part.flag value).Tells (.flag value') (value = value')
  | true, true | false, false => fun _ _ => .line fun _ => ⟨rfl, rfl⟩
  | true, false | false, true => fun _ _ =>
      .line fun same => absurd ((String.append_right_inj _).mp same) (by decide)

theorem missing : Part.missing.Tells .missing True :=
  fun _ _ => .line fun _ => ⟨trivial, rfl⟩

theorem missing_child : Part.missing.Tells (.child node) fact := by
  obtain ⟨label, span, parts⟩ := node
  intro depth name rest more same
  have first := indented_inj.mp (List.cons.inj same).1
  exact absurd ((String.append_right_inj _).mp first) (by decide)

/-- A text is quoted, so it does not look like a part that is missing. -/
theorem missing_text (value : String) : Part.missing.Tells (.text value) fact := by
  refine fun depth name => .line fun same => ?_
  rw [String.append_assoc, String.append_right_inj] at same
  have third := congrArg (fun line => line.toList[2]?) same
  have first : 'N' = Text.quoteMark value.toList := by
    simpa [toString, Text.toList_quoted] using third
  have isMark := Text.quoteMark_mem value.toList
  rw [← first] at isMark
  exact absurd isMark (by decide)

theorem text? (value value' : Option String) :
    (match value with | some text => Part.text text | none => .missing).Tells
      (match value' with | some text => Part.text text | none => .missing) (value = value') := by
  cases value with
  | none =>
      cases value' with
      | none => exact missing.mono fun _ => rfl
      | some text => exact missing_text text
  | some text =>
      cases value' with
      | none => exact (missing_text text).symm
      | some text' => exact (Tells.text text text').mono (congrArg some)

theorem names (items others : List String) :
    (Part.names items).Tells (.names others) (items = others) := by
  intro depth name
  have inside : Scriptlet.Tells
      (items.map (fun item => indented (depth + 1) (Text.quoted item)) ++ [indented depth "]"])
      (others.map (fun item => indented (depth + 1) (Text.quoted item)) ++ [indented depth "]"])
      (items = others) := by
    induction items generalizing others with
    | nil =>
        cases others with
        | nil => exact .line fun _ => rfl
        | cons item others => exact .closed depth _ _
    | cons item items ih =>
        cases others with
        | nil => exact (Tells.closed depth _ _).symm
        | cons item' others =>
            exact (Scriptlet.Tells.cons (ih others)).mono fun ⟨first, rest⟩ => by
              rw [Text.quoted_injective first, rest]
  exact (Scriptlet.Tells.cons inside).mono fun ⟨_, same⟩ => ⟨same, rfl⟩

end Part.Tells

namespace PartsTell

variable {parts others : List (String × Part)} {part other : Part} {fact further : Prop}
  {name : String}

theorem nil : PartsTell [] [] True :=
  fun _ => Tells.nil.mono fun _ => ⟨trivial, rfl⟩

theorem cons (first : part.Tells other fact) (rest : PartsTell parts others further) :
    PartsTell ((name, part) :: parts) ((name, other) :: others) (fact ∧ further) :=
  fun depth => (Tells.append (first depth name) (rest depth)).mono
    fun ⟨⟨here, marks⟩, there, others⟩ => ⟨⟨here, there⟩, congrArg₂ (· ++ ·) marks others⟩

end PartsTell

namespace Outline

variable {label label' : String} {span span' : Span} {parts parts' : List (String × Part)}
  {inner inner' : Outline} {nodes others : List Outline} {fact further : Prop}

theorem Tells.node (tell : PartsTell parts parts' fact) :
    (Outline.node label span parts).Tells (.node label span' parts') fact :=
  fun depth => (Scriptlet.Tells.cons (tell (depth + 1))).mono And.right

/-- Nodes of two kinds have different first lines. -/
theorem Tells.other (different : label ≠ label') :
    (Outline.node label span parts).Tells (.node label' span' parts') fact :=
  fun _ _ _ same => absurd (indented_inj.mp (List.cons.inj same).1) different

theorem Tells.mono (tells : inner.Tells inner' fact) (implies : fact → further) :
    inner.Tells inner' further :=
  fun depth => Scriptlet.Tells.mono (tells depth) (And.imp_left implies)

theorem AllTell.nil : AllTell [] [] True :=
  fun _ => .line fun _ => ⟨trivial, rfl⟩

theorem AllTell.ended : AllTell [] (inner :: nodes) fact := by
  intro depth
  obtain ⟨label, span, parts⟩ := inner
  exact .closed depth label _

theorem AllTell.symm (tell : AllTell nodes others fact) : AllTell others nodes fact :=
  fun depth => (tell depth).symm.mono (And.imp_right Eq.symm)

theorem AllTell.mono (tell : AllTell nodes others fact) (implies : fact → further) :
    AllTell nodes others further :=
  fun depth => (tell depth).mono (And.imp_left implies)

theorem AllTell.cons (first : inner.Tells inner' fact) (rest : AllTell nodes others further) :
    AllTell (inner :: nodes) (inner' :: others) (fact ∧ further) := by
  intro depth
  have both := (first (depth + 1)).append (rest depth)
  rw [← List.append_assoc, ← List.append_assoc] at both
  exact both.mono fun ⟨⟨here, marks⟩, there, others⟩ =>
    ⟨⟨here, there⟩, congrArg₂ (· ++ ·) marks others⟩

end Outline

/-! ## Trees -/

theorem BinaryOperator.ofText?_text (operator : BinaryOperator) :
    ofText? operator.text = some operator := by
  cases operator <;> decide

theorem BinaryOperator.text_injective : Function.Injective text := by
  intro operator other same
  have read := congrArg ofText? same
  rw [ofText?_text, ofText?_text] at read
  exact Option.some.inj read

theorem UnaryOperator.text_injective : Function.Injective text := by
  intro operator other same
  cases operator <;> cases other <;> first | rfl | exact absurd same (by decide)

/-- The number of a literal. -/
def Node.number? : Node → Option Float
  | .expression (.number _ value) => some value
  | _ => none

/-- The numbers of the literals among nodes. -/
def literalNumbers (nodes : List Node) : List Float :=
  nodes.filterMap Node.number?

/-- Numbers from here and from there that are written alike are the same. -/
def WrittenApart (here there : List Node) : Prop :=
  ∀ x ∈ literalNumbers here, ∀ y ∈ literalNumbers there,
    Number.literal x = Number.literal y → x = y

theorem WrittenApart.mono {here there part part' : List Node} (apart : WrittenApart here there)
    (first : part ⊆ here) (second : part' ⊆ there) : WrittenApart part part' :=
  fun x hx y hy => apart x (List.filterMap_subset _ first hx) y (List.filterMap_subset _ second hy)

theorem WrittenApart.parts {whole whole' : Node} {here there part part' : List Node}
    (apart : WrittenApart (whole :: here) (whole' :: there)) (first : part ⊆ here)
    (second : part' ⊆ there) : WrittenApart part part' :=
  apart.mono (List.subset_cons_of_subset _ first) (List.subset_cons_of_subset _ second)

namespace Outline

variable {here there : List Node}

-- By recursion on the first tree.  Of the second tree only the node of the same kind is left: the
-- first line of any other shows another label.
mutual

theorem ofExpr_tells : ∀ a b : Expr, WrittenApart a.nodes b.nodes →
    ∀ here there, (ofExprIn here a).Tells (ofExprIn there b) (a.bare = b.bare)
  | .number span x, b, apart, _, _ => by
      cases b with
      | number span' y =>
          have same := apart x (by simp [literalNumbers, Expr.nodes, Node.number?])
            y (by simp [literalNumbers, Expr.nodes, Node.number?])
          exact (Tells.node (.cons (.number x y) .nil)).mono fun ⟨alike, _⟩ =>
            congrArg (Expr.number default) (same alike)
      | _ => exact .other (by simp)
  | .text span value, b, _, _, _ => by
      cases b with
      | text span' value' =>
          exact (Tells.node (.cons (.text value value') .nil)).mono fun ⟨same, _⟩ =>
            congrArg (Expr.text default) same
      | _ => exact .other (by simp)
  | .bool span value, b, _, _, _ => by
      cases b with
      | bool span' value' =>
          exact (Tells.node (.cons (.flag value value') .nil)).mono fun ⟨same, _⟩ =>
            congrArg (Expr.bool default) same
      | _ => exact .other (by simp)
  | .name span id, b, _, _, _ => by
      cases b with
      | name span' id' =>
          exact (Tells.node (.cons (.text id id') .nil)).mono fun ⟨same, _⟩ =>
            congrArg (Expr.name default) same
      | _ => exact .other (by simp)
  | .binary span left operator right, b, apart, _, _ => by
      cases b with
      | binary span' left' operator' right' =>
          have lefts := ofExpr_tells left left' (apart.parts (by simp) (by simp))
          have rights := ofExpr_tells right right' (apart.parts (by simp) (by simp))
          refine (Tells.node (.cons (.child (lefts _ _)) (.cons (.text _ _)
            (.cons (.child (rights _ _)) .nil)))).mono fun ⟨first, operators, second, _⟩ => ?_
          rw [Expr.bare, Expr.bare, first, second, BinaryOperator.text_injective operators]
      | _ => exact .other (by simp)
  | .unary span operator operand, b, apart, _, _ => by
      cases b with
      | unary span' operator' operand' =>
          have operands := ofExpr_tells operand operand' (apart.parts (by simp) (by simp))
          refine (Tells.node (.cons (.text _ _) (.cons (.child (operands _ _)) .nil))).mono
            fun ⟨operators, inner, _⟩ => ?_
          rw [Expr.bare, Expr.bare, inner, UnaryOperator.text_injective operators]
      | _ => exact .other (by simp)
  | .assign span target value, b, apart, _, _ => by
      cases b with
      | assign span' target' value' =>
          have targets := ofTarget_tells target target' (apart.parts (by simp) (by simp))
          have values := ofExpr_tells value value' (apart.parts (by simp) (by simp))
          refine (Tells.node (.cons (.child (targets _ _)) (.cons (.child (values _ _)) .nil))).mono
            fun ⟨first, second, _⟩ => ?_
          rw [Expr.bare, Expr.bare, first, second]
      | _ => exact .other (by simp)
  | .call span callee arguments, b, apart, _, _ => by
      cases b with
      | call span' callee' arguments' =>
          have callees := ofExpr_tells callee callee' (apart.parts (by simp) (by simp))
          have lists := ofExprs_tell arguments arguments' (apart.parts (by simp) (by simp))
          refine (Tells.node (.cons (.child (callees _ _)) (.cons (.children (lists _ _))
            .nil))).mono fun ⟨first, second, _⟩ => ?_
          rw [Expr.bare, Expr.bare, first, second]
      | _ => exact .other (by simp)
  | .member span object field, b, apart, _, _ => by
      cases b with
      | member span' object' field' =>
          have objects := ofExpr_tells object object' (apart.parts (by simp) (by simp))
          refine (Tells.node (.cons (.child (objects _ _)) (.cons (.text _ _) .nil))).mono
            fun ⟨first, second, _⟩ => ?_
          rw [Expr.bare, Expr.bare, first, second]
      | _ => exact .other (by simp)
  | .index span object place, b, apart, _, _ => by
      cases b with
      | index span' object' place' =>
          have objects := ofExpr_tells object object' (apart.parts (by simp) (by simp))
          have places := ofExpr_tells place place' (apart.parts (by simp) (by simp))
          refine (Tells.node (.cons (.child (objects _ _)) (.cons (.child (places _ _)) .nil))).mono
            fun ⟨first, second, _⟩ => ?_
          rw [Expr.bare, Expr.bare, first, second]
      | _ => exact .other (by simp)
  | .array span elements, b, apart, _, _ => by
      cases b with
      | array span' elements' =>
          have lists := ofExprs_tell elements elements' (apart.parts (by simp) (by simp))
          refine (Tells.node (.cons (.children (lists _ _)) .nil)).mono fun ⟨same, _⟩ => ?_
          rw [Expr.bare, Expr.bare, same]
      | _ => exact .other (by simp)
  | .function span params body, b, apart, _, _ => by
      cases b with
      | function span' params' body' =>
          have bodies := ofStmts_tell body body' (apart.parts (by simp) (by simp))
          refine (Tells.node (.cons (.names _ _) (.cons (.children (bodies _ _)) .nil))).mono
            fun ⟨first, second, _⟩ => ?_
          rw [Expr.bare, Expr.bare, first, second]
      | _ => exact .other (by simp)
  | .load span path, b, apart, _, _ => by
      cases b with
      | load span' path' =>
          have paths := ofExpr_tells path path' (apart.parts (by simp) (by simp))
          refine (Tells.node (.cons (.child (paths _ _)) .nil)).mono fun ⟨same, _⟩ => ?_
          rw [Expr.bare, Expr.bare, same]
      | _ => exact .other (by simp)
  | .construct span className arguments, b, apart, _, _ => by
      cases b with
      | construct span' className' arguments' =>
          have lists := ofExprs_tell arguments arguments' (apart.parts (by simp) (by simp))
          refine (Tells.node (.cons (.text _ _) (.cons (.children (lists _ _)) .nil))).mono
            fun ⟨first, second, _⟩ => ?_
          rw [Expr.bare, Expr.bare, first, second]
      | _ => exact .other (by simp)
termination_by structural a => a

theorem ofTarget_tells : ∀ a b : Target, WrittenApart a.nodes b.nodes →
    ∀ here there, (ofTargetIn here a).Tells (ofTargetIn there b) (a.bare = b.bare)
  | .name span id, b, _, _, _ => by
      cases b with
      | name span' id' =>
          exact (Tells.node (.cons (.text id id') .nil)).mono fun ⟨same, _⟩ =>
            congrArg (Target.name default) same
      | member span' object' field' => exact .other (by simp)
  | .member span object field, b, apart, _, _ => by
      cases b with
      | name span' id' => exact .other (by simp)
      | member span' object' field' =>
          have objects := ofExpr_tells object object' apart
          refine (Tells.node (.cons (.child (objects _ _)) (.cons (.text _ _) .nil))).mono
            fun ⟨first, second, _⟩ => ?_
          rw [Target.bare, Target.bare, first, second]
termination_by structural a => a

theorem ofExprs_tell : ∀ as bs : List Expr, WrittenApart (expressionNodes as) (expressionNodes bs) →
    ∀ here there, AllTell (ofExprsIn here as) (ofExprsIn there bs)
      (Expr.bareAll as = Expr.bareAll bs)
  | [], [], _, _, _ => AllTell.nil.mono fun _ => rfl
  | [], _ :: _, _, _, _ => .ended
  | _ :: _, [], _, _, _ => AllTell.ended.symm
  | a :: as, b :: bs, apart, _, _ => by
      have firsts := ofExpr_tells a b
        (apart.mono (List.subset_append_left _ _) (List.subset_append_left _ _))
      have rests := ofExprs_tell as bs
        (apart.mono (List.subset_append_right _ _) (List.subset_append_right _ _))
      refine (AllTell.cons (firsts _ _) (rests _ _)).mono fun ⟨first, rest⟩ => ?_
      rw [Expr.bareAll, Expr.bareAll, first, rest]
termination_by structural a => a

theorem ofExpr?_tells : ∀ a b : Option Expr,
    WrittenApart (a.elim [] Expr.nodes) (b.elim [] Expr.nodes) →
    ∀ here there, (ofExprIn? here a).Tells (ofExprIn? there b) (a.map Expr.bare = b.map Expr.bare)
  | none, none, _, _, _ => Part.Tells.missing.mono fun _ => rfl
  | none, some _, _, _, _ => .missing_child
  | some _, none, _, _, _ => Part.Tells.missing_child.symm
  | some a, some b, apart, _, _ =>
      (Part.Tells.child (ofExpr_tells a b apart _ _)).mono (congrArg some)
termination_by structural a => a

theorem ofStmt_tells : ∀ a b : Stmt, WrittenApart a.nodes b.nodes →
    ∀ here there, (ofStmtIn here a).Tells (ofStmtIn there b) (a.bare = b.bare)
  | .declare span name initial, b, apart, _, _ => by
      cases b with
      | declare span' name' initial' =>
          rw [Stmt.nodes_declare, Stmt.nodes_declare] at apart
          have initials := ofExpr?_tells initial initial' (apart.parts (by simp) (by simp))
          refine (Tells.node (.cons (.text _ _) (.cons (initials _ _) .nil))).mono
            fun ⟨first, second, _⟩ => ?_
          rw [Stmt.bare_declare, Stmt.bare_declare, first, second]
      | _ => exact .other (by simp)
  | .expression span value, b, apart, _, _ => by
      cases b with
      | expression span' value' =>
          have values := ofExpr_tells value value' (apart.parts (by simp) (by simp))
          refine (Tells.node (.cons (.child (values _ _)) .nil)).mono fun ⟨same, _⟩ => ?_
          rw [Stmt.bare, Stmt.bare, same]
      | _ => exact .other (by simp)
  | .block span statements, b, apart, _, _ => by
      cases b with
      | block span' statements' =>
          have lists := ofStmts_tell statements statements' (apart.parts (by simp) (by simp))
          refine (Tells.node (.cons (.children (lists _ _)) .nil)).mono fun ⟨same, _⟩ => ?_
          rw [Stmt.bare, Stmt.bare, same]
      | _ => exact .other (by simp)
  | .conditional span condition consequent alternate, b, apart, _, _ => by
      cases b with
      | conditional span' condition' consequent' alternate' =>
          rw [Stmt.nodes_conditional, Stmt.nodes_conditional] at apart
          have conditions := ofExpr_tells condition condition' (apart.parts (by simp) (by simp))
          have consequents := ofStmt_tells consequent consequent' (apart.parts (by simp) (by simp))
          have alternates := ofStmt?_tells alternate alternate' (apart.parts (by simp) (by simp))
          refine (Tells.node (.cons (.child (conditions _ _)) (.cons (.child (consequents _ _))
            (.cons (alternates _ _) .nil)))).mono fun ⟨first, second, third, _⟩ => ?_
          rw [Stmt.bare_conditional, Stmt.bare_conditional, first, second, third]
      | _ => exact .other (by simp)
  | .loop span condition body, b, apart, _, _ => by
      cases b with
      | loop span' condition' body' =>
          have conditions := ofExpr_tells condition condition' (apart.parts (by simp) (by simp))
          have bodies := ofStmt_tells body body' (apart.parts (by simp) (by simp))
          refine (Tells.node (.cons (.child (conditions _ _)) (.cons (.child (bodies _ _))
            .nil))).mono fun ⟨first, second, _⟩ => ?_
          rw [Stmt.bare, Stmt.bare, first, second]
      | _ => exact .other (by simp)
  | .function span name params body, b, apart, _, _ => by
      cases b with
      | function span' name' params' body' =>
          have bodies := ofStmts_tell body body' (apart.parts (by simp) (by simp))
          refine (Tells.node (.cons (.text? name name') (.cons (.names _ _)
            (.cons (.children (bodies _ _)) .nil)))).mono fun ⟨first, second, third, _⟩ => ?_
          rw [Stmt.bare, Stmt.bare, first, second, third]
      | _ => exact .other (by simp)
  | .result span value, b, apart, _, _ => by
      cases b with
      | result span' value' =>
          rw [Stmt.nodes_result, Stmt.nodes_result] at apart
          have values := ofExpr?_tells value value' (apart.parts (by simp) (by simp))
          refine (Tells.node (.cons (values _ _) .nil)).mono fun ⟨same, _⟩ => ?_
          rw [Stmt.bare_result, Stmt.bare_result, same]
      | _ => exact .other (by simp)
  | .leave span, b, _, _, _ => by
      cases b with
      | leave span' => exact (Tells.node .nil).mono fun _ => rfl
      | _ => exact .other (by simp)
  | .proceed span, b, _, _, _ => by
      cases b with
      | proceed span' => exact (Tells.node .nil).mono fun _ => rfl
      | _ => exact .other (by simp)
  | .construct span className arguments, b, apart, _, _ => by
      cases b with
      | construct span' className' arguments' =>
          have lists := ofExprs_tell arguments arguments' (apart.parts (by simp) (by simp))
          refine (Tells.node (.cons (.text _ _) (.cons (.children (lists _ _))
            (.cons (.flag _ _) .nil)))).mono fun ⟨first, second, _⟩ => ?_
          rw [Stmt.bare, Stmt.bare, first, second]
      | _ => exact .other (by simp)
  | .load span path, b, apart, _, _ => by
      cases b with
      | load span' path' =>
          have paths := ofExpr_tells path path' (apart.parts (by simp) (by simp))
          refine (Tells.node (.cons (.child (paths _ _)) .nil)).mono fun ⟨same, _⟩ => ?_
          rw [Stmt.bare, Stmt.bare, same]
      | _ => exact .other (by simp)
termination_by structural a => a

theorem ofStmts_tell : ∀ as bs : List Stmt, WrittenApart (bodyNodes as) (bodyNodes bs) →
    ∀ here there, AllTell (ofStmtsIn here as) (ofStmtsIn there bs)
      (Stmt.bareAll as = Stmt.bareAll bs)
  | [], [], _, _, _ => AllTell.nil.mono fun _ => rfl
  | [], _ :: _, _, _, _ => .ended
  | _ :: _, [], _, _, _ => AllTell.ended.symm
  | a :: as, b :: bs, apart, _, _ => by
      have firsts := ofStmt_tells a b
        (apart.mono (List.subset_append_left _ _) (List.subset_append_left _ _))
      have rests := ofStmts_tell as bs
        (apart.mono (List.subset_append_right _ _) (List.subset_append_right _ _))
      refine (AllTell.cons (firsts _ _) (rests _ _)).mono fun ⟨first, rest⟩ => ?_
      rw [Stmt.bareAll, Stmt.bareAll, first, rest]
termination_by structural a => a

theorem ofStmt?_tells : ∀ a b : Option Stmt,
    WrittenApart (a.elim [] Stmt.nodes) (b.elim [] Stmt.nodes) →
    ∀ here there, (ofStmtIn? here a).Tells (ofStmtIn? there b) (a.map Stmt.bare = b.map Stmt.bare)
  | none, none, _, _, _ => Part.Tells.missing.mono fun _ => rfl
  | none, some _, _, _, _ => .missing_child
  | some _, none, _, _, _ => Part.Tells.missing_child.symm
  | some a, some b, apart, _, _ =>
      (Part.Tells.child (ofStmt_tells a b apart _ _)).mono (congrArg some)
termination_by structural a => a

end

end Outline

/-! ## Programs -/

/-- The lines of a program's outline determine the program, but for its spans, as far as what is
written for a number determines the number.  They also determine which of its `new` statements have
bound the name of their class, whether the programs are as they were read or have been executed. -/
theorem Program.bare_eq_of_lines {program other : Program} {here there : Outline.Constructed}
    (apart : WrittenApart (bodyNodes program.body) (bodyNodes other.body))
    (same : (Outline.ofProgramIn here program).lines 0 =
      (Outline.ofProgramIn there other).lines 0) :
    program.bare = other.bare ∧ program.file = other.file ∧
      (Outline.ofProgramIn here program).marks = (Outline.ofProgramIn there other).marks := by
  have bodies := Outline.ofStmts_tell program.body other.body apart here there
  have tells : (Outline.ofProgramIn here program).Tells (Outline.ofProgramIn there other)
      (program.bare = other.bare ∧ program.file = other.file) := by
    refine (Outline.Tells.node (.cons (.children bodies)
      (.cons (.text? program.file other.file) .nil))).mono fun ⟨body, file, _⟩ => ⟨?_, file⟩
    rw [Program.bare, Program.bare, body]
  obtain ⟨⟨bare, file⟩, marks⟩ := (tells 0 [] [] (congrArg (· ++ []) same)).1
  exact ⟨bare, file, marks⟩

/-- Which `new` statements of a unit have bound the name of their class, as a machine remembers
it. -/
def Machine.marking (machine : Machine) (unit : UnitId) : Outline.Constructed :=
  fun _ span => machine.constructed.contains (unit, span.start.offset)

/-- The program `x = 6 new A();`, with every span the same. -/
def assignedSix (place : Span) : Program :=
  ⟨place, [.expression place (.assign place (.name place "x") (.number place 6)),
    .construct place "A" []], some "six"⟩

/-- A machine that has executed the `new` statement of the program as code of a unit. -/
def constructedSix (unit : UnitId) (place : Span) : Machine :=
  endState (bindInstance ⟨0, unit, 0⟩ place "A" .absent
    { scopes := #[{ name := "global", parent := none }], disk := (FileTree.directory []).disk "/" })

/-- Two readings of a program whose `new` statement has been executed; before that,
the lines differ. -/
theorem Program.bare_eq_of_lines_executed :
    let place : Span := ⟨{}, { line := 2 }⟩
    let later : Span := ⟨{}, { column := 6, offset := 5 }⟩
    let outline := Outline.ofProgramIn ((constructedSix 1 place).marking 1) (assignedSix place)
    let another := Outline.ofProgramIn ((constructedSix 3 later).marking 3) (assignedSix later)
    WrittenApart (bodyNodes (assignedSix place).body) (bodyNodes (assignedSix later).body) ∧
      outline.lines 0 = another.lines 0 ∧
      (assignedSix place).bare = (assignedSix later).bare ∧
      (assignedSix place).file = (assignedSix later).file ∧
      outline.marks = another.marks ∧ outline.marks = [true] ∧
      outline.lines 0 ≠ (Outline.ofProgram (assignedSix place)).lines 0 := by
  intro place later outline another
  have apart : WrittenApart (bodyNodes (assignedSix place).body)
      (bodyNodes (assignedSix later).body) := by
    intro x hx y hy _
    have first : x = 6 := List.mem_singleton.mp hx
    have second : y = 6 := List.mem_singleton.mp hy
    rw [first, second]
  have same : outline.lines 0 = another.lines 0 := rfl
  obtain ⟨bare, file, marks⟩ := Program.bare_eq_of_lines apart same
  refine ⟨apart, same, bare, file, marks, rfl, fun unexecuted => ?_⟩
  -- The lines of the program as it is read would have to show the same marks.
  have read := (Program.bare_eq_of_lines (fun x hx y hy _ => ?_) unexecuted).2.2
  · cases read
  · rw [List.mem_singleton.mp hx, List.mem_singleton.mp hy]

end Scriptlet
