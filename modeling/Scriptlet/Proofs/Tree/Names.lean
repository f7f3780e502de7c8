import Scriptlet.Scope.Lookup

/-!
# Names that code asks for

The names under which code can look for a binding, in expressions, in assignments and as classes,
also in the functions that it makes.  A path of members and the name of an item are looked for as
they are written and then by the name that they start with.
-/

namespace Scriptlet

/-- The names for which scopes are asked when a name is looked up. -/
def namesTried : (levels : Nat) → String → List String
  | 0, _ => []
  | levels + 1, name =>
      name :: match itemName? name with
        | some (base, _) => namesTried levels base
        | none =>
            match (Text.cutAt '.' name.toList).map String.ofList with
            | first :: _ :: _ => namesTried levels first
            | _ => []

/-- The names for which scopes are asked when a name is resolved. -/
def namesAsked (name : String) : List String :=
  namesTried 3 name

mutual

/-- The names that an expression asks for, however deep. -/
def Expr.names : Expr → List String
  | .number _ _ | .text _ _ | .bool _ _ => []
  | .name _ id => namesAsked id
  | .binary _ left _ right => left.names ++ right.names
  | .unary _ _ operand => operand.names
  | .assign _ target value => target.names ++ value.names
  | .call _ callee arguments => callee.names ++ expressionNames arguments
  | .member _ object _ => object.names
  | .index _ object place => object.names ++ place.names
  | .array _ elements => expressionNames elements
  | .function _ _ body => bodyNames body
  | .load _ path => path.names
  | .construct _ className arguments => namesAsked className ++ expressionNames arguments

/-- The names that a target asks for. -/
def Target.names : Target → List String
  | .name _ id => [id]
  | .member _ object _ => object.names

/-- The names that several expressions ask for. -/
def expressionNames : List Expr → List String
  | [] => []
  | expression :: rest => expression.names ++ expressionNames rest

/-- The names that a statement asks for, however deep. -/
def Stmt.names : Stmt → List String
  | .declare _ _ none | .result _ none | .leave _ | .proceed _ => []
  | .declare _ _ (some value) | .result _ (some value) | .expression _ value => value.names
  | .block _ statements => bodyNames statements
  | .conditional _ condition consequent none => condition.names ++ consequent.names
  | .conditional _ condition consequent (some alternate) =>
      condition.names ++ (consequent.names ++ alternate.names)
  | .loop _ condition body => condition.names ++ body.names
  | .function _ _ _ body => bodyNames body
  | .construct _ className arguments => namesAsked className ++ expressionNames arguments
  | .load _ path => path.names

/-- The names that a body asks for. -/
def bodyNames : List Stmt → List String
  | [] => []
  | statement :: rest => statement.names ++ bodyNames rest

end

theorem mem_expressionNames {expressions : List Expr} {name : String} :
    name ∈ expressionNames expressions ↔ ∃ part ∈ expressions, name ∈ part.names := by
  induction expressions with
  | nil => simp [expressionNames]
  | cons expression rest ih => simp [expressionNames, ih]

theorem mem_bodyNames {statements : List Stmt} {name : String} :
    name ∈ bodyNames statements ↔ ∃ part ∈ statements, name ∈ part.names := by
  induction statements with
  | nil => simp [bodyNames]
  | cons statement rest ih => simp [bodyNames, ih]

end Scriptlet
