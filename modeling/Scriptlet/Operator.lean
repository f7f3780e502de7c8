import Scriptlet.Value.Display
import Scriptlet.Value.Equality

/-!
# Operators

What the operators compute once their operands have been evaluated. The two logical connectives are
not among them, because they may leave their right operand unevaluated.
-/

namespace Scriptlet

/-- The operations on two numbers. -/
inductive Arithmetic where
  | subtract
  | multiply
  | divide
  | remainder
  deriving DecidableEq, Repr

/-- The result of an operation on two numbers. -/
def Arithmetic.apply : Arithmetic → Float → Float → Float
  | .subtract => fun a b => a - b
  | .multiply => fun a b => a * b
  | .divide => Number.divide
  | .remainder => Number.remainder

/-- The comparisons of two numbers or two texts. -/
inductive Comparison where
  | less
  | greater
  | lessEqual
  | greaterEqual
  deriving DecidableEq, Repr

/-- Whether a comparison holds of two numbers; it holds of nothing that is no number. -/
def Comparison.ofNumbers : Comparison → Float → Float → Bool
  | .less => fun a b => a < b
  | .greater => fun a b => b < a
  | .lessEqual => fun a b => a ≤ b
  | .greaterEqual => fun a b => b ≤ a

/-- Whether a comparison holds of two texts, which are ordered by their characters. -/
def Comparison.ofTexts : Comparison → String → String → Bool
  | .less => fun a b => a < b
  | .greater => fun a b => b < a
  | .lessEqual => fun a b => !(b < a : Bool)
  | .greaterEqual => fun a b => !(a < b : Bool)

/-- The operators that evaluate both operands. -/
inductive Operation where
  | add
  | arithmetic (operation : Arithmetic)
  | compare (comparison : Comparison)
  | equal
  | notEqual
  deriving DecidableEq, Repr

/-- The operation that an operator stands for; the logical connectives stand for none. -/
def BinaryOperator.operation? : BinaryOperator → Option Operation
  | .either | .both => none
  | .equal => some .equal
  | .notEqual => some .notEqual
  | .less => some (.compare .less)
  | .greater => some (.compare .greater)
  | .lessEqual => some (.compare .lessEqual)
  | .greaterEqual => some (.compare .greaterEqual)
  | .add => some .add
  | .subtract => some (.arithmetic .subtract)
  | .multiply => some (.arithmetic .multiply)
  | .divide => some (.arithmetic .divide)
  | .remainder => some (.arithmetic .remainder)

/-- The failure of an operator on operands of the wrong kinds. -/
def refuseOperands {α : Type} (operator : String) (left right : Value) : Except Fault α :=
  .error (.ofMisuse (.operands operator left.kind right.kind))

namespace Store

/-- The sum of two numbers, the texts of two values if one of them is a text, or the items of two
arrays. -/
def add (room : Nat) (left right : Value) : StoreM Value := do
  let store ← get
  match left, right with
  | .number a, .number b => return .number (a + b)
  | .text _, _ | _, .text _ =>
      let first ← ofExcept (store.display room false left)
      let second ← ofExcept (store.display room false right)
      return .text (first ++ second)
  | .array a, .array b => addArray (store.items a ++ store.items b)
  | _, _ => ofExcept (refuseOperands "+" left right)

/-- The result of an operator on two values; `operator` is its spelling. -/
def operate (room : Nat) (operator : String) (operation : Operation) (left right : Value) :
    StoreM Value := do
  match operation with
  | .add => add room left right
  | .arithmetic operation =>
      match left, right with
      | .number a, .number b => return .number (operation.apply a b)
      | _, _ => ofExcept (refuseOperands operator left right)
  | .compare comparison =>
      match left, right with
      | .number a, .number b => return .bool (comparison.ofNumbers a b)
      | .text a, .text b => return .bool (comparison.ofTexts a b)
      | _, _ => ofExcept (refuseOperands operator left right)
  | .equal => return .bool (← ofExcept ((← get).areEqual room left right))
  | .notEqual => return .bool !(← ofExcept ((← get).areEqual room left right))

/-- The result of the operator with a given spelling on two values. -/
def operateNamed (room : Nat) (operator : String) (left right : Value) : StoreM Value :=
  match (BinaryOperator.ofText? operator).bind BinaryOperator.operation? with
  | some operation => operate room operator operation left right
  | none => throw (.ofMisuse (.unknownOperator operator))

/-- The negative of a number. -/
def negate : Value → Except Fault Value
  | .number x => .ok (.number (-x))
  | value => .error (.ofMisuse (.negation value.kind))

end Store

end Scriptlet
