import Scriptlet.Library.Signature
import Scriptlet.Value.Convert

/-!
# Functions on numbers

Results that are not defined are no number, and results beyond the range of numbers are infinite and
positive.
-/

namespace Scriptlet
namespace MathFunction

/-- The name of a function. -/
def name : MathFunction → String
  | .floor => "floor"
  | .ceil => "ceil"
  | .round => "round"
  | .abs => "abs"
  | .sqrt => "sqrt"
  | .sin => "sin"
  | .cos => "cos"
  | .tan => "tan"
  | .log => "log"
  | .exp => "exp"
  | .pow => "pow"
  | .atan2 => "atan2"

/-- How many numbers a function takes; further ones are ignored. -/
def arity : MathFunction → Nat
  | .pow | .atan2 => 2
  | _ => 1

/-- All functions, in the order in which they are listed. -/
def all : List MathFunction :=
  [.floor, .ceil, .round, .abs, .sqrt, .sin, .cos, .tan, .log, .exp, .pow, .atan2]

/-- The nearest integer, the greater one of two; numbers that are not finite stay. -/
def roundHalfUp (x : Float) : Float :=
  match Number.floor? x, Number.floor? (x + 0.5) with
  | some _, some n => Number.ofInt n
  | _, _ => x

/-- The natural logarithm; that of zero is infinite and negative. -/
def logarithm (x : Float) : Float :=
  if x == 0.0 then -Number.infinity
  else if x < 0.0 then Number.notANumber
  else Float.log x

/-- A power. A negative power of zero is undefined. -/
def power (x y : Float) : Float :=
  let result := Float.pow x y
  if x.isFinite && y.isFinite && result.isInf then
    if x == 0.0 then Number.notANumber else Number.infinity
  else result

/-- The value of a function of one number. -/
def applyOne (function : MathFunction) (x : Float) : Float :=
  match function with
  | .floor => ((Number.floor? x).map Number.ofInt).getD x
  | .ceil => ((Number.ceil? x).map Number.ofInt).getD x
  | .round => roundHalfUp x
  | .abs => x.abs
  | .sqrt => x.sqrt
  | .sin => x.sin
  | .cos => x.cos
  | .tan => x.tan
  | .log => logarithm x
  | .exp => x.exp
  | .pow | .atan2 => x

/-- The value of a function of two numbers. -/
def applyTwo (function : MathFunction) (x y : Float) : Float :=
  match function with
  | .pow => power x y
  | .atan2 => Float.atan2 x y
  | other => other.applyOne x

end MathFunction

/-- The numbers in a list of arguments; anything else is refused. -/
def numbersOf (store : Store) (room : Nat) (function : String) : List Data →
    Except Fault (List Float)
  | [] => .ok []
  | .float x :: rest => do return x :: (← numbersOf store room function rest)
  | data :: _ => do
      throw (.ofMisuse (.mathOperand function (← store.displayData room false data)))

/-- The first of the numbers that no other one is less than. -/
def leastOf : Float → List Float → Float
  | least, [] => least
  | least, x :: rest => leastOf (if x < least then x else least) rest

/-- The first of the numbers that no other one is greater than. -/
def greatestOf : Float → List Float → Float
  | greatest, [] => greatest
  | greatest, x :: rest => greatestOf (if greatest < x then x else greatest) rest

/-- Applies a function to arguments of which the first ones must be numbers enough. -/
def MathFunction.perform (store : Store) (room : Nat) (function : MathFunction)
    (arguments : List Data) : Except Fault Data := do
  let numbers ← numbersOf store room function.name arguments
  let refuse : Except Fault Data :=
    .error (.ofMisuse (.mathArity function.name function.arity numbers.length))
  match function.arity, numbers with
  | 1, x :: _ => return .float (function.applyOne x)
  | 2, x :: y :: _ => return .float (function.applyTwo x y)
  | _, _ => refuse

/-- The least of the arguments. -/
def leastArgument (store : Store) (room : Nat) (arguments : List Data) : Except Fault Data := do
  match ← numbersOf store room "min" arguments with
  | [] => return .float Number.infinity
  | x :: rest => return .float (leastOf x rest)

/-- The greatest of the arguments. -/
def greatestArgument (store : Store) (room : Nat) (arguments : List Data) : Except Fault Data := do
  match ← numbersOf store room "max" arguments with
  | [] => return .float (-Number.infinity)
  | x :: rest => return .float (greatestOf x rest)

/-- Draws a random number. -/
def drawNumber : StoreM Data :=
  modifyGet fun store =>
    let (x, random) := store.random.nextNumber
    (.float x, { store with random := random })

end Scriptlet
