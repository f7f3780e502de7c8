/-!
# Numbers as integers times powers of two

A finite number is a signed natural number times a power of two. Rounding to integers, the remainder
of a division and the decimal forms are computed on these parts exactly.
-/

namespace Scriptlet.Number

/-- A finite number: `mantissa` times two to the power `exponent`, with a sign. -/
structure Parts where
  negative : Bool
  mantissa : Nat
  exponent : Int
  deriving DecidableEq, Repr

/-- A number taken apart. -/
inductive Shape where
  | notANumber
  | infinite (negative : Bool)
  | finite (parts : Parts)
  deriving DecidableEq, Repr

/-- Takes a number apart. -/
def shape (x : Float) : Shape :=
  let bits := x.toBits.toNat
  let negative : Bool := bits / Nat.pow 2 63 % 2 == 1
  let exponent : Nat := bits / Nat.pow 2 52 % Nat.pow 2 11
  let fraction : Nat := bits % Nat.pow 2 52
  if exponent = Nat.pow 2 11 - 1 then
    if fraction = 0 then .infinite negative else .notANumber
  else if exponent = 0 then .finite ⟨negative, fraction, -1074⟩
  else .finite ⟨negative, Nat.pow 2 52 + fraction, (exponent : Int) - 1075⟩

/-- The number `mantissa * 2 ^ exponent`, rounded to nearest with ties to even. -/
def ofBinary (mantissa : Nat) (exponent : Int) : Float :=
  if 0 ≤ exponent then Float.ofScientific (mantissa * Nat.pow 2 exponent.toNat) false 0
  else Float.ofScientific (mantissa * Nat.pow 5 (-exponent).toNat) true (-exponent).toNat

/-- The number nearest to an integer, with ties to even; infinite beyond the largest number. -/
def ofInt (n : Int) : Float :=
  let magnitude := Float.ofScientific n.natAbs false 0
  if n < 0 then -magnitude else magnitude

/-- A natural number as a number. -/
def ofNat (n : Nat) : Float :=
  Float.ofScientific n false 0

/-- The greatest integer that is at most the number given by its parts. -/
def Parts.floor (parts : Parts) : Int :=
  let signed : Int := if parts.negative then -(parts.mantissa : Int) else parts.mantissa
  if 0 ≤ parts.exponent then signed * (Nat.pow 2 parts.exponent.toNat : Nat)
  else signed.fdiv (Nat.pow 2 (-parts.exponent).toNat : Nat)

/-- Whether the number given by its parts is an integer. -/
def Parts.isIntegral (parts : Parts) : Bool :=
  0 ≤ parts.exponent || parts.mantissa % Nat.pow 2 (-parts.exponent).toNat == 0

/-- The greatest integer that is at most a number; nothing if the number is not finite. -/
def floor? (x : Float) : Option Int :=
  match shape x with
  | .finite parts => some parts.floor
  | _ => none

/-- The least integer that is at least a number; nothing if the number is not finite. -/
def ceil? (x : Float) : Option Int :=
  match shape x with
  | .finite parts => some (if parts.isIntegral then parts.floor else parts.floor + 1)
  | _ => none

/-- The integer part of a number; nothing if the number is not finite. -/
def truncate? (x : Float) : Option Int :=
  match shape x with
  | .finite parts =>
      some (if parts.negative && !parts.isIntegral then parts.floor + 1 else parts.floor)
  | _ => none

/-- The integer nearest to the number given by its parts, the even one of two. -/
def Parts.roundToEven (parts : Parts) : Int :=
  if 0 ≤ parts.exponent then parts.floor
  else
    let signed : Int := if parts.negative then -(parts.mantissa : Int) else parts.mantissa
    let unit : Int := (Nat.pow 2 (-parts.exponent).toNat : Nat)
    let below := parts.floor
    let rest := 2 * (signed - below * unit)
    if rest < unit then below
    else if unit < rest then below + 1
    else if below % 2 = 0 then below else below + 1

/-- The integer nearest to a number, the even one of two; nothing if the number is not finite. -/
def roundToEven? (x : Float) : Option Int :=
  match shape x with
  | .finite parts => some parts.roundToEven
  | _ => none

/-- The integer that a number is, if it is one. -/
def toInt? (x : Float) : Option Int :=
  match shape x with
  | .finite parts => if parts.isIntegral then some parts.floor else none
  | _ => none

/-- The position in a sequence of `size` items that a number denotes. -/
def toIndex? (x : Float) (size : Nat) : Option Nat :=
  match toInt? x with
  | some n => if 0 ≤ n ∧ n < size then some n.toNat else none
  | none => none

/-- The sign bit of a number, also of zeros and of numbers that are not finite. -/
def isNegative (x : Float) : Bool :=
  x.toBits.toNat / Nat.pow 2 63 % 2 == 1

/-- The positive infinity. -/
def infinity : Float := 1.0 / 0.0

/-- The number that is no number. -/
def notANumber : Float := 0.0 / 0.0

/-- The quotient of two numbers; a zero divisor gives a signed infinity, or no number for a zero or
undefined dividend. -/
def divide (a b : Float) : Float :=
  if b == 0.0 then
    if a == 0.0 || a.isNaN then notANumber
    else if isNegative a == isNegative b then infinity else -infinity
  else a / b

/-- The remainder of the division that rounds toward zero, with the sign of the dividend. -/
def remainder (a b : Float) : Float :=
  match shape a, shape b with
  | .finite x, .finite y =>
      if y.mantissa = 0 then notANumber
      else
        let unit := min x.exponent y.exponent
        let dividend := x.mantissa * Nat.pow 2 (x.exponent - unit).toNat
        let divisor := y.mantissa * Nat.pow 2 (y.exponent - unit).toNat
        let rest := ofBinary (dividend % divisor) unit
        if x.negative then -rest else rest
  | .finite _, .infinite _ => a
  | _, _ => notANumber

end Scriptlet.Number
