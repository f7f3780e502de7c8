import Scriptlet.Number.Parts

/-!
# Shortest decimal forms

The decimal form of a number has the fewest significant digits that read back as the same number,
and of those forms the one nearest to it. A number is the rounding of every real in an interval; the
search looks for a point of the grids of 1, 2, … 17 significant digits in that interval.
-/

namespace Scriptlet.Number

/-- A positive decimal: `digits * 10 ^ power`. -/
structure Decimal where
  digits : Nat
  power : Int
  deriving DecidableEq, Repr

/-- A positive rational. -/
structure Ratio where
  num : Nat
  den : Nat

/-- `n * 2 ^ e` as a rational. -/
def Ratio.ofBinary (n : Nat) (e : Int) : Ratio :=
  if 0 ≤ e then ⟨n * Nat.pow 2 e.toNat, 1⟩ else ⟨n, Nat.pow 2 (-e).toNat⟩

/-- A rational divided by `10 ^ e`. -/
def Ratio.shift (r : Ratio) (e : Int) : Ratio :=
  if 0 ≤ e then ⟨r.num, r.den * Nat.pow 10 e.toNat⟩
  else ⟨r.num * Nat.pow 10 (-e).toNat, r.den⟩

/-- Raises `guess` to the greatest power of ten that is at most the rational, in at most `fuel`
steps. -/
def Ratio.decadeFrom (r : Ratio) : Nat → Int → Int
  | 0, guess => guess
  | fuel + 1, guess =>
      let next := r.shift (guess + 1)
      if next.den ≤ next.num then r.decadeFrom fuel (guess + 1) else guess

/-- The exponent of the greatest power of ten that is at most the rational. -/
def Ratio.decade (r : Ratio) : Int :=
  let width : Int := (Nat.log2 r.num : Int) - Nat.log2 r.den
  r.decadeFrom 8 ((width * 1233).fdiv 4096 - 2)

/-- The reals that round to a number: `value`, and the bounds on both sides, which belong to the
interval when `closed`. -/
structure Interval where
  value : Ratio
  low : Ratio
  high : Ratio
  closed : Bool

/-- The interval of the reals that round to `mantissa * 2 ^ exponent`. Below a power of two the
neighbouring number is half as far. -/
def Interval.ofBinary (mantissa : Nat) (exponent : Int) : Interval :=
  let below := if mantissa = Nat.pow 2 52 ∧ -1074 < exponent then 1 else 2
  { value := Ratio.ofBinary (4 * mantissa) (exponent - 2)
    low := Ratio.ofBinary (4 * mantissa - below) (exponent - 2)
    high := Ratio.ofBinary (4 * mantissa + 2) (exponent - 2)
    closed := mantissa % 2 = 0 }

/-- Whether `n * 10 ^ power` lies in the interval. -/
def Interval.contains (interval : Interval) (n : Nat) (power : Int) : Bool :=
  let low := interval.low.shift power
  let high := interval.high.shift power
  if interval.closed then low.num ≤ n * low.den && n * high.den ≤ high.num
  else low.num < n * low.den && n * high.den < high.num

/-- The point of the grid of multiples of `10 ^ power` that is nearest to the value among its two
neighbours in the interval; the even one of two equally near. -/
def Interval.nearest? (interval : Interval) (power : Int) : Option Nat :=
  let value := interval.value.shift power
  let lower := value.num / value.den
  let twice := 2 * (value.num % value.den)
  match interval.contains lower power, interval.contains (lower + 1) power with
  | true, true =>
      if twice < value.den ∨ (twice = value.den ∧ lower % 2 = 0) then some lower
      else some (lower + 1)
  | true, false => some lower
  | false, true => some (lower + 1)
  | false, false => none

/-- The first of the grids of `count`, `count + 1`, … significant digits with a point in the
interval. -/
def Interval.search (interval : Interval) (decade : Int) : (fuel count : Nat) → Decimal
  | 0, count =>
      let power := decade - count + 1
      let value := interval.value.shift power
      ⟨value.num / value.den, power⟩
  | fuel + 1, count =>
      let power := decade - count + 1
      match interval.nearest? power with
      | some n => ⟨n, power⟩
      | none => interval.search decade fuel (count + 1)

/-- Moves the zeros at the end of the digits into the power. -/
def Decimal.trimFrom : Nat → Decimal → Decimal
  | 0, d => d
  | fuel + 1, d =>
      if d.digits % 10 = 0 then trimFrom fuel ⟨d.digits / 10, d.power + 1⟩ else d

/-- The shortest decimal that reads back as `mantissa * 2 ^ exponent`. -/
def shortest (mantissa : Nat) (exponent : Int) : Decimal :=
  let interval := Interval.ofBinary mantissa exponent
  Decimal.trimFrom 20 (interval.search interval.value.decade 17 1)

end Scriptlet.Number
