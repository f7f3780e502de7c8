import Scriptlet.Number.Shortest

/-!
# Texts of numbers

Two ways to write a number. The literal form always shows that it is no integer (`1.0`, `1e+16`).
The display form, which scripts print, writes integers with all their digits and names the numbers
that are not finite.
-/

namespace Scriptlet.Number

/-- When a literal is written in positional form, by the power of ten of its first digit. -/
structure Layout where
  leastPositional : Int
  firstScientific : Int
  exponentWidth : Nat

/-- Literals are positional from `0.0001` up to, but not including, `1e+16`; exponents have at least
two digits. -/
def literalLayout : Layout := ⟨-4, 16, 2⟩

/-- Digits in positional form, where `point` digits stand before the point. -/
def positional (digits : List Char) (point : Int) : List Char :=
  if point ≤ 0 then '0' :: '.' :: (List.replicate (-point).toNat '0' ++ digits)
  else if (digits.length : Int) ≤ point then
    digits ++ List.replicate (point.toNat - digits.length) '0' ++ ['.', '0']
  else digits.take point.toNat ++ '.' :: digits.drop point.toNat

/-- Digits in scientific form with the given exponent. -/
def scientific (width : Nat) (digits : List Char) (exponent : Int) : List Char :=
  let fraction := match digits.drop 1 with
    | [] => []
    | rest => '.' :: rest
  let size := Nat.toDigits 10 exponent.natAbs
  digits.take 1 ++ fraction ++ 'e' :: (if exponent < 0 then '-' else '+') ::
    (List.replicate (width - size.length) '0' ++ size)

/-- A positive decimal as a literal. -/
def Decimal.render (d : Decimal) : List Char :=
  let digits := Nat.toDigits 10 d.digits
  let point : Int := digits.length + d.power
  if literalLayout.leastPositional ≤ point - 1 ∧ point - 1 < literalLayout.firstScientific then
    positional digits point
  else scientific literalLayout.exponentWidth digits (point - 1)

/-- The literal form of a number. -/
def literal (x : Float) : String :=
  match shape x with
  | .notANumber => "nan"
  | .infinite negative => if negative then "-inf" else "inf"
  | .finite parts =>
      let size :=
        if parts.mantissa = 0 then ['0', '.', '0']
        else (shortest parts.mantissa parts.exponent).render
      String.ofList (if parts.negative then '-' :: size else size)

/-- The display form of a number. -/
def display (x : Float) : String :=
  match shape x with
  | .notANumber => "NaN"
  | .infinite negative => if negative then "-Infinity" else "Infinity"
  | .finite parts => if parts.isIntegral then toString parts.floor else literal x

end Scriptlet.Number
