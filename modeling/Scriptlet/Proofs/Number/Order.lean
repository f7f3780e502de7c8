import Mathlib

/-!
# The order of numbers

Every number has a place in a linear order, in which the two zeros share one place.  Of two numbers
the first is less than the second exactly if neither is undefined and its place comes first, and two
numbers that are not undefined are equal if they have the same place.
-/

namespace Scriptlet.Number

open Float.Model (UnpackedFloat)
open Float.Model.UnpackedFloat (Sign)

/-- The place of a number that has been taken apart: negative numbers come by falling size, then the
zeros, then positive numbers by rising size, and the infinities stand at the ends. -/
def placeOf : UnpackedFloat → Int ×ₗ Int ×ₗ Int
  | .infinity .negative => toLex (-2, toLex (0, 0))
  | .finite .negative mantissa exponent _ => toLex (-1, toLex (-exponent, -mantissa))
  | .zero _ | .notANumber => toLex (0, toLex (0, 0))
  | .finite .positive mantissa exponent _ => toLex (1, toLex (exponent, mantissa))
  | .infinity .positive => toLex (2, toLex (0, 0))

/-- The place of a number. -/
def place (x : Float) : Int ×ₗ Int ×ₗ Int :=
  placeOf x.toModel.unpack

theorem then_eq_lt_iff (e f : Int) (m n : Nat) :
    (compare e f).then (compare m n) = .lt ↔ e < f ∨ e = f ∧ m < n := by
  rw [Ordering.then_eq_lt, compare_lt_iff_lt, compare_eq_iff_eq, compare_lt_iff_lt]

theorem then_eq_gt_iff (e f : Int) (m n : Nat) :
    (compare e f).then (compare m n) = .gt ↔ f < e ∨ e = f ∧ n < m := by
  rw [Ordering.then_eq_gt, compare_gt_iff_gt, compare_eq_iff_eq, compare_gt_iff_gt]

theorem unpacked_lt_iff (a b : UnpackedFloat) :
    a.lt b = true ↔ a ≠ .notANumber ∧ b ≠ .notANumber ∧ placeOf a < placeOf b := by
  have signs : compare Sign.negative Sign.positive = .lt := rfl
  rw [UnpackedFloat.lt, beq_iff_eq]
  rcases a with (_ | _) | _ | _ | ⟨_ | _, m, e, _⟩ <;>
    rcases b with (_ | _) | _ | _ | ⟨_ | _, n, f, _⟩ <;>
    simp [UnpackedFloat.compare, placeOf, Prod.Lex.toLex_lt_toLex, then_eq_lt_iff, then_eq_gt_iff,
      signs]

theorem unpacked_beq_of_placeOf {a b : UnpackedFloat} (first : a ≠ .notANumber)
    (second : b ≠ .notANumber) (same : placeOf a = placeOf b) : a.beq b = true := by
  have negative : compare Sign.negative Sign.negative = .eq := rfl
  have positive : compare Sign.positive Sign.positive = .eq := rfl
  rw [UnpackedFloat.beq, beq_iff_eq]
  revert first second same
  rcases a with (_ | _) | _ | _ | ⟨_ | _, m, e, _⟩ <;>
    rcases b with (_ | _) | _ | _ | ⟨_ | _, n, f, _⟩ <;>
    simp +contextual [UnpackedFloat.compare, placeOf, negative, positive]

theorem isNaN_eq_false_iff (x : Float) : x.isNaN = false ↔ x.toModel.unpack ≠ .notANumber := by
  rw [Ne, ← UnpackedFloat.isNaN_iff, Bool.not_eq_true]
  rfl

/-- A number is less than another one if neither is undefined and its place comes first. -/
theorem lt_iff_place (x y : Float) :
    x < y ↔ x.isNaN = false ∧ y.isNaN = false ∧ place x < place y := by
  rw [isNaN_eq_false_iff, isNaN_eq_false_iff, place, place, ← unpacked_lt_iff]
  change decide (x.toModel.unpack.lt y.toModel.unpack = true) = true ↔ _
  rw [decide_eq_true_iff]

/-- Numbers that have the same place are equal. -/
theorem beq_of_place {x y : Float} (first : x.isNaN = false) (second : y.isNaN = false)
    (same : place x = place y) : (x == y) = true :=
  unpacked_beq_of_placeOf ((isNaN_eq_false_iff x).mp first) ((isNaN_eq_false_iff y).mp second) same

end Scriptlet.Number
