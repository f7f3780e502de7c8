import Mathlib
import Scriptlet.Value.JsonForm

/-!
# Comparison of numbers

Equal numbers are identical, apart from the two zeros, and every number but the one that is not a
number is equal to itself.  So equal numbers have the same texts and the same JSON form.
-/

namespace Scriptlet.Number

theorem beq_comm (x y : Float) : (x == y) = (y == x) := by
  rw [Bool.eq_iff_iff, Float.beq_iff_ne_nan_and_eq, Float.beq_iff_ne_nan_and_eq]
  tauto

/-- Equal numbers are identical, apart from the two zeros. -/
theorem eq_or_zero_of_beq {x y : Float} (same : (y == x) = true) :
    y = x ∨ (y = 0 ∨ y = -0) ∧ (x = 0 ∨ x = -0) := by
  obtain ⟨-, -, cases⟩ := Float.beq_iff_ne_nan_and_eq.mp same
  tauto

theorem beq_self_iff (x : Float) : (x == x) = true ↔ x.isNaN = false := by
  rw [Float.beq_self_iff, Float.isNaN_eq_decide_eq_nan, decide_eq_false_iff_not]

theorem beq_trans {x y z : Float} (first : (x == y) = true) (second : (y == z) = true) :
    (x == z) = true := by
  obtain ⟨proper, -, same⟩ := Float.beq_iff_ne_nan_and_eq.mp first
  obtain ⟨-, proper', same'⟩ := Float.beq_iff_ne_nan_and_eq.mp second
  refine Float.beq_iff_ne_nan_and_eq.mpr ⟨proper, proper', ?_⟩
  have distinct : (0 : Float) ≠ -0 := by decide
  rcases same with rfl | ⟨rfl, rfl⟩ | ⟨rfl, rfl⟩
  · exact same'
  · rcases same' with rfl | ⟨zero, -⟩ | ⟨-, rfl⟩
    · exact Or.inr (Or.inl ⟨rfl, rfl⟩)
    · exact absurd zero.symm distinct
    · exact Or.inl rfl
  · rcases same' with rfl | ⟨-, rfl⟩ | ⟨zero, -⟩
    · exact Or.inr (Or.inr ⟨rfl, rfl⟩)
    · exact Or.inl rfl
    · exact absurd zero distinct

/-! ## What equal numbers share -/

/-- What has the same value at the two zeros has the same value at equal numbers. -/
theorem congr_of_beq {α : Type} {view : Float → α} (zeros : view (-0) = view 0) {x y : Float}
    (same : (y == x) = true) : view y = view x := by
  rcases eq_or_zero_of_beq same with rfl | ⟨rfl | rfl, rfl | rfl⟩
  · rfl
  · rfl
  · exact zeros.symm
  · exact zeros
  · rfl

theorem shape_zero {x : Float} (zero : x = 0 ∨ x = -0) :
    ∃ parts, shape x = .finite parts ∧ parts.isIntegral = true ∧ parts.floor = 0 := by
  have integral (negative : Bool) (exponent : Int) :
      Parts.isIntegral ⟨negative, 0, exponent⟩ = true := by
    simp [Parts.isIntegral]
  have floor (negative : Bool) (exponent : Int) : Parts.floor ⟨negative, 0, exponent⟩ = 0 := by
    simp [Parts.floor]
  rcases zero with rfl | rfl
  · exact ⟨_, (by decide : shape 0 = .finite ⟨false, 0, -1074⟩), integral _ _, floor _ _⟩
  · exact ⟨_, (by decide : shape (-0) = .finite ⟨true, 0, -1074⟩), integral _ _, floor _ _⟩

theorem toJson_zero {x : Float} (zero : x = 0 ∨ x = -0) : toJson x = .int 0 := by
  obtain ⟨parts, finite, integral, floor⟩ := shape_zero zero
  simp [toJson, finite, integral, floor]

theorem display_zero {x : Float} (zero : x = 0 ∨ x = -0) : display x = "0" := by
  obtain ⟨parts, finite, integral, floor⟩ := shape_zero zero
  simp [display, finite, integral, floor]
  rfl

theorem toJson_eq_of_beq {x y : Float} (same : (y == x) = true) : toJson y = toJson x :=
  congr_of_beq ((toJson_zero (Or.inr rfl)).trans (toJson_zero (Or.inl rfl)).symm) same

theorem display_eq_of_beq {x y : Float} (same : (y == x) = true) : display y = display x :=
  congr_of_beq ((display_zero (Or.inr rfl)).trans (display_zero (Or.inl rfl)).symm) same

end Scriptlet.Number

namespace Scriptlet.Store

theorem isTruthy_eq_of_beq (store : Store) {x y : Float} (same : (y == x) = true) :
    store.isTruthy (.number y) = store.isTruthy (.number x) := by
  have zeros : store.isTruthy (.number (-0)) = store.isTruthy (.number 0) :=
    (by decide : ((-0 : Float) != 0.0 && !(-0 : Float).isNaN) = (0 != 0.0 && !(0 : Float).isNaN))
  exact @Number.congr_of_beq _ (fun x => store.isTruthy (.number x)) zeros _ _ same

end Scriptlet.Store
