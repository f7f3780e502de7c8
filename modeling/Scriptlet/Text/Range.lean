/-!
# Sets of characters as ranges

A set of code points is a list of inclusive ranges in increasing order.
-/

namespace Scriptlet.Text

/-- Whether `n` lies in one of the ranges; they are in increasing order. -/
def inRanges : List (Nat × Nat) → Nat → Bool
  | [], _ => false
  | (low, high) :: rest, n =>
      if n < low then false else if n ≤ high then true else inRanges rest n

end Scriptlet.Text
