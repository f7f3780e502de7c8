import Scriptlet.Store

/-!
# Equality of values

Values of different kinds are never equal. Arrays are equal when they have as many items and the
items are equal in turn; functions and host objects are equal only to themselves. Arrays may contain
themselves, so every level takes from the room that is left on the stack.
-/

namespace Scriptlet

/-- Whether a comparison that may fail holds of all pairs; the first pair of which it does not hold
ends the search. -/
def allPairs (compare : Value → Value → Except Fault Bool) :
    List (Value × Value) → Except Fault Bool
  | [] => .ok true
  | (left, right) :: rest => do
      if ← compare left right then allPairs compare rest else return false

/-- Whether two values are equal. -/
def Store.areEqual (store : Store) : (room : Nat) → Value → Value → Except Fault Bool
  | _, .number a, .number b => .ok (a == b)
  | _, .text a, .text b => .ok (a == b)
  | _, .bool a, .bool b => .ok (a == b)
  | _, .absent, .absent => .ok true
  | _, .closure a, .closure b => .ok (a == b)
  | _, .host a, .host b => .ok (a == b)
  | room + 2, .array a, .array b =>
      let left := store.items a
      let right := store.items b
      if left.size = right.size then
        allPairs (store.areEqual room) (left.toList.zip right.toList)
      else .ok false
  | _, .array _, .array _ => .error .exhausted
  | _, _, _ => .ok false

end Scriptlet
