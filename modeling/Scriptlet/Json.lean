import Scriptlet.Assoc

/-!
# JSON values

Numbers without a fraction and an exponent are exact integers; the fields of an object are in order.
-/

namespace Scriptlet

/-- A JSON value. -/
inductive Json where
  | null
  | bool (value : Bool)
  | int (value : Int)
  | float (value : Float)
  | text (value : String)
  | list (items : List Json)
  | object (fields : List (String × Json))
  deriving Repr, Inhabited

end Scriptlet
