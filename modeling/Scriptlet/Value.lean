import Scriptlet.Kind

/-!
# Values

A script handles values. Numbers, texts, booleans and the undefined value stand for themselves;
arrays, functions and host objects are cells of a store, and a value names its cell. The host
handles plain data, in which lists and tables are written out and integers are exact.
-/

namespace Scriptlet

/-- The name of an array cell. -/
abbrev ArrayId := Nat

/-- The name of a function cell. -/
abbrev ClosureId := Nat

/-- The name of a host object. -/
abbrev ObjectId := Nat

/-- The name of a scope. -/
abbrev ScopeId := Nat

/-- The name of one reading of a program text. -/
abbrev UnitId := Nat

/-- The name of a runner. -/
abbrev RunnerId := Nat

/-- A value of a script. -/
inductive Value where
  | number (value : Float)
  | text (value : String)
  | bool (value : Bool)
  | absent
  | array (id : ArrayId)
  | closure (id : ClosureId)
  | host (id : ObjectId)
  deriving DecidableEq, Repr, Inhabited

/-- The kind of a value. -/
def Value.kind : Value → Kind
  | .number _ => .number
  | .text _ => .text
  | .bool _ => .bool
  | .absent => .absent
  | .array _ => .array
  | .closure _ => .function
  | .host _ => .host

/-- Plain data of the host. -/
inductive Data where
  | null
  | bool (value : Bool)
  | int (value : Int)
  | float (value : Float)
  | text (value : String)
  | list (items : List Data)
  | table (fields : List (String × Data))
  | closure (id : ClosureId)
  | host (id : ObjectId)
  /-- Something that no script can handle. -/
  | foreign
  deriving Repr, Inhabited

end Scriptlet
