/-!
# Kinds of values
-/

namespace Scriptlet

/-- The kinds of values that a script can handle. -/
inductive Kind where
  | number
  | text
  | bool
  | absent
  | array
  | function
  | host
  deriving DecidableEq, Repr

/-- The name of a kind in messages. -/
def Kind.label : Kind → String
  | .number => "number"
  | .text => "text"
  | .bool => "bool"
  | .absent => "undefined"
  | .array => "array"
  | .function => "function"
  | .host => "host object"

end Scriptlet
