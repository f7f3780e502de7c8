/-!
# Room on the stack

Every nested step of a run takes some of the room on the stack, and a run that needs more is
refused. The room is made for the deepest nesting of calls that is allowed.
-/

namespace Scriptlet

/-- How deep calls may nest unless a run is told otherwise. -/
def defaultDepthLimit : Nat := 800

/-- The room that is kept for one call. -/
def roomPerCall : Nat := 25

/-- The room on the stack for a limit on the depth of calls. It never falls below the room for the
default limit. -/
def stackRoom (depthLimit : Nat) : Nat :=
  max defaultDepthLimit depthLimit * roomPerCall

end Scriptlet
