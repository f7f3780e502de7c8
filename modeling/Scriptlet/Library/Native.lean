import Scriptlet.Library.Methods
import Scriptlet.Library.Math
import Scriptlet.Library.Date
import Scriptlet.Library.Jobs
import Scriptlet.Library.JsonText

/-!
# Operations of the host

What the host operations that work on the store alone do with their arguments. Some work on values;
others work on plain data, and their result becomes a value.
-/

namespace Scriptlet

/-- The texts of values with blanks between them. -/
def spaced (store : Store) (room : Nat) (values : List Value) : Except Fault String := do
  return " ".intercalate (← values.mapM (store.display room false))

/-- Performs an operation of the host. -/
def Native.perform (room : Nat) (operation : Native) (arguments : List Value) : StoreM Value :=
  match operation with
  | .bound method receiver => method.perform room receiver arguments
  | .boundCopy method receiver => method.performOn room receiver arguments
  | .math function => onData room arguments fun data => do
      ofExcept (function.perform (← get) room data)
  | .least => onData room arguments fun data => do ofExcept (leastArgument (← get) room data)
  | .greatest => onData room arguments fun data => do ofExcept (greatestArgument (← get) room data)
  | .random => onData room arguments fun data => do
      ofExcept (refuseArguments "Random.random" data.length)
      drawNumber
  | .date => onData room arguments (makeDate room)
  | .now => onData room arguments fun data => do
      ofExcept (Signature.check ⟨"_now_ms", [], 0, false⟩ data.length)
      return .float (← get).now
  | .isoNow => onData room arguments fun data => do
      ofExcept (Signature.check ⟨"make_date.<locals>.<lambda>", [], 0, false⟩ data.length)
      ofExcept (isoText (← get).now)
  | .isoAt milliseconds => onData room arguments fun data => do
      ofExcept (Signature.check ⟨"make_date_record.<locals>.<lambda>", [], 0, false⟩ data.length)
      ofExcept (isoText milliseconds)
  | .writeJson => jsonText room arguments
  | .readJson => jsonValue room arguments
  | .print => do
      Store.emit ((← ofExcept (spaced (← get) room arguments)) ++ "\n")
      return .absent
  | .log => do
      Store.note .info .script (← ofExcept (spaced (← get) room arguments))
      return .absent
  | .spawn => spawnJob arguments
  | .cancel => cancelJob arguments
  | .isDone job => onData room arguments fun data => do
      ofExcept (refuseArguments "Task.done" data.length)
      askJob JobState.isDone job
  | .isCancelled job => onData room arguments fun data => do
      ofExcept (refuseArguments "Task.cancelled" data.length)
      askJob JobState.isCancelled job
  | .hosted implementation => onData room arguments implementation.perform

end Scriptlet
