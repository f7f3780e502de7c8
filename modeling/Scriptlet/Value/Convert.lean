import Scriptlet.Value.Display

/-!
# Values and plain data

Host operations that work on plain data get copies of the arrays of a script, and what they return
becomes a value: lists become new arrays and tables become new records.
-/

namespace Scriptlet

/-- The data of a value. Arrays are copied at every level. -/
def Store.unwrap (store : Store) : (room : Nat) → Value → Except Fault Data
  | _, .number x => .ok (.float x)
  | _, .text value => .ok (.text value)
  | _, .bool value => .ok (.bool value)
  | _, .absent => .ok .null
  | _, .closure id => .ok (.closure id)
  | _, .host id => .ok (.host id)
  | room + 2, .array id => do
      return .list (← (store.items id).toList.mapM (store.unwrap room))
  | _, .array _ => .error .exhausted

namespace Data

/-- A new record with the given data. -/
def newRecord (typeName : String) (fields : Assoc Data) : StoreM ObjectId :=
  Store.addObject (.record typeName (fields.map fun (name, data) => (name, .raw data)))

mutual

/-- The value of data. -/
def wrap : Data → StoreM Value
  | .null => return .absent
  | .bool value => return .bool value
  | .int n =>
      match Number.ofInt? n with
      | some x => return .number x
      | none => throw .tooLarge
  | .float x => return .number x
  | .text value => return .text value
  | .list items => do Store.addArray (← wrapAll items).toArray
  | .table fields => do return .host (← newRecord "Record" fields)
  | .closure id => return .closure id
  | .host id => return .host id
  | .foreign => throw .notExposable

/-- The values of several data. -/
def wrapAll : List Data → StoreM (List Value)
  | [] => return []
  | data :: rest => do
      let value ← data.wrap
      return value :: (← wrapAll rest)

end

end Data

/-- What a function of the host gives back, as data of the store. -/
def Answer.give : Answer → StoreM Data
  | .data held => return held
  | .record typeName fields => return .host (← Data.newRecord typeName fields)

/-- Performs a function of the host on data. -/
def Implementation.perform (implementation : Implementation) (items : List Data) : StoreM Data :=
  match implementation.run items with
  | .ok answer => answer.give
  | .error refusal => throw refusal.fault

/-- Performs an operation on the data of the arguments; its result becomes a value. -/
def onData (room : Nat) (arguments : List Value) (operation : List Data → StoreM Data) :
    StoreM Value := do
  let store ← get
  let data ← ofExcept (arguments.mapM (store.unwrap room))
  (← operation data).wrap

/-- The value of a field: a value that was put there stays the same, data becomes a value anew. -/
def Field.read : Field → StoreM Value
  | .value held => return held
  | .raw data => data.wrap

end Scriptlet
