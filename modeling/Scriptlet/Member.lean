import Scriptlet.Value.Convert

/-!
# Members

Host objects have members of their own. Arrays and texts have a length and methods. A method that is
called on its receiver at once needs no cell; a method that is read as a value becomes a new host
function that keeps its receiver.
-/

namespace Scriptlet

/-- What a name denotes on a value. -/
inductive Member where
  | value (value : Value)
  | method (method : MethodEntry)

namespace Store

/-- The method that a name denotes on values of a kind; the length comes before all methods. -/
def method? (store : Store) (kind : Kind) (name : String) : Option MethodEntry :=
  if name = "length" then none
  else store.methods.find? fun method => method.owner = kind && method.name == name

/-- How many items or characters a value has. -/
def length? (store : Store) : Value → Option Nat
  | .array id => some (store.items id).size
  | .text value => some value.length
  | _ => none

/-- The member of a value, if it has one with the given name. -/
def member? (receiver : Value) (name : String) : StoreM (Option Member) := do
  let store ← get
  match receiver with
  | .host id =>
      match (store.objects[id]?.bind HostObject.members?).bind (Assoc.get? · name) with
      | some field => return some (.value (← field.read))
      | none => return none
  | _ =>
      match store.length? receiver with
      | none => return none
      | some length =>
          if name = "length" then return some (.value (.number (Number.ofNat length)))
          else return (store.method? receiver.kind name).map .method

/-- A method with its receiver as a value of its own. A method of the host keeps a copy of the
receiver. -/
def bindMethod (room : Nat) (method : MethodEntry) (receiver : Value) : StoreM Value := do
  match method with
  | .standard method => return .host (← addNative method.name (.bound method receiver))
  | .hosted method =>
      let data ← ofExcept ((← get).unwrap room receiver)
      return .host (← addNative method.name (.boundCopy method data))

/-- A member as a value. -/
def memberValue (room : Nat) (receiver : Value) : Member → StoreM Value
  | .value value => return value
  | .method method => bindMethod room method receiver

/-- Reads a member of a value in an expression; an undefined value has none. -/
def readMember (room : Nat) (receiver : Value) (name : String) : StoreM Member := do
  match receiver with
  | .absent => throw (.ofCause (.undefinedName name .memberOfAbsent))
  | _ =>
      match ← member? receiver name with
      | some member => return member
      | none =>
          let owner ← ofExcept ((← get).describe room receiver)
          throw (.ofCause (.undefinedName name (.noMember owner name)))

/-- The item of an array or the character of a text at an index. -/
def readIndex (room : Nat) (receiver index : Value) : StoreM Value := do
  let store ← get
  let refuse (failure : LookupFailure) : StoreM Value := do
    let shown ← ofExcept (store.display room false index)
    throw (.ofCause (.undefinedName ("[" ++ shown ++ "]") failure))
  match store.length? receiver with
  | none => refuse (.notIndexable receiver.kind)
  | some length =>
      match index with
      | .number x =>
          match Number.toIndex? x length, receiver with
          | some i, .array id => return (store.items id).getD i .absent
          | some i, .text value => return .text (String.ofList ((value.toList.drop i).take 1))
          | _, _ => refuse .outOfRange
      | _ => refuse .outOfRange

/-- Sets a field of a record. -/
def writeMember (room : Nat) (receiver : Value) (name : String) (value : Value) : StoreM Unit := do
  let store ← get
  match receiver with
  | .host id =>
      match store.objects[id]? with
      | some (.record ..) => setField id name value
      | _ => refuse store
  | _ => refuse store
where
  refuse (store : Store) : StoreM Unit := do
    let target ← ofExcept (store.describe room receiver)
    throw (.ofMisuse (.memberAssignment name target))

end Store

end Scriptlet
