import Scriptlet.Json
import Scriptlet.Value.Display

/-!
# JSON forms of values

Numbers without a fraction become integers, and those that are not finite become null, as does
everything that JSON cannot express. Functions are left out of records. In the other direction
objects become records whose fields hold the data as it was read.
-/

namespace Scriptlet

/-- The JSON form of a number. -/
def Number.toJson (x : Float) : Json :=
  match Number.shape x with
  | .finite parts => if parts.isIntegral then .int parts.floor else .float x
  | _ => .null

namespace Store

/-- Whether a field is left out of the JSON form of its record. -/
def isJsonOmitted (store : Store) : Field → Bool
  | .value (.closure _) => true
  | .value _ => false
  | .raw (.closure _) => true
  | .raw data => store.isHostFunction data

mutual

/-- The JSON form of a value. -/
def toJson (store : Store) : (room : Nat) → Value → Except Fault Json
  | _, .number x => .ok (Number.toJson x)
  | _, .text value => .ok (.text value)
  | _, .bool value => .ok (.bool value)
  | _, .absent => .ok .null
  | _, .closure _ => .ok .null
  | room + 2, .array id => do
      return .list (← (store.items id).toList.mapM (toJson store room))
  | room + 1, .host id => objectToJson store room id
  | _, .array _ => .error .exhausted
  | _, .host _ => .error .exhausted

/-- The JSON form of a host object; only records have one. -/
def objectToJson (store : Store) : (room : Nat) → ObjectId → Except Fault Json
  | room + 1, id =>
      match store.objects[id]? with
      | some (.record _ fields) => do
          return .object
            (← (fields.filter fun (_, field) => !store.isJsonOmitted field).mapM
              fun (name, field) => do
                match field with
                | .value value => return (name, ← toJson store (room + 1) value)
                | .raw data => return (name, ← dataToJson store (room + 1) data))
      | _ => .ok .null
  | 0, _ => .error .exhausted

/-- The JSON form of the value that data of the host becomes. -/
def dataToJson (store : Store) : (room : Nat) → Data → Except Fault Json
  | _, .null => .ok .null
  | _, .bool value => .ok (.bool value)
  | _, .int n =>
      match Number.ofInt? n with
      | some x => .ok (Number.toJson x)
      | none => .error .tooLarge
  | _, .float x => .ok (Number.toJson x)
  | _, .text value => .ok (.text value)
  | _, .closure _ => .ok .null
  | _, .foreign => .error .notExposable
  | room + 2, .list items => do
      return .list (← items.mapM (dataToJson store room))
  | room + 2, .table fields => do
      return .object
        (← (fields.filter fun (_, data) => !store.isJsonOmitted (.raw data)).mapM
          fun (name, data) => do return (name, ← dataToJson store room data))
  | room + 1, .host id => objectToJson store room id
  | _, _ => .error .exhausted

end

end Store

namespace Json

mutual

/-- The data of a JSON value. Its objects become new records. -/
def toData : Json → StoreM Data
  | .null => return .null
  | .bool value => return .bool value
  | .int n => return .int n
  | .float x => return .float x
  | .text value => return .text value
  | .list items => do return .list (← itemsToData items)
  | .object fields => do
      let fields ← fieldsToData fields
      return .host (← Store.addObject (.record "Record" fields))

/-- The data of the items of a list. -/
def itemsToData : List Json → StoreM (List Data)
  | [] => return []
  | item :: rest => do
      let data ← item.toData
      return data :: (← itemsToData rest)

/-- The fields of a record for the fields of an object. -/
def fieldsToData : List (String × Json) → StoreM (List (String × Field))
  | [] => return []
  | (name, item) :: rest => do
      let data ← item.toData
      return (name, .raw data) :: (← fieldsToData rest)

end

end Json

end Scriptlet
