import Scriptlet.Store
import Scriptlet.Number.Format

/-!
# Texts of values

The display form of a value is what scripts print. Texts inside arrays and records stand in quotes,
and functions of the host that belong to a record are left out. Arrays and records may contain
themselves, so every level takes from the room that is left on the stack; without room the display
fails.
-/

namespace Scriptlet

/-- An integer as a number; integers beyond the range of numbers have none. -/
def Number.ofInt? (n : Int) : Option Float :=
  let x := Number.ofInt n
  if x.isInf then none else some x

/-- The failure for integers beyond the range of numbers. -/
def Fault.tooLarge : Fault :=
  .host .overflow "int too large to convert to float"

/-- The failure for what no script can handle. -/
def Fault.notExposable : Fault :=
  .host .wrongType "cannot expose object to scripts"

/-- The text of a boolean. -/
def boolText (value : Bool) : String :=
  if value then "true" else "false"

/-- A text as it is shown, in quotes when it stands inside something else. -/
def shownText (nested : Bool) (value : String) : String :=
  if nested then "\"" ++ value ++ "\"" else value

/-- The texts of items between brackets. -/
def bracketedItems (items : List String) : String :=
  "[" ++ ", ".intercalate items ++ "]"

/-- The texts of fields between braces. -/
def bracedFields (fields : List String) : String :=
  "\x7b" ++ ", ".intercalate fields ++ "\x7d"

/-- The text of a function. -/
def Closure.label (closure : Closure) : String :=
  "<fn " ++ closure.name.getD "anonymous" ++ "(" ++ ", ".intercalate closure.params ++ ")>"

namespace Store

/-- The text of a function of a script. -/
def closureLabel (store : Store) (id : ClosureId) : String :=
  match store.closures[id]? with
  | some closure => closure.label
  | none => ""

/-- Whether data is a function of the host. -/
def isHostFunction (store : Store) : Data → Bool
  | .host id => (store.objects[id]?.map HostObject.isFunction).getD false
  | _ => false

/-- How many jobs can be joined. -/
def jobCount (store : Store) : Nat :=
  store.schedule.jobs.size - store.schedule.forgotten

/-- The fields of a record that its text shows. -/
def shownFields (store : Store) (fields : Assoc Field) : Assoc Field :=
  fields.filter fun (_, field) => match field with
    | .raw data => !store.isHostFunction data
    | .value _ => true

mutual

/-- The text of a value. -/
def display (store : Store) : (room : Nat) → (nested : Bool) → Value → Except Fault String
  | _, _, .number x => .ok (Number.display x)
  | _, nested, .text value => .ok (shownText nested value)
  | _, _, .bool value => .ok (boolText value)
  | _, _, .absent => .ok "undefined"
  | _, _, .closure id => .ok (store.closureLabel id)
  | room + 3, _, .array id => do
      return bracketedItems (← (store.items id).toList.mapM (display store (room + 1) true))
  | room + 3, _, .host id => displayObject store (room + 2) id
  | _, _, _ => .error .exhausted

/-- The text of a host object. -/
def displayObject (store : Store) : (room : Nat) → ObjectId → Except Fault String
  | room + 2, id =>
      match store.objects[id]? with
      | some (.function name _) => .ok s!"<builtin {name}>"
      | some (.factory name _ _) => .ok s!"<class {name}>"
      | some (.group name _) => .ok s!"<namespace {name}>"
      | some (.scheduler _) => .ok s!"<namespace Task ({store.jobCount} tasks)>"
      | some (.loaded path _) => .ok s!"<module {path}>"
      | some (.record _ fields) => do
          return bracedFields (← (store.shownFields fields).mapM fun (name, field) => do
            match field with
            | .value value => return name ++ ": " ++ (← display store room true value)
            | .raw data => return name ++ ": " ++ (← displayData store room true data))
      | none => .ok ""
  | _, _ => .error .exhausted

/-- The text of the value that data of the host becomes. -/
def displayData (store : Store) : (room : Nat) → (nested : Bool) → Data → Except Fault String
  | _, _, .null => .ok "undefined"
  | _, _, .bool value => .ok (boolText value)
  | _, _, .int n =>
      match Number.ofInt? n with
      | some x => .ok (Number.display x)
      | none => .error .tooLarge
  | _, _, .float x => .ok (Number.display x)
  | _, nested, .text value => .ok (shownText nested value)
  | _, _, .closure id => .ok (store.closureLabel id)
  | _, _, .foreign => .error .notExposable
  | room + 3, _, .list items => do
      return bracketedItems (← items.mapM (displayData store (room + 1) true))
  | room + 3, _, .table fields => do
      return bracedFields
        (← (fields.filter fun (_, data) => !store.isHostFunction data).mapM fun (name, data) => do
          return name ++ ": " ++ (← displayData store room true data))
  | room + 3, _, .host id => displayObject store (room + 2) id
  | _, _, _ => .error .exhausted

end

/-- What a value is called in messages. -/
def describe (store : Store) (room : Nat) : Value → Except Fault String
  | .host id => do return "host object " ++ (← store.displayObject room id)
  | .closure _ => .ok Kind.function.label
  | .array _ => .ok Kind.array.label
  | value => do return value.kind.label ++ " " ++ (← store.display room true value)

end Store

end Scriptlet
