import Scriptlet.Builtin

/-!
# Sample bindings

A small set of host bindings of every kind that a host can offer: functions on plain data, a
function that calls back, failures of every kind, a class with members, a group of data, and a
record that only looks like the handle of a job. Arrays get a method that works on a copy.
-/

namespace Scriptlet
namespace Sample

/-- A function that is given a fixed number of arguments. -/
def checked (signature : Signature) (body : List Data → Except Refusal Answer)
    (natural : ∀ {closures : ClosureId → ClosureId} {objects : ObjectId → ObjectId} (items),
      body (items.map (Data.rename closures objects)) =
        (body items).map (Answer.rename closures objects)) : Implementation where
  run items :=
    match signature.complaint? items.length with
    | some message => .error (.failed .wrongType message)
    | none => body items
  natural _ _ items := by
    rw [List.length_map]
    split
    · rfl
    · exact natural items

/-- Gives its argument back. -/
def identity : Implementation :=
  checked ⟨"ident", ["x"], 0, false⟩ (fun items => .ok (.data (items.headD .null))) fun items => by
    rw [Data.headD_rename]
    rfl

/-- Makes a list of two items. -/
def pair : Implementation :=
  checked ⟨"pair", ["a"], 1, false⟩
    (fun items => .ok (.data (.list [items.headD .null, (items.drop 1).headD .null])))
    fun items => by
      rw [← List.map_drop, Data.headD_rename, Data.headD_rename]
      exact congrArg (Except.ok ∘ Answer.data) (Data.rename_list _ _ [_, _]).symm

/-- Fails in the way that a word names. -/
def failAs : Data → Except Refusal Answer
  | .text "type" => .error (.failed .wrongType "boom")
  | .text "value" => .error (.failed .wrongValue "boom")
  | .text "zero" => .error (.failed .zeroDivision "boom")
  | .text "key" => .error (.failed .missingKey "'boom'")
  | .text "script" => .error (.reported "boom")
  | _ => .ok (.data .null)

/-- Fails in the way that its argument names. -/
def fail : Implementation :=
  checked ⟨"fail", ["kind"], 0, false⟩ (fun items => failAs (items.headD .null)) fun items => by
    rw [Data.headD_rename]
    cases items.headD .null with
    | text word =>
        change failAs (.text word) = (failAs (.text word)).map _
        unfold failAs
        split <;> rfl
    | list | table =>
        simp only [Data.rename_list, Data.rename_table]
        rfl
    | _ => rfl

/-- Gives something that no script can handle. -/
def foreign : Implementation :=
  checked ⟨"opaque", [], 0, false⟩ (fun _ => .ok (.data .foreign)) fun _ => rfl

/-- Makes a record of its arguments. -/
def gather : Implementation where
  run items := .ok (.record "Thing" [("args", .list items)])
  natural _ _ items := by
    rw [← Data.rename_list]
    rfl

/-- The first item of an array. -/
def first : HostMethod where
  name := "first"
  owner := .array
  implementation :=
    checked ⟨"first", ["items"], 0, false⟩
      (fun
        | .list (item :: _) :: _ => .ok (.data item)
        | _ => .ok (.data .null))
      fun items => by
        cases items with
        | nil => rfl
        | cons receiver rest =>
            rw [List.map_cons]
            cases receiver with
            | list items =>
                rw [Data.rename_list]
                cases items <;> rfl
            | table => rw [Data.rename_table]; rfl
            | _ => rfl

/-- The functions among the sample bindings. -/
def functions : List (String × Action) :=
  [("ident", .native (.hosted identity)), ("apply", .control .apply),
    ("pair", .native (.hosted pair)), ("fail", .native (.hosted fail)),
    ("opaque", .native (.hosted foreign))]

/-- The data of the sample group. -/
def groupMembers : Assoc Data :=
  [("answer", .int 42), ("label", .text "tools"),
    ("list", .list [.int 1, .list [.int 2, .text "x"]]),
    ("rec", .table [("a", .int 1), ("b", .null)]), ("none", .null)]

/-- Makes the sample objects: their names and their data, in order. -/
def make : StoreM (Assoc Data) := do
  let functions ← Builtin.addFunctions functions
  let maker ← Store.addNative "make" (.hosted gather)
  let thing ← Store.addObject
    (.factory "Thing" (.native (.hosted gather)) [("version", .int 2), ("make", .host maker)])
  let tools ← Store.addObject (.group "Tools" groupMembers)
  let forged ← Data.newRecord "Task" [("id", .int 99)]
  modify fun store => { store with methods := .hosted first :: store.methods }
  return functions ++ [("Thing", .host thing), ("Tools", .host tools), ("forged", .host forged)]

/-- Binds the sample objects in a scope. -/
def install (scope : ScopeId) : MachineM Unit := do
  (← Machine.onStore make).forM fun (name, data) => do
    Machine.define scope name (← Machine.onStore data.wrap)

end Sample
end Scriptlet
