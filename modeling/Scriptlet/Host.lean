import Scriptlet.Value
import Scriptlet.Assoc
import Scriptlet.Fault

/-!
# Functions of a host

A host can offer functions on plain data. It is not known what such a function computes: it answers
with data or with a new record, or it refuses its arguments. The functions of scripts and the host
objects among its arguments are names to it, which it can compare and hand on.
-/

namespace Scriptlet

namespace Assoc

variable {α β : Type}

/-- A table with its values changed. -/
def mapValues (change : α → β) (table : Assoc α) : Assoc β :=
  table.map fun entry => (entry.1, change entry.2)

end Assoc

namespace Data

section Renaming

variable (closures : ClosureId → ClosureId) (objects : ObjectId → ObjectId)

mutual

/-- The data with other names for the functions of scripts and for the host objects. -/
def rename : Data → Data
  | .null => .null
  | .bool value => .bool value
  | .int n => .int n
  | .float x => .float x
  | .text value => .text value
  | .list items => .list (renameAll items)
  | .table fields => .table (renameTable fields)
  | .closure id => .closure (closures id)
  | .host id => .host (objects id)
  | .foreign => .foreign

/-- Several data with other names. -/
def renameAll : List Data → List Data
  | [] => []
  | item :: rest => rename item :: renameAll rest

/-- A table of data with other names. -/
def renameTable : List (String × Data) → List (String × Data)
  | [] => []
  | (name, item) :: rest => (name, rename item) :: renameTable rest

end

theorem renameAll_eq_map (items : List Data) :
    renameAll closures objects items = items.map (rename closures objects) := by
  induction items with
  | nil => rfl
  | cons item rest ih => rw [renameAll, List.map_cons, ih]

theorem renameTable_eq_mapValues (fields : Assoc Data) :
    renameTable closures objects fields = fields.mapValues (rename closures objects) := by
  induction fields with
  | nil => rfl
  | cons entry rest ih =>
      rw [renameTable, ih]
      rfl

@[simp]
theorem rename_list (items : List Data) :
    rename closures objects (.list items) = .list (items.map (rename closures objects)) := by
  rw [rename, renameAll_eq_map]

@[simp]
theorem rename_table (fields : Assoc Data) :
    rename closures objects (.table fields) =
      .table (fields.mapValues (rename closures objects)) := by
  rw [rename, renameTable_eq_mapValues]

theorem headD_rename (items : List Data) :
    (items.map (rename closures objects)).headD .null =
      rename closures objects (items.headD .null) := by
  cases items <;> rfl

end Renaming

end Data

/-- What a function of the host gives back. -/
inductive Answer where
  | data (held : Data)
  /-- A new record. -/
  | record (typeName : String) (fields : Assoc Data)

/-- The answer with other names for the functions of scripts and for the host objects. -/
def Answer.rename (closures : ClosureId → ClosureId) (objects : ObjectId → ObjectId) :
    Answer → Answer
  | .data held => .data (held.rename closures objects)
  | .record typeName fields => .record typeName (fields.mapValues (Data.rename closures objects))

/-- Why a function of the host gives nothing back. -/
inductive Refusal where
  /-- The host fails on its own account. -/
  | failed (failure : HostFailure) (message : String)
  /-- The host raises an error of the script. -/
  | reported (message : String)

/-- A refusal as what ends a run. -/
def Refusal.fault : Refusal → Fault
  | .failed failure message => .host failure message
  | .reported message => .ofMisuse (.reported message)

/-- What a function of the host does with data, whatever the host is. Under other names for
functions and objects, different ones for different ones, it does the same. -/
structure Implementation where
  run : List Data → Except Refusal Answer
  natural : ∀ {closures : ClosureId → ClosureId} {objects : ObjectId → ObjectId},
    (∀ i j, closures i = closures j → i = j) → (∀ i j, objects i = objects j → i = j) →
      ∀ items, run (items.map (Data.rename closures objects)) =
        (run items).map (Answer.rename closures objects)

/-- A method that a host registers for arrays or for texts. Its first argument is the receiver. -/
structure HostMethod where
  name : String
  owner : Kind
  implementation : Implementation
  owned : owner = .array ∨ owner = .text := by decide

end Scriptlet
