/-!
# Ordered tables

A table from names to values that keeps the order in which the names were first put in. Putting a
name again replaces its value in place.
-/

namespace Scriptlet

/-- A table from names to values, in the order of first insertion. -/
abbrev Assoc (α : Type) := List (String × α)

namespace Assoc

variable {α : Type}

/-- The value of a name. -/
def get? : Assoc α → String → Option α
  | [], _ => none
  | (key, value) :: rest, name => if key = name then some value else get? rest name

/-- Whether a name is in the table. -/
def has (table : Assoc α) (name : String) : Bool :=
  (table.get? name).isSome

/-- Gives a name a value: in place if the name is in the table, else at the end. -/
def put : Assoc α → String → α → Assoc α
  | [], name, value => [(name, value)]
  | (key, old) :: rest, name, value =>
      if key = name then (key, value) :: rest else (key, old) :: put rest name value

/-- The names in the table, in order. -/
def names (table : Assoc α) : List String :=
  table.map (·.1)

@[simp]
theorem get?_nil (name : String) : get? ([] : Assoc α) name = none := rfl

theorem get?_cons (key : String) (value : α) (rest : Assoc α) (name : String) :
    get? ((key, value) :: rest) name = if key = name then some value else get? rest name := rfl

@[simp]
theorem get?_put_self (table : Assoc α) (name : String) (value : α) :
    (table.put name value).get? name = some value := by
  induction table with
  | nil => simp [put, get?]
  | cons entry rest ih =>
      by_cases same : entry.1 = name
      · simp [put, get?, same]
      · simp [put, get?, same, ih]

theorem get?_put_of_ne (table : Assoc α) {name other : String} (value : α)
    (different : name ≠ other) : (table.put name value).get? other = table.get? other := by
  induction table with
  | nil => simp [put, get?, different]
  | cons entry rest ih =>
      by_cases same : entry.1 = name
      · subst same
        simp [put, get?, different]
      · simp [put, get?, same, ih]

end Assoc

end Scriptlet
