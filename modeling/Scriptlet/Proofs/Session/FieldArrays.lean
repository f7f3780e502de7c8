import Scriptlet.Proofs.Session.Standard
import Scriptlet.Proofs.Store.Growth

/-!
# Arrays in fields

A field of a record holds a value that a script has put there, or data of the host.  An array that
was put there is the same in every reading.  A list in data becomes a new array in every reading, so
what is done to that array is lost.  In a run on the builtins only records that were read from JSON
texts have such fields; the fields of dates and of the handles of jobs hold none.
-/

namespace Scriptlet

/-! ## Readings of a field -/

/-- An array that a field holds: every reading gives it, with what was pushed to it. -/
structure HeldArray (store : Store) (id : ObjectId) (name : String) (array : ArrayId) :
    Prop where
  again : Store.member? (.host id) name store = .ok (some (.value (.array array))) store
  pushed : ∀ room value, ∃ count after,
    Method.push.perform room (.array array) [value] store = .ok count after ∧
      Store.member? (.host id) name after = .ok (some (.value (.array array))) after ∧
      (array < store.arrays.size → after.items array = (store.items array).push value)

/-- An array that a reading of a field has made: after something was pushed to it, the next reading
makes another array, without what was pushed. -/
structure MadeArray (before after : Store) (id : ObjectId) (name : String) (array : ArrayId) :
    Prop where
  new : before.arrays.size ≤ array
  lost : ∀ room value, ∃ count pushed other last,
    Method.push.perform room (.array array) [value] after = .ok count pushed ∧
      pushed.items array = (after.items array).push value ∧
      Store.member? (.host id) name pushed = .ok (some (.value (.array other))) last ∧
      other ≠ array ∧ (last.items other).size = (after.items array).size

/-- An array that is read off a field of a record is one that the field holds, or it has been made
of a list in the data of a record that is neither a date nor the handle of a job. -/
def Store.FieldArrays (store : Store) : Prop :=
  ∀ (id : ObjectId) (typeName : String) (fields : Assoc Field) (name : String) (array : ArrayId)
    (after : Store), store.objects[id]? = some (.record typeName fields) →
    Store.member? (.host id) name store = .ok (some (.value (.array array))) after →
      fields.get? name = some (.value (.array array)) ∧ after = store ∧
          HeldArray store id name array ∨
        typeName = "Record" ∧ (∃ items, fields.get? name = some (.raw (.list items))) ∧
          MadeArray store after id name array

/-- The store after something was pushed to an array. -/
def Store.withPushed (store : Store) (array : ArrayId) (value : Value) : Store :=
  { store with arrays := store.arrays.modify array (· ++ #[value]) }

theorem push_run (room : Nat) (array : ArrayId) (value : Value) (store : Store) :
    ∃ count, Method.push.perform room (.array array) [value] store =
      .ok count (store.withPushed array value) :=
  ⟨_, rfl⟩

theorem items_withPushed {store : Store} {array : ArrayId} (value : Value)
    (present : array < store.arrays.size) :
    (store.withPushed array value).items array = (store.items array).push value := by
  simp only [Store.items, Store.withPushed, Array.getD_eq_getD_getElem?, Array.getElem?_modify,
    Array.getElem?_eq_getElem present]
  simp

theorem items_pushed (store : Store) (items : Array Value) :
    ({ store with arrays := store.arrays.push items } : Store).items store.arrays.size = items := by
  simp [Store.items, Array.getD_eq_getD_getElem?]

section Readings

variable {store : Store} {id : ObjectId} {typeName : String} {fields : Assoc Field} {name : String}
  {array : ArrayId} (found : store.objects[id]? = some (.record typeName fields))

include found

/-- A member of a record is a reading of the field with its name. -/
theorem member?_record :
    Store.member? (.host id) name store = (match fields.get? name with
      | some field => (do return some (.value (← field.read)) : StoreM (Option Member))
      | none => return none) store := by
  rw [member?_host, found]
  rfl

theorem member?_value (held : fields.get? name = some (.value (.array array))) :
    Store.member? (.host id) name store = .ok (some (.value (.array array))) store := by
  rw [member?_record found, held]
  rfl

/-- A list in the data of a field becomes a new array. -/
theorem member?_list {items : List Data} (held : fields.get? name = some (.raw (.list items)))
    {values : List Value} {wrapped : Store} (run : Data.wrapAll items store = .ok values wrapped) :
    Store.member? (.host id) name store = .ok (some (.value (.array wrapped.arrays.size)))
      { wrapped with arrays := wrapped.arrays.push values.toArray } := by
  rw [member?_record found, held]
  have read : (Field.raw (.list items)).read store = .ok (.array wrapped.arrays.size)
      { wrapped with arrays := wrapped.arrays.push values.toArray } := by
    rw [Field.read, Data.wrap]
    exact bind_of_ok run
  exact bind_of_ok read

theorem heldArray_of_value (held : fields.get? name = some (.value (.array array))) :
    HeldArray store id name array where
  again := member?_value found held
  pushed room value := by
    obtain ⟨count, run⟩ := push_run room array value store
    have unchanged : (store.withPushed array value).objects[id]? = some (.record typeName fields) :=
      found
    exact ⟨count, _, run, member?_value unchanged held, items_withPushed value⟩

/-- A reading of a list in the data of a field, taken apart. -/
theorem wrapAll_of_member? {items : List Data}
    (held : fields.get? name = some (.raw (.list items))) {after : Store}
    (read : Store.member? (.host id) name store = .ok (some (.value (.array array))) after) :
    ∃ values wrapped, Data.wrapAll items store = .ok values wrapped ∧
      array = wrapped.arrays.size ∧
      after = { wrapped with arrays := wrapped.arrays.push values.toArray } := by
  rw [member?_record found, held] at read
  obtain ⟨value, middle, read, returned⟩ := bind_ok read
  cases returned
  rw [Field.read, Data.wrap] at read
  obtain ⟨values, wrapped, run, added⟩ := bind_ok read
  cases added
  exact ⟨values, wrapped, run, rfl, rfl⟩

theorem madeArray_of_list {items : List Data}
    (held : fields.get? name = some (.raw (.list items))) {after : Store}
    (read : Store.member? (.host id) name store = .ok (some (.value (.array array))) after) :
    MadeArray store after id name array := by
  obtain ⟨values, wrapped, run, rfl, rfl⟩ := wrapAll_of_member? found held read
  have grows := ((wrapAll_grows store items store).of_ok (.refl store) run).1
  refine ⟨grows.arrays_size_le, fun room value => ?_⟩
  generalize read : ({ wrapped with arrays := wrapped.arrays.push values.toArray } : Store) = after
  have size : after.arrays.size = wrapped.arrays.size + 1 := by
    rw [← read, Array.size_push]
  have made : after.items wrapped.arrays.size = values.toArray := by
    rw [← read, items_pushed]
  obtain ⟨count, pushing⟩ := push_run room wrapped.arrays.size value after
  -- The record is as it was, so its list becomes an array once more.
  obtain ⟨others, again, rerun⟩ := wrapAll_again run (after.withPushed wrapped.arrays.size value)
  have unchanged : (after.withPushed wrapped.arrays.size value).objects[id]? =
      some (.record typeName fields) := by
    rw [Store.withPushed, ← read]
    exact grows.objects id _ found
  have regrows := ((wrapAll_grows _ items _).of_ok (.refl _) rerun).1.arrays_size_le
  rw [Store.withPushed, Array.size_modify, size] at regrows
  have present : wrapped.arrays.size < after.arrays.size := by omega
  have different : again.arrays.size ≠ wrapped.arrays.size := by omega
  refine ⟨count, _, again.arrays.size, _, pushing, items_withPushed value present,
    member?_list unchanged held rerun, different, ?_⟩
  rw [items_pushed, made, List.size_toArray, List.size_toArray, length_wrapAll rerun,
    length_wrapAll run]

end Readings

/-! ## Runs -/

/-- No atom becomes an array. -/
theorem wrap_atom {data : Data} (isAtom : data.isAtom = true) {store after : Store} {value : Value}
    (run : data.wrap store = .ok value after) (array : ArrayId) : value ≠ .array array := by
  rintro rfl
  cases data with
  | int n =>
      obtain ⟨x, -, same, -⟩ := wrap_int_ok run
      cases same
  | list | table | foreign => cases isAtom
  | _ => cases run

theorem fieldArrays_of_obeys {outcomes : Outcomes} {body : List Stmt → Prop}
    {holds : Schedule → List Entry → Prop} {store : Store}
    (obeys : store.Obeys (.standard outcomes body) holds) : store.FieldArrays := by
  intro id typeName fields name array after found read
  cases held : fields.get? name with
  | none =>
      rw [member?_record found, held] at read
      cases read
  | some field =>
      cases field with
      | value value =>
          rw [member?_record found, held] at read
          cases read
          exact .inl ⟨rfl, rfl, heldArray_of_value found held⟩
      | raw data =>
          obtain ⟨plain, allowed⟩ :=
            obeys.objects _ (Array.mem_of_getElem? found) name data (get?_mem held)
          cases plain with
          | list plain =>
              obtain rfl : typeName = "Record" := by
                simpa [Data.isAtom] using allowed
              exact .inr ⟨rfl, ⟨_, rfl⟩, madeArray_of_list found held read⟩
          | atom isAtom =>
              rw [member?_record found, held] at read
              obtain ⟨value, middle, read, returned⟩ := bind_ok read
              cases returned
              exact absurd rfl (wrap_atom isAtom read array)

/-- However a run on any choice of builtins ends, an array that is then read off a field is one that
the field holds, or it has been made of a list that was read from a JSON text and is made anew in
every reading. -/
theorem runFresh_fieldArrays (settings : Settings) (entropy : Int) (source : String)
    (file : Option String) (disk : Disk) (depthLimit : Nat) (clock : Float) :
    (endState (runFresh settings entropy source file
      (.unused disk depthLimit clock))).store.FieldArrays := by
  have code : (Discipline.standard .any fun _ => True).Code :=
    .any (fun _ => trivial) fun _ => trivial
  have keeps : Keeps _ _ _ (runFresh settings entropy source file)
      (.unused disk depthLimit clock) :=
    runFresh_keeps code settings entropy _ fun _ _ => trivial
  exact fieldArrays_of_obeys (keeps.endState (unused_obeys _ disk depthLimit clock))

/-- What is pushed to an array read off a parsed record is lost with it. -/
theorem runFresh_fieldArrays_forgotten :
    (endState (runFresh { builtins := [.json, .print] } 0
      "let r = JSON.parse('\x7b\"a\": [\"x\"]\x7d'); r.a.push(\"y\"); print(r.a.join(\"\"))" none
      (.unused ((FileTree.directory []).disk "/") 0 0.0))).store.output = "x\n" := by
  decide +kernel

end Scriptlet
