import Scriptlet.Proofs.Machine.Keeping

/-!
# Growth of a store

Data that becomes a value adds cells to the store and changes no others.  Whether it becomes a value
does not depend on the store.
-/

namespace Scriptlet

/-- Cells have been added to a store, and the others are as they were. -/
structure Store.Grows (store later : Store) : Prop where
  objects : ∀ (id : ObjectId) object, store.objects[id]? = some object →
    later.objects[id]? = some object
  arrays : ∀ (id : ArrayId) items, store.arrays[id]? = some items → later.arrays[id]? = some items

namespace Store.Grows

theorem refl (store : Store) : store.Grows store :=
  ⟨fun _ _ found => found, fun _ _ found => found⟩

theorem trans {store middle later : Store} (first : store.Grows middle)
    (second : middle.Grows later) : store.Grows later where
  objects id object found := second.objects id object (first.objects id object found)
  arrays id items found := second.arrays id items (first.arrays id items found)

theorem push_object (store : Store) (object : HostObject) :
    store.Grows { store with objects := store.objects.push object } where
  objects id held found := by
    have old : id < store.objects.size := (Array.getElem?_eq_some_iff.mp found).1
    rw [Array.getElem?_push_lt old, ← Array.getElem?_eq_getElem old]
    exact found
  arrays _ _ found := found

theorem push_array (store : Store) (items : Array Value) :
    store.Grows { store with arrays := store.arrays.push items } where
  objects _ _ found := found
  arrays id held found := by
    have old : id < store.arrays.size := (Array.getElem?_eq_some_iff.mp found).1
    rw [Array.getElem?_push_lt old, ← Array.getElem?_eq_getElem old]
    exact found

theorem arrays_size_le {store later : Store} (grows : store.Grows later) :
    store.arrays.size ≤ later.arrays.size := by
  rcases Nat.lt_or_ge later.arrays.size store.arrays.size with shrunk | large
  · have present := grows.arrays later.arrays.size _ (Array.getElem?_eq_getElem shrunk)
    rw [Array.getElem?_eq_none (Nat.le_refl _)] at present
    cases present
  · exact large

end Store.Grows

/-! ## Data that becomes a value -/

/-- New arrays and new objects make no difference. -/
structure Store.AllowsCells (holds : Store → Prop) : Prop where
  array : ∀ store items, holds store → holds { store with arrays := store.arrays.push items }
  object : ∀ store added, holds store → holds { store with objects := store.objects.push added }

mutual

/-- Data that becomes a value keeps what new arrays and new objects keep. -/
theorem wrap_keeps {holds : Store → Prop} (allows : Store.AllowsCells holds) :
    ∀ (data : Data) (store : Store), Keeps holds (fun _ => True) (fun _ => True) data.wrap store
  | .null, _ | .bool _, _ | .float _, _ | .text _, _ | .closure _, _ | .host _, _ => by
      unfold Data.wrap
      exact .pure trivial
  | .foreign, _ => by
      unfold Data.wrap
      exact .throw trivial
  | .int n, _ => by
      unfold Data.wrap
      split
      · exact .pure trivial
      · exact .throw trivial
  | .list items, store => by
      unfold Data.wrap
      refine .bind (wrapAll_keeps allows items store) fun values wrapped _ _ held => ?_
      exact .ok (allows.array wrapped values.toArray held) trivial
  | .table fields, store => by
      unfold Data.wrap
      exact fun held => .ok (allows.object store _ held) trivial

theorem wrapAll_keeps {holds : Store → Prop} (allows : Store.AllowsCells holds) :
    ∀ (items : List Data) (store : Store),
      Keeps holds (fun _ => True) (fun _ => True) (Data.wrapAll items) store
  | [], _ => by
      unfold Data.wrapAll
      exact .pure trivial
  | data :: rest, store => by
      unfold Data.wrapAll
      refine .bind (wrap_keeps allows data store) fun _ wrapped _ _ => ?_
      exact .bind (wrapAll_keeps allows rest wrapped) fun _ _ _ _ => .pure trivial

end

theorem Store.AllowsCells.grows (start : Store) : Store.AllowsCells start.Grows where
  array store items grows := grows.trans (.push_array store items)
  object store added grows := grows.trans (.push_object store added)

theorem wrap_grows (start : Store) (data : Data) (store : Store) :
    Keeps start.Grows (fun _ => True) (fun _ => True) data.wrap store :=
  wrap_keeps (.grows start) data store

theorem wrapAll_grows (start : Store) (items : List Data) (store : Store) :
    Keeps start.Grows (fun _ => True) (fun _ => True) (Data.wrapAll items) store :=
  wrapAll_keeps (.grows start) items store

mutual

/-- Data that has become a value once becomes one in every store. -/
theorem wrap_again : ∀ {data : Data} {store after : Store} {value : Value},
    data.wrap store = .ok value after → ∀ other, ∃ again last, data.wrap other = .ok again last
  | .null, _, _, _, _, other | .bool _, _, _, _, _, other | .float _, _, _, _, _, other
  | .text _, _, _, _, _, other | .closure _, _, _, _, _, other | .host _, _, _, _, _, other => by
      unfold Data.wrap
      exact ⟨_, other, rfl⟩
  | .foreign, _, _, _, run, _ => by
      unfold Data.wrap at run
      cases run
  | .int n, _, _, _, run, other => by
      obtain ⟨x, known, -⟩ := wrap_int_ok run
      unfold Data.wrap
      rw [known]
      exact ⟨.number x, other, rfl⟩
  | .list items, _, _, _, run, other => by
      unfold Data.wrap at run ⊢
      obtain ⟨values, wrapped, run, -⟩ := bind_ok run
      obtain ⟨others, last, again⟩ := wrapAll_again run other
      exact ⟨_, _, bind_of_ok again⟩
  | .table fields, _, _, _, _, other => by
      unfold Data.wrap
      exact ⟨_, _, rfl⟩

theorem wrapAll_again : ∀ {items : List Data} {store after : Store} {values : List Value},
    Data.wrapAll items store = .ok values after →
      ∀ other, ∃ again last, Data.wrapAll items other = .ok again last
  | [], _, _, _, _, other => by
      unfold Data.wrapAll
      exact ⟨[], other, rfl⟩
  | data :: rest, _, _, _, run, other => by
      unfold Data.wrapAll at run ⊢
      obtain ⟨first, middle, here, run⟩ := bind_ok run
      obtain ⟨others, last, later, -⟩ := bind_ok run
      obtain ⟨first', middle', here'⟩ := wrap_again here other
      obtain ⟨others', last', later'⟩ := wrapAll_again later middle'
      exact ⟨_, _, (bind_of_ok here').trans (bind_of_ok later')⟩

end

/-- There is one value for each piece of data. -/
theorem length_wrapAll {items : List Data} {store after : Store} {values : List Value}
    (run : Data.wrapAll items store = .ok values after) : values.length = items.length := by
  induction items generalizing store values with
  | nil =>
      unfold Data.wrapAll at run
      cases run
      rfl
  | cons data rest ih =>
      unfold Data.wrapAll at run
      obtain ⟨first, middle, -, run⟩ := bind_ok run
      obtain ⟨others, last, later, run⟩ := bind_ok run
      cases run
      rw [List.length_cons, List.length_cons, ih later]

end Scriptlet
