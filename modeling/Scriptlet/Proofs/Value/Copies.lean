import Scriptlet.Proofs.Value.Equality
import Scriptlet.Value.Convert

/-!
# Copies of values

A value that does not contain itself has data, within enough room, and the data becomes a value
again.  This copy matches the value item by item, with the same numbers, texts, functions and host
objects in it, but all of its arrays are new cells, so that no array is part of both.
-/

namespace Scriptlet
namespace Store

variable {store later : Store} {value : Value} {less more : Nat}

/-! ## The data of a value -/

theorem unwrap_fails_exhausted (room : Nat) (value : Value) :
    Fails (· = .exhausted) (store.unwrap room value) := by
  induction room using Nat.strongRecOn generalizing value with
  | ind room ih =>
      unfold unwrap
      split
      case h_7 room id => exact .bind (.mapM fun item _ => ih room (by omega) item) fun _ _ => .ok _
      case h_8 => exact .error rfl
      all_goals exact .ok _

/-- A copy that can be made is the same within more room. -/
theorem unwrap_mono {data : Data} (unwrapped : store.unwrap less value = .ok data)
    (le : less ≤ more) : store.unwrap more value = .ok data := by
  induction less using Nat.strongRecOn generalizing more value data with
  | ind less ih =>
      unfold unwrap at unwrapped ⊢
      split at unwrapped
      case h_7 room id =>
        obtain ⟨more, rfl⟩ : ∃ other, more = other + 2 := ⟨more - 2, by omega⟩
        obtain ⟨items, copied, same⟩ := of_bind_ok unwrapped
        have each (item : Value) (data : Data) (unwrapped : store.unwrap room item = .ok data) :
            store.unwrap more item = .ok data := ih room (by omega) unwrapped (by omega)
        dsimp only
        rw [mapM_ok_mono each copied]
        exact same
      case h_8 => cases unwrapped
      all_goals exact unwrapped

/-! ## Values with cells of their own -/

/-- A value that does not contain itself and whose arrays are cells from `size` on. -/
structure Fresh (store : Store) (size : Nat) (value : Value) : Prop where
  acyclic : store.Acyclic value
  cells : ∀ path id, store.itemAt? path value = some (.array id) → size ≤ id

/-- The arrays inside a value are cells of the store. -/
theorem Acyclic.cell_lt (acyclic : store.Acyclic value) {path : List Nat} {id : ArrayId}
    (reached : store.itemAt? path value = some (.array id)) : id < store.arrays.size := by
  induction acyclic generalizing path with
  | leaf single =>
      obtain rfl := eq_of_itemAt?_leaf single reached
      exact absurd rfl single
  | array found each ih =>
      rcases itemAt?_array_cases found reached with same | ⟨inner, member, rest, reached⟩
      · obtain rfl := Value.array.inj same
        exact (Array.getElem?_eq_some_iff.mp found).1
      · exact ih inner member reached

namespace Fresh

variable {size smaller : Nat}

theorem leaf (single : value.kind ≠ .array) : store.Fresh size value where
  acyclic := .leaf single
  cells path id reached := by
    obtain rfl := eq_of_itemAt?_leaf single reached
    exact absurd rfl single

theorem array {id : ArrayId} {items : Array Value} (found : store.arrays[id]? = some items)
    (new : size ≤ id) (each : ∀ item ∈ items.toList, store.Fresh size item) :
    store.Fresh size (.array id) where
  acyclic := .array found fun item member => (each item member).acyclic
  cells path other reached := by
    rcases itemAt?_array_cases found reached with same | ⟨inner, member, rest, reached⟩
    · obtain rfl := Value.array.inj same
      exact new
    · exact (each inner member).cells rest other reached

theorem grows (fresh : store.Fresh size value) (grows : store.Grows later) :
    later.Fresh size value where
  acyclic := fresh.acyclic.grows grows
  cells path id reached := fresh.cells path id (by rwa [← fresh.acyclic.itemAt?_grows grows])

theorem mono (fresh : store.Fresh size value) (le : smaller ≤ size) :
    store.Fresh smaller value where
  acyclic := fresh.acyclic
  cells path id reached := Nat.le_trans le (fresh.cells path id reached)

end Fresh

mutual

/-- Data becomes a value with new cells. -/
theorem wrap_fresh : ∀ {data : Data} {store after : Store} {value : Value},
    data.wrap store = .ok value after → after.Fresh store.arrays.size value
  | .null, _, _, _, run | .bool _, _, _, _, run | .float _, _, _, _, run | .text _, _, _, _, run
  | .closure _, _, _, _, run | .host _, _, _, _, run => by
      unfold Data.wrap at run
      cases run
      exact .leaf nofun
  | .foreign, _, _, _, run => by
      unfold Data.wrap at run
      cases run
  | .int n, _, _, _, run => by
      obtain ⟨x, -, rfl, rfl⟩ := wrap_int_ok run
      exact .leaf nofun
  | .list items, store, _, _, run => by
      unfold Data.wrap at run
      obtain ⟨values, wrapped, wrapping, run⟩ := bind_ok run
      cases run
      have grows := ((wrapAll_grows store items store).of_ok (.refl store) wrapping).1
      have pushed := Grows.push_array wrapped values.toArray
      refine .array (Array.getElem?_push_size) grows.arrays_size_le fun item member => ?_
      exact (wrapAll_fresh wrapping item member).grows pushed
  | .table fields, _, _, _, run => by
      unfold Data.wrap at run
      cases run
      exact .leaf nofun

theorem wrapAll_fresh : ∀ {items : List Data} {store after : Store} {values : List Value},
    Data.wrapAll items store = .ok values after →
      ∀ value ∈ values, after.Fresh store.arrays.size value
  | [], _, _, _, run => by
      unfold Data.wrapAll at run
      cases run
      exact fun _ member => by cases member
  | data :: rest, store, _, _, run => by
      unfold Data.wrapAll at run
      obtain ⟨first, middle, here, run⟩ := bind_ok run
      obtain ⟨others, last, later, run⟩ := bind_ok run
      cases run
      have before := ((wrap_grows store data store).of_ok (.refl store) here).1
      have after := ((wrapAll_grows middle rest middle).of_ok (.refl middle) later).1
      intro value member
      rcases List.mem_cons.mp member with rfl | member
      · exact (wrap_fresh here).grows after
      · exact (wrapAll_fresh later value member).mono before.arrays_size_le

end

/-! ## Copies -/

/-- The store with some new arrays. -/
def withArrays (store : Store) (added : Array (Array Value)) : Store :=
  { store with arrays := store.arrays ++ added }

theorem grows_withArrays (store : Store) (added : Array (Array Value)) :
    store.Grows (store.withArrays added) where
  objects _ _ found := found
  arrays id items found := by
    have old := (Array.getElem?_eq_some_iff.mp found).1
    rw [withArrays, Array.getElem?_append_left old, found]

/-- Two values that match with identical numbers; neither of them contains itself. -/
structure IsCopy (store : Store) (value copy : Value) : Prop where
  original : store.Acyclic value
  copied : store.Acyclic copy
  same : store.Matches Eq value copy

theorem IsCopy.grows {copy : Value} (isCopy : store.IsCopy value copy) (grows : store.Grows later) :
    later.IsCopy value copy where
  original := isCopy.original.grows grows
  copied := isCopy.copied.grows grows
  same := isCopy.same.grows isCopy.original isCopy.copied grows

/-- Data that a value has within enough room, and that becomes a copy of the value in whatever store
the cells of the value are; only new arrays are added for it. -/
structure CopiedBy (store : Store) (value : Value) (data : Data) : Prop where
  unwraps : ∃ bound, ∀ room, bound ≤ room → store.unwrap room value = .ok data
  wraps : ∀ start, store.Grows start → ∃ copy added,
    data.wrap start = .ok copy (start.withArrays added) ∧
      (start.withArrays added).IsCopy value copy

/-- The same for several values. -/
structure CopiedAllBy (store : Store) (values : List Value) (items : List Data) : Prop where
  unwraps : ∃ bound, ∀ room, bound ≤ room → values.mapM (store.unwrap room) = .ok items
  wraps : ∀ start, store.Grows start → ∃ copies added,
    Data.wrapAll items start = .ok copies (start.withArrays added) ∧
      List.Forall₂ (start.withArrays added).IsCopy values copies

theorem CopiedAllBy.of_each {values : List Value}
    (each : ∀ value ∈ values, ∃ data, store.CopiedBy value data) :
    ∃ items, store.CopiedAllBy values items := by
  induction values with
  | nil =>
      refine ⟨[], ⟨0, fun _ _ => rfl⟩, fun start _ => ⟨[], #[], ?_, .nil⟩⟩
      rw [withArrays, Array.append_empty]
      rfl
  | cons value rest ih =>
      obtain ⟨data, ⟨here, first⟩, wrapsFirst⟩ := each value List.mem_cons_self
      obtain ⟨items, ⟨later, others⟩, wrapsOthers⟩ :=
        ih fun other member => each other (List.mem_cons_of_mem value member)
      refine ⟨data :: items, ⟨max here later, fun room enough => ?_⟩, fun start grows => ?_⟩
      · rw [List.mapM_cons, first room (by omega), others room (by omega)]
        rfl
      · obtain ⟨copy, added, wrapped, isCopy⟩ := wrapsFirst start grows
        have middle := grows_withArrays start added
        obtain ⟨copies, more, wrapping, all⟩ := wrapsOthers _ (grows.trans middle)
        have joined : (start.withArrays added).withArrays more =
            start.withArrays (added ++ more) := by
          simp only [withArrays, Array.append_assoc]
        refine ⟨copy :: copies, added ++ more, ?_, ?_⟩
        · rw [Data.wrapAll, bind_of_ok wrapped, bind_of_ok wrapping, joined]
          rfl
        · rw [← joined]
          exact .cons (isCopy.grows (grows_withArrays _ more)) all

/-- Whatever is no array becomes data that is the same value anew. -/
theorem exists_leaf_data (single : value.kind ≠ .array) :
    ∃ data, (∀ (store : Store) room, store.unwrap room value = .ok data) ∧
      ∀ start, data.wrap start = .ok value start := by
  cases value with
  | array => exact absurd rfl single
  | _ =>
      refine ⟨_, fun store room => by rw [unwrap], fun start => ?_⟩
      rw [Data.wrap]
      rfl

/-- A value that does not contain itself can be copied. -/
theorem Acyclic.copied (acyclic : store.Acyclic value) : ∃ data, store.CopiedBy value data := by
  induction acyclic with
  | @leaf value single =>
      obtain ⟨data, unwraps, wraps⟩ := exists_leaf_data single
      refine ⟨data, ⟨0, fun room _ => unwraps store room⟩, fun start _ => ⟨value, #[], ?_, ?_⟩⟩
      · rw [wraps, withArrays, Array.append_empty]
      · have alone (store : Store) : store.Acyclic value := .leaf single
        exact ⟨alone _, alone _, (alone _).matches_self⟩
  | @array id values found each ih =>
      obtain ⟨items, ⟨bound, enough⟩, wraps⟩ := CopiedAllBy.of_each ih
      refine ⟨.list items, ⟨bound + 2, fun room le => ?_⟩, fun start grows => ?_⟩
      · obtain ⟨room, rfl⟩ : ∃ less, room = less + 2 := ⟨room - 2, by omega⟩
        rw [unwrap, items_of_found found, enough room (by omega)]
        rfl
      · obtain ⟨copies, added, wrapping, all⟩ := wraps start grows
        have joined : start.withArrays (added.push copies.toArray) =
            { start.withArrays added with
              arrays := (start.withArrays added).arrays.push copies.toArray } := by
          simp only [withArrays, Array.append_push]
        have whole := grows.trans (grows_withArrays start (added.push copies.toArray))
        have wrapped : (Data.list items).wrap start =
            .ok (.array (start.withArrays added).arrays.size)
              (start.withArrays (added.push copies.toArray)) := by
          rw [Data.wrap, bind_of_ok wrapping, joined]
          rfl
        refine ⟨_, _, wrapped, (Acyclic.array found each).grows whole,
          (wrap_fresh wrapped).acyclic, ?_⟩
        have pushed := Grows.push_array (start.withArrays added) copies.toArray
        rw [Matches.array_iff, items_of_found (whole.arrays _ _ found), joined,
          items_of_found Array.getElem?_push_size]
        exact all.imp fun _ _ isCopy => (isCopy.grows pushed).same

theorem CopiedBy.settles {data : Data}
    (copied : store.CopiedBy value data) : Settles (fun room => store.unwrap room value) data where
  enough := copied.unwraps
  only room other unwrapped := by
    obtain ⟨bound, enough⟩ := copied.unwraps
    have both := enough (max bound room) (Nat.le_max_left bound room)
    rw [unwrap_mono unwrapped (Nat.le_max_right bound room)] at both
    exact Except.ok.inj both

namespace IsCopy

variable {copy : Value} (isCopy : store.IsCopy value copy)

include isCopy

/-- At every place there are the same things in both: arrays that look the same, or one value. -/
theorem itemAt? (path : List Nat) :
    Option.Rel (fun item other => other.kind = item.kind ∧
        (∀ room nested, store.display room nested other = store.display room nested item) ∧
        (item.kind ≠ .array → other = item))
      (store.itemAt? path value) (store.itemAt? path copy) := by
  have same := isCopy.same.itemAt? path
  generalize store.itemAt? path value = inside at same ⊢
  generalize store.itemAt? path copy = inCopy at same ⊢
  cases same with
  | none => exact .none
  | some same =>
      have shown (x y : Float) (equal : x = y) : Number.display x = Number.display y := by
        rw [equal]
      refine .some ⟨same.kind_eq.symm, fun room nested => ?_, fun single => ?_⟩
      · exact (same.display_eq shown room nested).symm
      · cases same with
        | number equal => rw [equal]
        | leaf => rfl
        | array => exact absurd rfl single

/-- A copy is equal to the value exactly when no number inside is not a number. -/
theorem areEqual : ∃ same, Settles (fun room => store.areEqual room value copy) same ∧
    (same = true ↔ store.Proper value) := by
  obtain ⟨same, settles⟩ := isCopy.original.areEqual_settles copy
  refine ⟨same, settles, ?_⟩
  rw [← equal_iff_proper isCopy.original isCopy.same]
  constructor
  · rintro rfl
    obtain ⟨bound, enough⟩ := settles.enough
    exact ⟨bound, enough bound (Nat.le_refl bound)⟩
  · rintro ⟨room, equal⟩
    exact (settles.only room true equal).symm

end IsCopy

end Store
end Scriptlet
