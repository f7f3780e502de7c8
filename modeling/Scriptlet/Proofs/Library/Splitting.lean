import Scriptlet.Proofs.Text.Parts
import Scriptlet.Proofs.Value.Matching

/-!
# Splitting and joining

A text that was split at a separator is joined to the same text by that separator.  Both
operations go by the display form of the separator, and splitting adds an array to the store in
between.  The display forms of what the store holds do not change by that, since nothing in it
names the new array.
-/

namespace Scriptlet

namespace Store

variable {store : Store} {items : Array Value} {value : Value}

/-! ## Arrays that a store has -/

/-- If a value is an array, then it is one of the store. -/
def HasArray (store : Store) (value : Value) : Prop :=
  ∀ id, value = .array id → id < store.arrays.size

/-- All arrays that a store holds in arrays and in fields of records are arrays of the store. -/
structure Whole (store : Store) : Prop where
  items : ∀ id, ∀ item ∈ (store.items id).toList, store.HasArray item
  fields : ∀ (id : ObjectId) (typeName : String) (fields : Assoc Field),
    store.objects[id]? = some (.record typeName fields) →
      ∀ name value, (name, .value value) ∈ fields → store.HasArray value

theorem HasArray.of_kind (single : value.kind ≠ .array) : store.HasArray value :=
  fun _ same => absurd (congrArg Value.kind same) single

/-! ## A new array -/

/-- A store with a further array. -/
def withArray (store : Store) (items : Array Value) : Store :=
  { store with arrays := store.arrays.push items }

theorem items_withArray (store : Store) (items : Array Value) :
    (store.withArray items).items store.arrays.size = items :=
  items_of_found Array.getElem?_push_size

theorem items_withArray_of_lt {id : ArrayId} (present : id < store.arrays.size) :
    (store.withArray items).items id = store.items id := by
  have found := Array.getElem?_eq_getElem present
  have kept := (Grows.push_array store items).arrays id _ found
  exact (items_of_found kept).trans (items_of_found found).symm

/-- An object is shown as before if the values and the data in its fields are. -/
theorem displayObject_withArray (whole : store.Whole) {room : Nat}
    (values : ∀ value, store.HasArray value →
      (store.withArray items).display room true value = store.display room true value)
    (datas : (store.withArray items).displayData room = store.displayData room) (id : ObjectId) :
    (store.withArray items).displayObject (room + 2) id = store.displayObject (room + 2) id := by
  have same : (store.withArray items).objects[id]? = store.objects[id]? := rfl
  rw [displayObject, displayObject, same]
  cases found : store.objects[id]? with
  | none => rfl
  | some object =>
      cases object with
      | record typeName fields =>
          dsimp only
          congr 1
          refine mapM_eq_of_forall₂ (List.forall₂_same.mpr ?_)
          rintro ⟨name, field⟩ member
          cases field with
          | value value =>
              have held := whole.fields id typeName fields found name value
                (List.mem_of_mem_filter member)
              dsimp only
              rw [values value held]
          | raw data => rw [datas]
      | _ => rfl

/-- No value that a store can hold is shown in another way when there is a further array. -/
theorem display_withArray_both (whole : store.Whole) (items : Array Value) (room : Nat) :
    (∀ nested value, store.HasArray value →
        (store.withArray items).display room nested value = store.display room nested value) ∧
      (store.withArray items).displayData room = store.displayData room := by
  induction room using Nat.strongRecOn with
  | ind room ih =>
      have objects (less : Nat) (below : less + 2 < room) (id : ObjectId) :
          (store.withArray items).displayObject (less + 2) id = store.displayObject (less + 2) id :=
        displayObject_withArray whole ((ih less (by omega)).1 true) (ih less (by omega)).2 id
      constructor
      · intro nested value has
        unfold display
        split
        case h_6 room id =>
          rw [items_withArray_of_lt (has id rfl)]
          congr 1
          refine mapM_eq_of_forall₂ (List.forall₂_same.mpr fun item member => ?_)
          exact (ih (room + 1) (by omega)).1 true item (whole.items id item member)
        case h_7 => exact objects _ (by omega) _
        all_goals rfl
      · funext nested data
        unfold displayData
        split
        case h_8 room parts => rw [(ih (room + 1) (by omega)).2]
        case h_9 room fields =>
          rw [(ih room (by omega)).2]
          rfl
        case h_10 => exact objects _ (by omega) _
        all_goals rfl

theorem display_withArray (whole : store.Whole) (has : store.HasArray value) (items : Array Value)
    (room : Nat) (nested : Bool) :
    (store.withArray items).display room nested value = store.display room nested value :=
  (display_withArray_both whole items room).1 nested value has

end Store

namespace Method

variable {store : Store} {separator : Value} {room later : Nat} {mark : String}

/-! ## The parts -/

theorem intercalate_singletons (chars : List Char) :
    "".intercalate (chars.map String.singleton) = String.ofList chars := by
  induction chars with
  | nil => rfl
  | cons c rest ih =>
      cases rest with
      | nil => rfl
      | cons next more =>
          rw [List.map_cons, List.map_cons, String.intercalate_cons_cons, ← List.map_cons, ih,
            String.append_empty, ← String.toList_inj]
          simp

/-- The parts of a text, joined by the mark at which it was split. -/
theorem intercalate_splitText (text mark : String) :
    mark.intercalate (splitText text mark) = text := by
  rw [splitText]
  split
  case isTrue empty =>
    obtain rfl := String.isEmpty_iff.mp empty
    rw [intercalate_singletons, String.ofList_toList]
  case isFalse marks =>
    have nonempty : mark.toList ≠ [] := by simpa using marks
    have chars : String.toList ∘ String.ofList = id := funext fun _ => String.toList_ofList
    rw [← String.toList_inj, String.toList_intercalate, List.map_map, chars, List.map_id]
    exact Text.join_parts nonempty text.toList

theorem splitText_eq (text : String) (marks : mark ≠ "") :
    splitText text mark = (Text.parts mark.toList text.toList).map String.ofList :=
  if_neg (by simpa using marks)

/-! ## The operations -/

theorem split_run (text : String) (known : separator ≠ .absent) :
    Method.split.perform room (.text text) [separator] store =
      ((ofExcept (store.display room false separator) : StoreM String) >>= fun mark =>
        Store.addArray ((splitText text mark).map Value.text).toArray) store := by
  cases separator with
  | absent => exact absurd rfl known
  | _ => rfl

theorem split_at (text : String) (known : separator ≠ .absent)
    (shown : store.display room false separator = .ok mark) :
    Method.split.perform room (.text text) [separator] store =
      .ok (.array store.arrays.size)
        (store.withArray ((splitText text mark).map Value.text).toArray) := by
  rw [split_run text known, shown]
  rfl

/-- If a separator has no display form, then splitting fails as displaying it does. -/
theorem split_fails (text : String) {fault : Fault} (known : separator ≠ .absent)
    (shown : store.display room false separator = .error fault) :
    Method.split.perform room (.text text) [separator] store = .error fault store := by
  rw [split_run text known, shown]
  rfl

theorem split_absent (text : String) :
    Method.split.perform room (.text text) [.absent] store =
      .ok (.array store.arrays.size) (store.withArray #[.text text]) :=
  rfl

theorem join_by {array : ArrayId} {texts : List String}
    (held : store.items array = (texts.map Value.text).toArray)
    (shown : store.display room false separator = .ok mark) :
    Method.join.perform room (.array array) [separator] store =
      .ok (.text (mark.intercalate texts)) store := by
  have joined : joinItems store room array separator = .ok (mark.intercalate texts) := by
    have each (text : String) : store.display room false (.text text) = .ok text := by
      rw [Store.display]
      rfl
    have all : (texts.map Value.text).mapM (store.display room false) = .ok texts := by
      rw [mapM_same each]
      exact (List.mapM_pure (m := Except Fault) (f := id)).trans (congrArg pure (List.map_id texts))
    rw [joinItems, shown, held, List.toList_toArray, all]
    rfl
  change (ofExcept (joinItems store room array separator) >>= _ : StoreM Value) store = _
  rw [joined]
  rfl

/-! ## Splitting, then joining -/

/-- A text that is split at a separator and joined by it is the same text again, for every separator
that has a display form.  If this form is not empty and the separator is not the undefined value,
then it stands in none of the parts, and there is one part more than there are leftmost occurrences
of it in the text. -/
theorem split_join (whole : store.Whole) (has : store.HasArray separator)
    (shown : store.display room false separator = .ok mark)
    (again : store.display later false separator = .ok mark) (text : String) :
    ∃ (parts : List String) (after : Store),
      Method.split.perform room (.text text) [separator] store =
        .ok (.array store.arrays.size) after ∧
      after.items store.arrays.size = (parts.map Value.text).toArray ∧
      Method.join.perform later (.array store.arrays.size) [separator] after =
        .ok (.text text) after ∧
      (separator ≠ .absent → mark ≠ "" →
        (∀ part ∈ parts, ¬ mark.toList <:+: part.toList) ∧
        (∃ places, Text.Leftmost mark.toList text.toList 0 places) ∧
        ∀ places, Text.Leftmost mark.toList text.toList 0 places →
          parts.length = places.length + 1) := by
  have kept (items : Array Value) :=
    (Store.display_withArray whole has items later false).trans again
  by_cases known : separator = .absent
  · subst known
    have held : (store.withArray #[.text text]).items store.arrays.size =
        ([text].map Value.text).toArray := Store.items_withArray store _
    exact ⟨[text], _, split_absent text, held, join_by held (kept _),
      fun present => absurd rfl present⟩
  · have held := Store.items_withArray store ((splitText text mark).map Value.text).toArray
    have joined := join_by held (kept _)
    rw [intercalate_splitText] at joined
    refine ⟨_, _, split_at text known shown, held, joined, fun _ marks => ?_⟩
    have nonempty : mark.toList ≠ [] := by simpa using marks
    rw [splitText_eq text marks, List.length_map]
    refine ⟨?_, ?_, fun places leftmost => Text.length_parts nonempty leftmost⟩
    · intro part member
      obtain ⟨chars, isPart, rfl⟩ := List.mem_map.mp member
      rw [String.toList_ofList]
      exact Text.not_infix_of_mem_parts nonempty isPart
    · obtain ⟨places, leftmost, -⟩ := Text.exists_leftmost nonempty text.toList
      exact ⟨places, leftmost⟩

/-- A text that is split at an array and joined by it. -/
theorem split_join_array :
    let store : Store := { arrays := #[#[.bool true, .absent]] }
    store.Whole ∧ store.HasArray (.array 0) ∧
      store.display 4 false (.array 0) = .ok "[true, undefined]" ∧
      ∃ (parts : List String) (after : Store),
        Method.split.perform 4 (.text "x[true, undefined]") [.array 0] store =
          .ok (.array 1) after ∧
        after.items 1 = (parts.map Value.text).toArray ∧
        Method.join.perform 4 (.array 1) [.array 0] after =
          .ok (.text "x[true, undefined]") after ∧
        ∀ part ∈ parts, ¬ "[true, undefined]".toList <:+: part.toList := by
  intro store
  have whole : store.Whole :=
    { items := fun id item member => .of_kind (by
        cases id with
        | zero => rcases List.mem_pair.mp member with rfl | rfl <;> decide
        | succ => cases member)
      fields := fun id typeName fields found => by cases found }
  have has : store.HasArray (.array 0) := fun id same => by
    cases same
    decide
  have shown : store.display 4 false (.array 0) = .ok "[true, undefined]" := rfl
  obtain ⟨parts, after, made, held, joined, apart⟩ :=
    split_join whole has shown shown "x[true, undefined]"
  exact ⟨whole, has, shown, parts, after, made, held, joined, (apart nofun (by decide)).1⟩

/-- An array that contains itself has no display form, so no text can be split at it. -/
theorem split_cyclic :
    let store : Store := { arrays := #[#[.array 0]] }
    store.Whole ∧ store.HasArray (.array 0) ∧ ∀ room text,
      Method.split.perform room (.text text) [.array 0] store = .error .exhausted store := by
  intro store
  have has : store.HasArray (.array 0) := fun id same => by
    cases same
    decide
  have whole : store.Whole :=
    { items := fun id item member => by
        cases id with
        | zero =>
            obtain rfl := List.mem_singleton.mp member
            exact has
        | succ => cases member
      fields := fun id typeName fields found => by cases found }
  have hidden (room : Nat) (nested : Bool) :
      store.display room nested (.array 0) = .error .exhausted := by
    induction room using Nat.strongRecOn generalizing nested with
    | ind room ih =>
        match room, ih with
        | 0, _ | 1, _ | 2, _ => rfl
        | room + 3, ih =>
            have inner := ih (room + 1) (by omega) true
            have items : (store.items 0).toList = [.array 0] := rfl
            rw [Store.display, items, List.mapM_cons, inner]
            rfl
  exact ⟨whole, has, fun room text => split_fails text (by simp) (hidden room false)⟩

end Method
end Scriptlet
