import Scriptlet.Proofs.Fault.Answers
import Scriptlet.Proofs.Number.Comparison
import Scriptlet.Proofs.Store.Growth

/-!
# Values that match

The items of an array are reached by their indices, at every depth.  Two values match when the same
things are at the same places inside them: the cells of their arrays may be different ones, and
their numbers need only be alike, in a sense that is left open here.  What a value looks like does
not depend on the cells, so values that match look the same.
-/

namespace Scriptlet

/-- The answer to a question that takes room: it is given as soon as there is enough room, and no
other one is ever given. -/
structure Settles {α : Type} (ask : Nat → Except Fault α) (answer : α) : Prop where
  enough : ∃ bound, ∀ room, bound ≤ room → ask room = .ok answer
  only : ∀ room other, ask room = .ok other → other = answer

/-- Room that is enough for each of some items is enough for all of them. -/
theorem bound_for_all {α : Type} {settled : α → Nat → Prop} {items : List α}
    (each : ∀ item ∈ items, ∃ bound, ∀ room, bound ≤ room → settled item room) :
    ∃ bound, ∀ room, bound ≤ room → ∀ item ∈ items, settled item room := by
  induction items with
  | nil => exact ⟨0, fun _ _ _ member => by cases member⟩
  | cons item rest ih =>
      obtain ⟨here, first⟩ := each item List.mem_cons_self
      obtain ⟨later, others⟩ := ih fun other member => each other (List.mem_cons_of_mem item member)
      refine ⟨max here later, fun room enough other member => ?_⟩
      rcases List.mem_cons.mp member with rfl | member
      · exact first room (by omega)
      · exact others room (by omega) other member

theorem forall₂_toList_iff {related : Value → Value → Prop} {left right : Array Value} :
    List.Forall₂ related left.toList right.toList ↔ left.size = right.size ∧
      ∀ (index : Nat) x y, left[index]? = some x → right[index]? = some y → related x y := by
  constructor
  · intro all
    obtain ⟨size, each⟩ := List.forall₂_iff_get.mp all
    refine ⟨size, fun index x y here there => ?_⟩
    obtain ⟨bound, rfl⟩ := Array.getElem?_eq_some_iff.mp here
    obtain ⟨bound', rfl⟩ := Array.getElem?_eq_some_iff.mp there
    exact each index bound bound'
  · rintro ⟨size, each⟩
    exact List.forall₂_iff_get.mpr ⟨size, fun index here there =>
      each index _ _ (Array.getElem?_eq_getElem here) (Array.getElem?_eq_getElem there)⟩

namespace Store

/-- A value that does not contain itself.  Its arrays are cells of the store. -/
inductive Acyclic (store : Store) : Value → Prop
  | leaf {value : Value} (single : value.kind ≠ .array) : Acyclic store value
  | array {id : ArrayId} {items : Array Value} (found : store.arrays[id]? = some items)
      (each : ∀ item ∈ items.toList, Acyclic store item) : Acyclic store (.array id)

/-- What some indices lead to inside a value, one index for each array on the way. -/
def itemAt? (store : Store) : List Nat → Value → Option Value
  | [], value => some value
  | index :: path, .array id => (store.items id)[index]?.bind (store.itemAt? path)
  | _ :: _, _ => none

/-- Two values with the same things at the same places, except that numbers are `alike`. -/
inductive Matches (store : Store) (alike : Float → Float → Prop) : Value → Value → Prop
  | number {x y : Float} (same : alike x y) : Matches store alike (.number x) (.number y)
  | leaf {value : Value} (single : value.kind ≠ .array) (other : value.kind ≠ .number) :
      Matches store alike value value
  | array {id other : ArrayId} (size : (store.items id).size = (store.items other).size)
      (each : ∀ (index : Nat) (x y : Value), (store.items id)[index]? = some x →
        (store.items other)[index]? = some y → Matches store alike x y) :
      Matches store alike (.array id) (.array other)

variable {store later : Store} {alike : Float → Float → Prop} {value a b c : Value}

theorem items_of_found {id : ArrayId} {items : Array Value}
    (found : store.arrays[id]? = some items) : store.items id = items := by
  rw [Store.items, Array.getD_eq_getD_getElem?, found, Option.getD_some]

theorem itemAt?_leaf (single : value.kind ≠ .array) (index : Nat) (path : List Nat) :
    store.itemAt? (index :: path) value = none := by
  cases value with
  | array id => exact absurd rfl single
  | _ => rfl

theorem eq_of_itemAt?_leaf (single : value.kind ≠ .array) {path : List Nat} {item : Value}
    (reached : store.itemAt? path value = some item) : item = value := by
  cases path with
  | nil => exact (Option.some.inj reached).symm
  | cons index path =>
      rw [itemAt?_leaf single] at reached
      cases reached

/-- What is reached from an array is the array, or it is reached from one of its items. -/
theorem itemAt?_array_cases {id : ArrayId} {items : Array Value}
    (found : store.arrays[id]? = some items) {path : List Nat} {item : Value}
    (reached : store.itemAt? path (.array id) = some item) :
    item = .array id ∨
      ∃ inner ∈ items.toList, ∃ rest, store.itemAt? rest inner = some item := by
  cases path with
  | nil => exact .inl (Option.some.inj reached).symm
  | cons index path =>
      rw [itemAt?, items_of_found found] at reached
      obtain ⟨inner, member, reached⟩ := Option.bind_eq_some_iff.mp reached
      exact .inr ⟨inner, Array.mem_toList_iff.mpr (Array.mem_of_getElem? member), path, reached⟩

/-! ## Growth -/

theorem Acyclic.grows (acyclic : store.Acyclic value) (grows : store.Grows later) :
    later.Acyclic value := by
  induction acyclic with
  | leaf single => exact .leaf single
  | array found _ ih => exact .array (grows.arrays _ _ found) ih

/-- New cells make no difference to what is inside a value. -/
theorem Acyclic.itemAt?_grows (acyclic : store.Acyclic value) (grows : store.Grows later)
    (path : List Nat) : later.itemAt? path value = store.itemAt? path value := by
  induction acyclic generalizing path with
  | leaf single =>
      cases path with
      | nil => rfl
      | cons index path => rw [itemAt?_leaf single, itemAt?_leaf single]
  | array found each ih =>
      cases path with
      | nil => rfl
      | cons index path =>
          rw [itemAt?, itemAt?, items_of_found found, items_of_found (grows.arrays _ _ found)]
          exact Option.bind_congr fun item member =>
            ih item (Array.mem_toList_iff.mpr (Array.mem_of_getElem? member)) path

theorem Matches.grows (same : store.Matches alike a b) (left : store.Acyclic a)
    (right : store.Acyclic b) (grows : store.Grows later) : later.Matches alike a b := by
  induction same with
  | number same => exact .number same
  | leaf single other => exact .leaf single other
  | array size each ih =>
      cases left with
      | leaf single => exact absurd rfl single
      | array found inside =>
          cases right with
          | leaf single => exact absurd rfl single
          | array found' inside' =>
              have kept := items_of_found (grows.arrays _ _ found)
              have kept' := items_of_found (grows.arrays _ _ found')
              rw [items_of_found found, items_of_found found'] at size ih
              refine .array (by rwa [kept, kept']) fun index x y here there => ?_
              rw [kept] at here
              rw [kept'] at there
              exact ih index x y here there
                (inside x (Array.mem_toList_iff.mpr (Array.mem_of_getElem? here)))
                (inside' y (Array.mem_toList_iff.mpr (Array.mem_of_getElem? there)))

namespace Matches

/-! ## Items -/

theorem array_iff {id other : ArrayId} : store.Matches alike (.array id) (.array other) ↔
    List.Forall₂ (store.Matches alike) (store.items id).toList (store.items other).toList := by
  rw [forall₂_toList_iff]
  constructor
  · intro same
    cases same with
    | leaf single => exact absurd rfl single
    | array size each => exact ⟨size, each⟩
  · exact fun ⟨size, each⟩ => .array size each

theorem number_iff {x y : Float} : store.Matches alike (.number x) (.number y) ↔ alike x y := by
  constructor
  · intro same
    cases same with
    | number same => exact same
    | leaf _ other => exact absurd rfl other
  · exact .number

theorem leaf_iff (single : a.kind ≠ .array) (other : a.kind ≠ .number) :
    store.Matches alike a b ↔ a = b := by
  constructor
  · intro same
    cases same with
    | number => exact absurd rfl other
    | leaf => rfl
    | array => exact absurd rfl single
  · rintro rfl
    exact .leaf single other

theorem kind_eq (same : store.Matches alike a b) : a.kind = b.kind := by
  cases same <;> rfl

theorem trans (through : ∀ x y z, alike x y → alike y z → alike x z)
    (first : store.Matches alike a b) (second : store.Matches alike b c) :
    store.Matches alike a c := by
  induction first generalizing c with
  | number same =>
      cases second with
      | number same' => exact .number (through _ _ _ same same')
      | leaf _ other => exact absurd rfl other
  | leaf => exact second
  | @array id middle size each ih =>
      cases second with
      | leaf single => exact absurd rfl single
      | array size' each' =>
          refine .array (size.trans size') fun index x z here there => ?_
          have inside := size ▸ (Array.getElem?_eq_some_iff.mp here).1
          have between := Array.getElem?_eq_getElem inside
          exact ih index x _ here between (each' index _ z between there)

/-- Values that match have matching items at the same places. -/
theorem itemAt? (same : store.Matches alike a b) (path : List Nat) :
    Option.Rel (store.Matches alike) (store.itemAt? path a) (store.itemAt? path b) := by
  induction path generalizing a b with
  | nil => exact .some same
  | cons index path ih =>
      cases same with
      | number => exact .none
      | leaf single => rw [itemAt?_leaf single]; exact .none
      | @array id other size each =>
          rw [Store.itemAt?, Store.itemAt?]
          rcases Nat.lt_or_ge index (store.items id).size with inside | outside
          · have here := Array.getElem?_eq_getElem inside
            have there := Array.getElem?_eq_getElem (size ▸ inside)
            rw [here, there]
            exact ih (each index _ _ here there)
          · rw [Array.getElem?_eq_none outside, Array.getElem?_eq_none (size ▸ outside)]
            exact .none

/-- A value matches one with identical numbers exactly when its numbers are alike to themselves. -/
theorem iff_of_identical (identical : store.Matches Eq a b) :
    store.Matches alike a b ↔
      ∀ path x, store.itemAt? path a = some (.number x) → alike x x := by
  constructor
  · intro same path x reached
    have here := same.itemAt? path
    have there := identical.itemAt? path
    rw [reached] at here there
    generalize store.itemAt? path b = item at here there
    cases here with
    | some here =>
        cases there with
        | some there =>
            cases there with
            | number equal =>
                subst equal
                exact number_iff.mp here
            | leaf _ other => exact absurd rfl other
  · intro proper
    induction identical with
    | number equal =>
        subst equal
        exact .number (proper [] _ rfl)
    | leaf single other => exact .leaf single other
    | array size each ih =>
        refine .array size fun index x y here there => ?_
        refine ih index x y here there fun path n reached => proper (index :: path) n ?_
        rw [Store.itemAt?, here]
        exact reached

/-! ## What matching values share -/

theorem display_eq (shown : ∀ x y, alike x y → Number.display x = Number.display y)
    (same : store.Matches alike a b) (room : Nat) (nested : Bool) :
    store.display room nested a = store.display room nested b := by
  induction same generalizing room nested with
  | number same => simp only [display, shown _ _ same]
  | leaf => rfl
  | array size each ih =>
      rcases room with _ | _ | _ | room
      · simp only [display]
      · simp only [display]
      · simp only [display]
      · have items : List.Forall₂ (fun x y =>
            store.display (room + 1) true x = store.display (room + 1) true y) _ _ :=
          forall₂_toList_iff.mpr ⟨size, fun index x y here there => ih index x y here there _ _⟩
        rw [display, display, mapM_eq_of_forall₂ items]

theorem isTruthy_eq (shown : ∀ x y, alike x y →
      store.isTruthy (.number x) = store.isTruthy (.number y))
    (same : store.Matches alike a b) : store.isTruthy a = store.isTruthy b := by
  cases same with
  | number same => exact shown _ _ same
  | leaf => rfl
  | array size => simp only [isTruthy, Array.isEmpty, size]

theorem toJson_eq (shown : ∀ x y, alike x y → Number.toJson x = Number.toJson y)
    (same : store.Matches alike a b) (room : Nat) : store.toJson room a = store.toJson room b := by
  induction same generalizing room with
  | number same => simp only [toJson, shown _ _ same]
  | leaf => rfl
  | array size each ih =>
      rcases room with _ | _ | room
      · simp only [toJson]
      · simp only [toJson]
      · have items : List.Forall₂ (fun x y => store.toJson room x = store.toJson room y) _ _ :=
          forall₂_toList_iff.mpr ⟨size, fun index x y here there => ih index x y here there _⟩
        rw [toJson, toJson, mapM_eq_of_forall₂ items]

end Matches

/-- A value that does not contain itself matches itself. -/
theorem Acyclic.matches_self (acyclic : store.Acyclic value) : store.Matches Eq value value := by
  induction acyclic with
  | @leaf value single =>
      cases value with
      | number x => exact .number rfl
      | array id => exact absurd rfl single
      | _ => exact .leaf single nofun
  | array found each ih =>
      rw [Matches.array_iff, List.forall₂_same, items_of_found found]
      exact ih

end Store
end Scriptlet
