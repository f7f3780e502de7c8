import Scriptlet.Proofs.Value.Matching
import Scriptlet.Value.Equality

/-!
# Laws of equality

Two values are equal when they match with equal numbers.  Equality is symmetric and transitive, and
a value that does not contain itself is equal to itself unless some number inside it is not a
number.  Values that are equal cannot be told apart by their texts, as conditions or by their JSON
forms.
-/

namespace Scriptlet

section Pairs

variable {compare : Value → Value → Except Fault Bool} {pairs : List (Value × Value)}

theorem allPairs_true_iff :
    allPairs compare pairs = .ok true ↔ ∀ pair ∈ pairs, compare pair.1 pair.2 = .ok true := by
  induction pairs with
  | nil => exact iff_of_true rfl fun _ member => absurd member List.not_mem_nil
  | cons pair rest ih =>
      rw [List.forall_mem_cons, ← ih, allPairs]
      cases compare pair.1 pair.2 with
      | error fault => exact ⟨nofun, nofun⟩
      | ok same =>
          cases same with
          | false => exact ⟨nofun, nofun⟩
          | true => exact ⟨fun answer => ⟨rfl, answer⟩, And.right⟩

theorem exists_of_allPairs_false (answer : allPairs compare pairs = .ok false) :
    ∃ pair ∈ pairs, compare pair.1 pair.2 = .ok false := by
  induction pairs with
  | nil => cases answer
  | cons pair rest ih =>
      rw [allPairs] at answer
      obtain ⟨same, here, answer⟩ := of_bind_ok answer
      cases same with
      | false => exact ⟨pair, List.mem_cons_self, here⟩
      | true =>
          obtain ⟨other, member, different⟩ := ih answer
          exact ⟨other, List.mem_cons_of_mem pair member, different⟩

theorem allPairs_answers
    (each : ∀ pair ∈ pairs, ∃ same, compare pair.1 pair.2 = .ok same) :
    ∃ same, allPairs compare pairs = .ok same := by
  induction pairs with
  | nil => exact ⟨true, rfl⟩
  | cons pair rest ih =>
      obtain ⟨same, here⟩ := each pair List.mem_cons_self
      rw [allPairs, here]
      cases same with
      | false => exact ⟨false, rfl⟩
      | true => exact ih fun other member => each other (List.mem_cons_of_mem pair member)

theorem allPairs_swap {compare' : Value → Value → Except Fault Bool}
    (each : ∀ x y, compare' y x = compare x y) (left right : List Value) :
    allPairs compare' (right.zip left) = allPairs compare (left.zip right) := by
  induction left generalizing right with
  | nil => cases right <;> rfl
  | cons x left ih =>
      cases right with
      | nil => rfl
      | cons y right => rw [List.zip_cons_cons, List.zip_cons_cons, allPairs, allPairs, each, ih]

end Pairs

namespace Store

variable {store : Store} {a b c : Value}

/-- Two values are equal if there is room to find out. -/
def Equal (store : Store) (a b : Value) : Prop :=
  ∃ room, store.areEqual room a b = .ok true

theorem areEqual_arrays (room : Nat) (id other : ArrayId) :
    store.areEqual (room + 2) (.array id) (.array other) =
      if (store.items id).size = (store.items other).size then
        allPairs (store.areEqual room) ((store.items id).toList.zip (store.items other).toList)
      else .ok false := by
  rw [areEqual]

/-- Whatever is answered tells whether the values match with equal numbers. -/
theorem matches_of_areEqual {room : Nat} {same : Bool}
    (answer : store.areEqual room a b = .ok same) :
    same = true ↔ store.Matches (fun x y => (x == y) = true) a b := by
  induction room using Nat.strongRecOn generalizing a b same with
  | ind room ih =>
      unfold areEqual at answer
      split at answer
      case h_1 =>
        cases answer
        rw [Matches.number_iff]
      case h_7 room id other =>
        rw [Matches.array_iff, List.forall₂_iff_zip, Array.length_toList, Array.length_toList]
        dsimp only at answer
        split at answer
        · rename_i size
          cases same with
          | true =>
              rw [allPairs_true_iff] at answer
              exact iff_of_true rfl ⟨size, fun member =>
                (ih room (by omega) (answer _ member)).mp rfl⟩
          | false =>
              obtain ⟨pair, member, different⟩ := exists_of_allPairs_false answer
              refine iff_of_false nofun fun all => ?_
              exact Bool.false_ne_true ((ih room (by omega) different).mpr (all.2 member))
        · rename_i size
          cases answer
          exact iff_of_false nofun fun all => size all.1
      case h_8 => cases answer
      case h_9 numbers texts bools absents closures hosts arrays _ =>
        cases answer
        refine iff_of_false nofun fun same => ?_
        cases same with
        | number => exact numbers _ _ rfl rfl
        | array => exact arrays _ _ rfl rfl
        | leaf single other =>
            cases a with
            | number => exact other rfl
            | text => exact texts _ _ rfl rfl
            | bool => exact bools _ _ rfl rfl
            | absent => exact absents rfl rfl
            | array => exact single rfl
            | closure => exact closures _ _ rfl rfl
            | host => exact hosts _ _ rfl rfl
      all_goals
        cases answer
        exact Iff.trans (by simp) (Matches.leaf_iff (by nofun) (by nofun)).symm

/-- The order of the two values makes no difference. -/
theorem areEqual_comm (room : Nat) (a b : Value) :
    store.areEqual room a b = store.areEqual room b a := by
  induction room using Nat.strongRecOn generalizing a b with
  | ind room ih =>
      cases a <;> cases b
      case number.number x y => simp only [areEqual, Number.beq_comm x y]
      case array.array id other =>
        rcases room with _ | _ | room
        · simp only [areEqual]
        · simp only [areEqual]
        · rw [areEqual_arrays, areEqual_arrays, allPairs_swap fun x y => ih room (by omega) y x]
          simp only [eq_comm]
      all_goals simp only [areEqual, Bool.beq_comm]

/-- How deep a value is bounds the room that its comparison with any other one takes. -/
theorem Acyclic.areEqual_answers (acyclic : store.Acyclic a) :
    ∃ bound, ∀ room, bound ≤ room → ∀ b, ∃ same, store.areEqual room a b = .ok same := by
  induction acyclic with
  | @leaf value single =>
      refine ⟨0, fun room _ b => ?_⟩
      cases value with
      | array => exact absurd rfl single
      | _ => cases b <;> exact ⟨_, by rw [areEqual] <;> simp⟩
  | @array id items found each ih =>
      obtain ⟨bound, all⟩ := bound_for_all ih
      refine ⟨bound + 2, fun room enough b => ?_⟩
      obtain ⟨room, rfl⟩ : ∃ less, room = less + 2 := ⟨room - 2, by omega⟩
      cases b with
      | array other =>
          rw [areEqual_arrays, items_of_found found]
          split
          · refine allPairs_answers fun pair member => ?_
            exact all room (by omega) pair.1 (List.of_mem_zip member).1 pair.2
          · exact ⟨false, rfl⟩
      | _ => exact ⟨false, by rw [areEqual] <;> simp⟩

theorem Acyclic.areEqual_settles (acyclic : store.Acyclic a) (b : Value) :
    ∃ same, Settles (fun room => store.areEqual room a b) same := by
  obtain ⟨bound, answers⟩ := acyclic.areEqual_answers
  have unique {room room' : Nat} {same same' : Bool} (first : store.areEqual room a b = .ok same)
      (second : store.areEqual room' a b = .ok same') : same = same' :=
    Bool.eq_iff_iff.mpr ((matches_of_areEqual first).trans (matches_of_areEqual second).symm)
  obtain ⟨same, least⟩ := answers bound (Nat.le_refl bound) b
  refine ⟨same, ⟨bound, fun room enough => ?_⟩, fun room other answer => unique answer least⟩
  obtain ⟨other, answer⟩ := answers room enough b
  rw [answer, unique answer least]

theorem equal_iff_matches (acyclic : store.Acyclic a) :
    store.Equal a b ↔ store.Matches (fun x y => (x == y) = true) a b := by
  constructor
  · exact fun ⟨room, answer⟩ => (matches_of_areEqual answer).mp rfl
  · intro same
    obtain ⟨answer, ⟨bound, enough⟩, -⟩ := acyclic.areEqual_settles b
    obtain rfl := (matches_of_areEqual (enough bound (Nat.le_refl bound))).mpr same
    exact ⟨bound, enough bound (Nat.le_refl bound)⟩

/-! ## The laws -/

/-- No number inside a value, at any depth, is not a number. -/
def Proper (store : Store) (value : Value) : Prop :=
  ∀ path x, store.itemAt? path value = some (.number x) → x.isNaN = false

/-- A value is equal to one with identical numbers exactly when these are numbers. -/
theorem equal_iff_proper (acyclic : store.Acyclic a) (identical : store.Matches Eq a b) :
    store.Equal a b ↔ store.Proper a := by
  simp only [equal_iff_matches acyclic, identical.iff_of_identical, Number.beq_self_iff, Proper]

/-- Values that are equal look the same. -/
theorem Equal.looks_same (equal : store.Equal a b) :
    (∀ room nested, store.display room nested a = store.display room nested b) ∧
      store.isTruthy a = store.isTruthy b ∧
      ∀ room, store.toJson room a = store.toJson room b := by
  obtain ⟨room, answer⟩ := equal
  have same := (matches_of_areEqual answer).mp rfl
  exact ⟨same.display_eq fun _ _ => Number.display_eq_of_beq,
    same.isTruthy_eq fun _ _ => store.isTruthy_eq_of_beq,
    same.toJson_eq fun _ _ => Number.toJson_eq_of_beq⟩

/-- The equality of a value that does not contain itself with another value is settled.  Equality is
symmetric, within whatever room, and transitive; the value is equal to itself exactly when no number
inside it is not a number; and it is equal only to values that look the same. -/
theorem areEqual_equivalence (acyclic : store.Acyclic a) (b c : Value) :
    (∃ same, Settles (fun room => store.areEqual room a b) same) ∧
      (∀ room, store.areEqual room a b = store.areEqual room b a) ∧
      (store.Equal a b → store.Equal b c → store.Equal a c) ∧
      (store.Equal a a ↔ store.Proper a) ∧
      (store.Equal a b →
        (∀ room nested, store.display room nested a = store.display room nested b) ∧
          store.isTruthy a = store.isTruthy b ∧
          ∀ room, store.toJson room a = store.toJson room b) := by
  refine ⟨acyclic.areEqual_settles b, fun room => areEqual_comm room a b, ?_,
    equal_iff_proper acyclic acyclic.matches_self, Equal.looks_same⟩
  rintro ⟨_, first⟩ ⟨_, second⟩
  have first := (matches_of_areEqual first).mp rfl
  have second := (matches_of_areEqual second).mp rfl
  exact (equal_iff_matches acyclic).mpr (first.trans (fun _ _ _ => Number.beq_trans) second)

/-- Arrays of the two zeros are equal and look the same, and an array in which something is not a
number is not equal to itself. -/
theorem areEqual_equivalence_zeros :
    let store : Store :=
      { arrays := #[#[.number 0], #[.array 0, .text "x"], #[.number (-0)], #[.array 2, .text "x"],
          #[.array 3, .number (0 / 0)]] }
    (store.Acyclic (.array 1) ∧ store.Equal (.array 1) (.array 3) ∧
        store.Equal (.array 3) (.array 1) ∧ store.Equal (.array 1) (.array 1) ∧
        ∀ room nested,
          store.display room nested (.array 1) = store.display room nested (.array 3)) ∧
      store.Acyclic (.array 4) ∧ ¬ store.Equal (.array 4) (.array 4) := by
  intro store
  have flat (id : ArrayId) (x : Float) (found : store.arrays[id]? = some #[.number x]) :
      store.Acyclic (.array id) := by
    refine .array found fun item member => .leaf ?_
    obtain rfl := List.mem_singleton.mp member
    nofun
  have pair (id : ArrayId) (first second : Value) (single : second.kind ≠ .array)
      (found : store.arrays[id]? = some #[first, second]) (inside : store.Acyclic first) :
      store.Acyclic (.array id) := by
    refine .array found fun item member => ?_
    rcases List.mem_pair.mp member with rfl | rfl
    · exact inside
    · exact .leaf single
  have plus : store.Acyclic (.array 1) := pair 1 _ _ (by decide) rfl (flat 0 0 rfl)
  have minus : store.Acyclic (.array 3) := pair 3 _ _ (by decide) rfl (flat 2 (-0) rfl)
  have broken : store.Acyclic (.array 4) := pair 4 _ (.number (0 / 0)) nofun rfl minus
  have equal : store.Equal (.array 1) (.array 3) := ⟨4, by rfl⟩
  obtain ⟨-, comm, trans, -, looks⟩ := areEqual_equivalence plus (.array 3) (.array 1)
  have swapped : store.Equal (.array 3) (.array 1) := ⟨4, (comm 4).symm.trans (by rfl)⟩
  refine ⟨⟨plus, equal, swapped, trans equal swapped, (looks equal).1⟩, broken, fun same => ?_⟩
  have proper := (areEqual_equivalence broken (.array 4) (.array 4)).2.2.2.1.mp same
  exact absurd (proper [1] _ rfl) (by decide)

end Store
end Scriptlet
