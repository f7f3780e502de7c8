import Scriptlet.Proofs.Store.Change
import Scriptlet.Proofs.Number.Order

/-!
# The least and the greatest of several numbers

Both are the first of the numbers that no other one comes before, in the order of numbers or in the
opposite order.  An undefined number comes neither before another one nor after it: it is passed
over unless it is the first, and then nothing takes its place.  So the result depends on the order
of the numbers only by whether an undefined one comes first.
-/

namespace Scriptlet

namespace Number

/-- The first of several numbers that no other one comes before. -/
def firstOf (before : Float → Float → Prop) [DecidableRel before] : Float → List Float → Float
  | held, [] => held
  | held, x :: rest => firstOf before (if before x held then x else held) rest

theorem leastOf_eq (x : Float) (rest : List Float) :
    leastOf x rest = firstOf (fun y z => y < z) x rest := by
  induction rest generalizing x with
  | nil => rfl
  | cons y rest ih => exact ih _

theorem greatestOf_eq (x : Float) (rest : List Float) :
    greatestOf x rest = firstOf (fun y z => z < y) x rest := by
  induction rest generalizing x with
  | nil => rfl
  | cons y rest ih => exact ih _

/-- Two numbers count as the same if they are equal or both undefined. -/
def Same (x y : Float) : Prop :=
  (x == y) = true ∨ (x.isNaN = true ∧ y.isNaN = true)

theorem Same.refl (x : Float) : Same x x := by
  cases undefined : x.isNaN with
  | true => exact Or.inr ⟨undefined, undefined⟩
  | false => exact Or.inl (beq_of_place undefined undefined rfl)

theorem Same.isNaN_eq {x y : Float} (same : Same x y) : x.isNaN = y.isNaN := by
  rcases same with equal | ⟨first, second⟩
  · obtain ⟨first, second, -⟩ := Float.beq_iff_ne_nan_and_eq.mp equal
    rw [Float.isNaN_eq_decide_eq_nan, Float.isNaN_eq_decide_eq_nan, decide_eq_false first,
      decide_eq_false second]
  · rw [first, second]

/-- Whether the first of several numbers is undefined. -/
def opensUndefined (numbers : List Float) : Bool :=
  numbers.head?.any Float.isNaN

/-- The first of several numbers that no other one comes before; without numbers, a number for
that case. -/
def extreme (before : Float → Float → Prop) [DecidableRel before] (empty : Float) :
    List Float → Float
  | [] => empty
  | x :: rest => firstOf before x rest

section Order

variable {κ : Type} [LinearOrder κ] {key : Float → κ} {before : Float → Float → Prop}
  [DecidableRel before]

/-- An undefined number is never replaced. -/
theorem firstOf_undefined
    (orders : ∀ x y, before x y ↔ x.isNaN = false ∧ y.isNaN = false ∧ key x < key y)
    {held : Float} (undefined : held.isNaN = true) (rest : List Float) :
    firstOf before held rest = held := by
  induction rest with
  | nil => rfl
  | cons x rest ih =>
      have stays : ¬ before x held := by
        intro earlier
        rw [((orders x held).mp earlier).2.1] at undefined
        cases undefined
      rw [firstOf, if_neg stays, ih]

/-- From a number that is not undefined on, the first number is found among the numbers, and no
number that is not undefined has an earlier place. -/
theorem firstOf_spec
    (orders : ∀ x y, before x y ↔ x.isNaN = false ∧ y.isNaN = false ∧ key x < key y)
    (held : Float) (proper : held.isNaN = false) (rest : List Float) :
    firstOf before held rest ∈ held :: rest ∧ (firstOf before held rest).isNaN = false ∧
      ∀ x ∈ held :: rest, x.isNaN = false → key (firstOf before held rest) ≤ key x := by
  induction rest generalizing held with
  | nil =>
      refine ⟨List.mem_cons_self, proper, fun x found _ => ?_⟩
      rw [List.mem_singleton.mp found, firstOf]
  | cons x rest ih =>
      rw [firstOf]
      by_cases earlier : before x held
      · obtain ⟨x_proper, -, less⟩ := (orders x held).mp earlier
        obtain ⟨found, result_proper, least⟩ := ih x x_proper
        rw [if_pos earlier]
        refine ⟨List.mem_cons_of_mem _ found, result_proper, ?_⟩
        intro y found y_proper
        rcases List.mem_cons.mp found with rfl | later
        · exact (least x List.mem_cons_self x_proper).trans less.le
        · exact least y later y_proper
      · obtain ⟨found, result_proper, least⟩ := ih held proper
        rw [if_neg earlier]
        refine ⟨?_, result_proper, ?_⟩
        · rcases List.mem_cons.mp found with isHeld | inRest
          · exact List.mem_cons.mpr (Or.inl isHeld)
          · exact List.mem_cons_of_mem _ (List.mem_cons_of_mem _ inRest)
        · intro y found y_proper
          rcases List.mem_cons.mp found with rfl | later
          · exact least y List.mem_cons_self y_proper
          · rcases List.mem_cons.mp later with rfl | inRest
            · have notLess : ¬ key y < key held := fun less =>
                earlier ((orders y held).mpr ⟨y_proper, proper, less⟩)
              exact (least held List.mem_cons_self proper).trans (not_lt.mp notLess)
            · exact least y (List.mem_cons_of_mem _ inRest) y_proper

theorem extreme_isNaN
    (orders : ∀ x y, before x y ↔ x.isNaN = false ∧ y.isNaN = false ∧ key x < key y)
    {empty : Float} (proper : empty.isNaN = false) (numbers : List Float) :
    (extreme before empty numbers).isNaN = opensUndefined numbers := by
  cases numbers with
  | nil => exact proper
  | cons x rest =>
      cases undefined : x.isNaN with
      | true => simp [extreme, opensUndefined, firstOf_undefined orders undefined]
      | false =>
          have result := (firstOf_spec orders x undefined rest).2.1
          simp only [extreme, opensUndefined, List.head?_cons, Option.any_some, undefined, result]

/-- The results for the same numbers in two orders are the same exactly if an undefined number comes
first in both of the orders or in none. -/
theorem same_extreme_iff
    (orders : ∀ x y, before x y ↔ x.isNaN = false ∧ y.isNaN = false ∧ key x < key y)
    (placed : ∀ x y : Float, x.isNaN = false → y.isNaN = false → key x = key y → (x == y) = true)
    {empty : Float} (proper : empty.isNaN = false) {numbers others : List Float}
    (perm : numbers.Perm others) :
    Same (extreme before empty numbers) (extreme before empty others) ↔
      opensUndefined numbers = opensUndefined others := by
  rw [← extreme_isNaN orders proper numbers, ← extreme_isNaN orders proper others]
  refine ⟨Same.isNaN_eq, fun alike => ?_⟩
  cases undefined : (extreme before empty numbers).isNaN with
  | true => exact Or.inr ⟨undefined, alike ▸ undefined⟩
  | false =>
      have defined : (extreme before empty others).isNaN = false := alike ▸ undefined
      cases numbers with
      | nil =>
          obtain rfl := perm.symm.eq_nil
          exact Same.refl _
      | cons x rest =>
          cases others with
          | nil => cases perm.eq_nil
          | cons y more =>
              rw [extreme_isNaN orders proper] at undefined defined
              obtain ⟨found, first_proper, least⟩ :=
                firstOf_spec orders x (by simpa [opensUndefined] using undefined) rest
              obtain ⟨found', second_proper, least'⟩ :=
                firstOf_spec orders y (by simpa [opensUndefined] using defined) more
              refine Or.inl (placed _ _ first_proper second_proper (le_antisymm ?_ ?_))
              · exact least _ (perm.mem_iff.mpr found') second_proper
              · exact least' _ (perm.mem_iff.mp found) first_proper

end Order

/-- The order of numbers, for the least of them. -/
theorem rises (x y : Float) :
    x < y ↔ x.isNaN = false ∧ y.isNaN = false ∧ place x < place y :=
  lt_iff_place x y

/-- The opposite order, for the greatest of them. -/
theorem falls (x y : Float) :
    y < x ↔ x.isNaN = false ∧ y.isNaN = false ∧
      OrderDual.toDual (place x) < OrderDual.toDual (place y) := by
  rw [lt_iff_place, OrderDual.toDual_lt_toDual]
  tauto

/-- The least of several numbers. -/
def least (numbers : List Float) : Float :=
  extreme (fun x y => x < y) infinity numbers

/-- The greatest of several numbers. -/
def greatest (numbers : List Float) : Float :=
  extreme (fun x y => y < x) (-infinity) numbers

end Number

/-! ## The functions of the library -/

section Functions

variable (room : Nat) (store : Store)

theorem numbersOf_floats (function : String) (numbers : List Float) :
    numbersOf store room function (numbers.map .float) = .ok numbers := by
  induction numbers with
  | nil => rfl
  | cons x rest ih =>
      rw [List.map_cons, numbersOf, ih]
      rfl

theorem unwrap_numbers (numbers : List Float) :
    (numbers.map Value.number).mapM (store.unwrap room) = .ok (numbers.map Data.float) := by
  induction numbers with
  | nil => rfl
  | cons x rest ih =>
      have first : store.unwrap room (.number x) = .ok (.float x) := by
        cases room <;> rfl
      rw [List.map_cons, List.mapM_cons, first, ih]
      rfl

theorem leastArgument_floats (numbers : List Float) :
    leastArgument store room (numbers.map .float) = .ok (.float (Number.least numbers)) := by
  rw [leastArgument, numbersOf_floats]
  cases numbers with
  | nil => rfl
  | cons x rest => exact congrArg (fun y => Except.ok (Data.float y)) (Number.leastOf_eq x rest)

theorem greatestArgument_floats (numbers : List Float) :
    greatestArgument store room (numbers.map .float) = .ok (.float (Number.greatest numbers)) := by
  rw [greatestArgument, numbersOf_floats]
  cases numbers with
  | nil => rfl
  | cons x rest => exact congrArg (fun y => Except.ok (Data.float y)) (Number.greatestOf_eq x rest)

/-- An operation on data is given numbers as they are. -/
theorem onData_numbers (numbers : List Float) (operation : List Data → StoreM Data) :
    onData room (numbers.map .number) operation store =
      (operation (numbers.map .float) >>= Data.wrap) store := by
  have arguments := unwrap_numbers room store numbers
  unfold onData
  rw [bind_of_ok (rfl : (get : StoreM Store) store = .ok store store), arguments]
  rfl

/-- An operation that answers numbers with a number gives that number and leaves the store. -/
theorem onData_answers {operation : Store → Nat → List Data → Except Fault Data}
    {numbers : List Float} {x : Float}
    (answer : operation store room (numbers.map .float) = .ok (.float x)) :
    onData room (numbers.map .number) (fun data => do ofExcept (operation (← get) room data))
      store = .ok (.number x) store := by
  have run : (do ofExcept (operation (← get) room (numbers.map .float)) : StoreM Data) store =
      .ok (.float x) store := by
    rw [bind_of_ok (rfl : (get : StoreM Store) store = .ok store store), answer]
    rfl
  rw [onData_numbers, bind_of_ok run]
  rfl

theorem perform_least (numbers : List Float) :
    Native.perform room .least (numbers.map .number) store =
      .ok (.number (Number.least numbers)) store :=
  onData_answers room store (leastArgument_floats room store numbers)

theorem perform_greatest (numbers : List Float) :
    Native.perform room .greatest (numbers.map .number) store =
      .ok (.number (Number.greatest numbers)) store :=
  onData_answers room store (greatestArgument_floats room store numbers)

end Functions

/-- The result is one of the numbers: the first one if that is undefined, and else one that is not
undefined and that none of the numbers comes before. -/
def Number.Heads (before : Float → Float → Prop) (numbers : List Float) (x : Float) : Prop :=
  x ∈ numbers ∧ x.isNaN = opensUndefined numbers ∧ ∀ y ∈ numbers, ¬ before y x

theorem Number.heads_extreme {κ : Type} [LinearOrder κ] {key : Float → κ}
    {before : Float → Float → Prop} [DecidableRel before]
    (orders : ∀ x y, before x y ↔ x.isNaN = false ∧ y.isNaN = false ∧ key x < key y)
    {empty : Float} (proper : empty.isNaN = false) {numbers : List Float}
    (nonempty : numbers ≠ []) : Heads before numbers (extreme before empty numbers) := by
  obtain ⟨x, rest, rfl⟩ := List.exists_cons_of_ne_nil nonempty
  have undefined_iff := extreme_isNaN orders proper (x :: rest)
  cases undefined : x.isNaN with
  | true =>
      have held := firstOf_undefined orders undefined rest
      refine ⟨List.mem_cons.mpr (Or.inl held), undefined_iff, fun y _ earlier => ?_⟩
      have defined := ((orders _ _).mp earlier).2.1
      rw [extreme, held, undefined] at defined
      cases defined
  | false =>
      obtain ⟨found, -, first⟩ := firstOf_spec orders x undefined rest
      refine ⟨found, undefined_iff, fun y among earlier => ?_⟩
      obtain ⟨proper, -, less⟩ := (orders _ _).mp earlier
      exact absurd (first y among proper) (not_le.mpr less)

/-- The least and the greatest of numbers in two orders are the same exactly if an undefined number
comes first in both of the orders or in none; so they do not depend on the order of numbers none of
which is undefined.  No number comes before the result in the order of numbers, or in the opposite
one. -/
theorem extremes_of_perm {numbers others : List Float} (perm : numbers.Perm others) (room : Nat)
    (store : Store) :
    ∃ least least' greatest greatest' : Float,
      Native.perform room .least (numbers.map .number) store = .ok (.number least) store ∧
      Native.perform room .least (others.map .number) store = .ok (.number least') store ∧
      Native.perform room .greatest (numbers.map .number) store =
        .ok (.number greatest) store ∧
      Native.perform room .greatest (others.map .number) store =
        .ok (.number greatest') store ∧
      (Number.Same least least' ↔
        Number.opensUndefined numbers = Number.opensUndefined others) ∧
      (Number.Same greatest greatest' ↔
        Number.opensUndefined numbers = Number.opensUndefined others) ∧
      (numbers ≠ [] → Number.Heads (fun x y => x < y) numbers least ∧
        Number.Heads (fun x y => y < x) numbers greatest) := by
  refine ⟨_, _, _, _, perform_least room store numbers, perform_least room store others,
    perform_greatest room store numbers, perform_greatest room store others, ?_, ?_, ?_⟩
  · have placed (x y : Float) (first : x.isNaN = false) (second : y.isNaN = false) :=
      @Number.beq_of_place x y first second
    exact Number.same_extreme_iff Number.rises placed (by decide) perm
  · have placed (x y : Float) (first : x.isNaN = false) (second : y.isNaN = false)
        (same : OrderDual.toDual (Number.place x) = OrderDual.toDual (Number.place y)) :=
      Number.beq_of_place first second (OrderDual.toDual.injective same)
    exact Number.same_extreme_iff Number.falls placed (by decide) perm
  · intro nonempty
    exact ⟨Number.heads_extreme Number.rises (by decide) nonempty,
      Number.heads_extreme Number.falls (by decide) nonempty⟩

/-- An undefined number that comes first is the least number, and passed over if it comes last. -/
theorem extremes_of_perm_undefined :
    [Number.notANumber, 1].Perm [1, Number.notANumber] ∧
      ∃ least least' : Float,
        Native.perform 9 .least [.number Number.notANumber, .number 1] {} =
          .ok (.number least) {} ∧
        Native.perform 9 .least [.number 1, .number Number.notANumber] {} =
          .ok (.number least') {} ∧
        ¬ Number.Same least least' := by
  have perm : [Number.notANumber, 1].Perm [1, Number.notANumber] := .swap ..
  obtain ⟨least, least', -, -, first, second, -, -, same, -⟩ := extremes_of_perm perm 9 {}
  refine ⟨perm, least, least', first, second, fun alike => ?_⟩
  exact absurd (same.mp alike) (by decide)

end Scriptlet
