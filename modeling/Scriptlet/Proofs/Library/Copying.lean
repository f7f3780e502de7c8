import Scriptlet.Evaluator
import Scriptlet.Proofs.Machine.Course
import Scriptlet.Proofs.Value.Copies

/-!
# Operations on copies

An operation of the host that works on plain data gets copies of the arrays among its arguments,
and what it gives becomes a new value.  Whatever it does with its arguments, the arrays of the
script stay as they are; and whatever the script does with the result, no other array is part of it.
The same holds of a function of a script that the host calls back.
-/

namespace Scriptlet

/-- The operation adds cells to the store, also when it fails, and changes no others. -/
def OnlyAdds {α : Type} (operation : StoreM α) : Prop :=
  ∀ store : Store, store.Grows (endState (operation store))

/-- An operation that works on copies: it only adds cells, and no array that was there before is
part of its result. -/
structure WorksApart (operation : StoreM Value) : Prop where
  adds : OnlyAdds operation
  fresh : ∀ store result after, operation store = .ok result after →
    after.Fresh store.arrays.size result

namespace OnlyAdds

variable {α β : Type}

theorem pure (value : α) : OnlyAdds (pure value) := fun store => .refl store

theorem throw (fault : Fault) : OnlyAdds (throw fault : StoreM α) := fun store => .refl store

theorem ofExcept (answer : Except Fault α) : OnlyAdds (ofExcept answer : StoreM α) := by
  intro store
  cases answer <;> exact .refl store

theorem bind {first : StoreM α} {next : α → StoreM β} (before : OnlyAdds first)
    (after : ∀ value, OnlyAdds (next value)) : OnlyAdds (first >>= next) := by
  intro store
  have start := before store
  cases run : first store with
  | ok value middle =>
      rw [run] at start
      rw [bind_of_ok run]
      exact start.trans (after value middle)
  | error fault middle =>
      rw [run] at start
      rw [bind_of_error run]
      exact start

theorem looking {next : Store → StoreM β} (after : ∀ store, OnlyAdds (next store)) :
    OnlyAdds (get >>= next) :=
  fun store => after store store

theorem checking {answer : Except Fault α} {next : α → StoreM β}
    (after : ∀ value, OnlyAdds (next value)) : OnlyAdds (MonadExcept.ofExcept answer >>= next) :=
  .bind (.ofExcept answer) after

theorem get : OnlyAdds (get : StoreM Store) := fun store => .refl store

end OnlyAdds

/-! ## Data that becomes a value -/

theorem wrap_apart (data : Data) : WorksApart data.wrap where
  adds store := (wrap_grows store data store).endState (.refl store)
  fresh _ _ _ run := Store.wrap_fresh run

theorem wrapAll_adds (items : List Data) : OnlyAdds (Data.wrapAll items) :=
  fun store => (wrapAll_grows store items store).endState (.refl store)

/-- Steps that only add cells do not spoil an operation that works on copies after them. -/
theorem WorksApart.bind {α : Type} {first : StoreM α} {next : α → StoreM Value}
    (before : OnlyAdds first) (after : ∀ value, WorksApart (next value)) :
    WorksApart (first >>= next) where
  adds := .bind before fun value => (after value).adds
  fresh store result last run := by
    obtain ⟨value, middle, first, run⟩ := bind_ok run
    have start := before store
    rw [first] at start
    exact ((after value).fresh middle result last run).mono start.arrays_size_le

/-- Whatever an implementation does, it is given data, and all cells that are there when it ends
stay as they are while its result becomes a value. -/
theorem onData_apart (room : Nat) (arguments : List Value)
    (implementation : List Data → StoreM Data) (store : Store) :
    (∃ fault, arguments.mapM (store.unwrap room) = .error fault ∧
        onData room arguments implementation store = .error fault store) ∨
      ∃ items, arguments.mapM (store.unwrap room) = .ok items ∧
        (endState (implementation items store)).Grows
          (endState (onData room arguments implementation store)) ∧
        ∀ result after, onData room arguments implementation store = .ok result after →
          after.Fresh (endState (implementation items store)).arrays.size result := by
  have unfolded : onData room arguments implementation store =
      (ofExcept (arguments.mapM (store.unwrap room)) >>= fun items =>
        implementation items >>= Data.wrap : StoreM Value) store := rfl
  rw [unfolded]
  cases copied : arguments.mapM (store.unwrap room) with
  | error fault => exact .inl ⟨fault, rfl, rfl⟩
  | ok items =>
      refine .inr ⟨items, rfl, ?_⟩
      change (endState (implementation items store)).Grows
          (endState ((implementation items >>= Data.wrap) store)) ∧
        ∀ result after, (implementation items >>= Data.wrap) store = .ok result after →
          after.Fresh (endState (implementation items store)).arrays.size result
      cases run : implementation items store with
      | error fault middle =>
          rw [bind_of_error run]
          exact ⟨.refl middle, nofun⟩
      | ok data middle =>
          rw [bind_of_ok run]
          exact ⟨(wrap_apart data).adds middle, (wrap_apart data).fresh middle⟩

theorem onData_worksApart (room : Nat) (arguments : List Value)
    {implementation : List Data → StoreM Data} (adds : ∀ items, OnlyAdds (implementation items)) :
    WorksApart (onData room arguments implementation) := by
  refine .bind .get fun store => .bind (.ofExcept _) fun items => ?_
  exact .bind (adds items) wrap_apart

/-! ## The library -/

/-- Whether an operation works on the data of its arguments. -/
def Native.takesData : Native → Bool
  | .bound .. | .writeJson | .readJson | .print | .log | .spawn | .cancel => false
  | _ => true

theorem addObject_adds (object : HostObject) : OnlyAdds (Store.addObject object) :=
  fun store => .push_object store object

theorem drawNumber_adds : OnlyAdds drawNumber :=
  fun _ => ⟨fun _ _ found => found, fun _ _ found => found⟩

theorem dateAt_adds (milliseconds : Float) : OnlyAdds (dateAt milliseconds) := by
  unfold dateAt
  split
  · exact .bind (.bind (addObject_adds _) fun _ => addObject_adds _) fun _ => .pure _
  · exact .throw _

theorem makeDate_adds (room : Nat) (arguments : List Data) :
    OnlyAdds (makeDate room arguments) := by
  refine .checking fun _ => .looking fun store => ?_
  split
  · exact dateAt_adds _
  · exact dateAt_adds _
  · exact dateAt_adds _
  · exact .checking fun _ => .throw _

theorem implementation_adds (implementation : Implementation) (items : List Data) :
    OnlyAdds (implementation.perform items) := by
  unfold Implementation.perform
  split
  · rename_i answer _
    cases answer with
    | data held => exact .pure held
    | record typeName fields => exact .bind (addObject_adds _) fun _ => .pure _
  · exact .throw _

/-- A function that a host offers works on copies. -/
theorem hosted_apart (implementation : Implementation) (room : Nat) (arguments : List Value) :
    WorksApart (onData room arguments implementation.perform) :=
  onData_worksApart room arguments (implementation_adds implementation)

/-- Every operation on data works on copies. -/
theorem native_apart {operation : Native} (takesData : operation.takesData = true) (room : Nat)
    (arguments : List Value) : WorksApart (operation.perform room arguments) := by
  unfold Native.perform
  cases operation with
  | boundCopy method receiver =>
      exact onData_worksApart room arguments fun items => implementation_adds _ _
  | bound | writeJson | readJson | print | log | spawn | cancel => cases takesData
  | math | least | greatest =>
      exact onData_worksApart room arguments fun items => .looking fun _ => .ofExcept _
  | random => exact onData_worksApart room arguments fun items => .checking fun _ => drawNumber_adds
  | date => exact onData_worksApart room arguments (makeDate_adds room)
  | now | isDone | isCancelled =>
      exact onData_worksApart room arguments fun items =>
        .checking fun _ => .looking fun _ => .pure _
  | isoNow =>
      exact onData_worksApart room arguments fun items =>
        .checking fun _ => .looking fun _ => .ofExcept _
  | isoAt =>
      exact onData_worksApart room arguments fun items => .checking fun _ => .ofExcept _
  | hosted implementation => exact hosted_apart implementation room arguments

/-! ## Callbacks -/

/-- What a function of the script gives to the host comes back as a copy. -/
theorem copyBack_apart (room : Nat) (value : Value) (machine : Machine) :
    let steps : MachineM Value := do
      let data ← Machine.askStore fun store => store.unwrap room value
      Machine.onStore data.wrap
    machine.store.Grows (endState (steps machine)).store ∧
      ∀ result after, steps machine = .ok result after →
        after.store.Fresh machine.store.arrays.size result := by
  dsimp only
  cases copied : machine.store.unwrap room value with
  | error fault =>
      rw [bind_of_error (askStore_of_error (fun store => store.unwrap room value) copied)]
      exact ⟨.refl _, nofun⟩
  | ok data =>
      rw [bind_of_ok (askStore_of_ok (fun store => store.unwrap room value) copied)]
      constructor
      · have adds := (wrap_apart data).adds machine.store
        cases run : data.wrap machine.store with
        | ok result after =>
            rw [run] at adds
            rw [onStore_of_ok run]
            exact adds
        | error fault after =>
            rw [run] at adds
            rw [onStore_of_error run]
            exact adds
      · exact fun result after run => (wrap_apart data).fresh _ _ _ (onStore_ok run)

/-- Calling back from the host: the function gets values with new arrays, everything that is there
when it ends stays as it is while its result is copied, and none of these is part of the copy. -/
theorem applyData_apart (room : Nat) (call : ClosureId → List Value → MachineM Value)
    (arguments : List Value) (machine : Machine) :
    ∃ start : Machine, machine.store.Grows start.store ∧
      ((∃ fault, applyData room call arguments machine = .error fault start) ∨
        ∃ id passed, (∀ value ∈ passed, start.store.Fresh machine.store.arrays.size value) ∧
          (endState (call id passed start)).store.Grows
            (endState (applyData room call arguments machine)).store ∧
          ∀ result after, applyData room call arguments machine = .ok result after →
            after.store.Fresh (endState (call id passed start)).store.arrays.size result) := by
  unfold applyData
  cases copied : arguments.mapM (machine.store.unwrap room) with
  | error fault =>
      have asked := askStore_of_error (fun store => arguments.mapM (store.unwrap room)) copied
      exact ⟨machine, .refl _, .inl ⟨fault, bind_of_error asked⟩⟩
  | ok items =>
      rw [bind_of_ok (askStore_of_ok (fun store => arguments.mapM (store.unwrap room)) copied)]
      cases Signature.check ⟨"apply", ["f"], 0, true⟩ items.length with
      | error fault => exact ⟨machine, .refl _, .inl ⟨fault, rfl⟩⟩
      | ok checked =>
          rw [bind_of_ok (show (ofExcept (.ok checked) : MachineM Unit) machine =
            .ok checked machine from rfl)]
          split
          · rename_i id rest
            have adds := wrapAll_adds rest machine.store
            cases wrapping : Data.wrapAll rest machine.store with
            | error fault middle =>
                rw [wrapping] at adds
                exact ⟨{ machine with store := middle }, adds, .inl ⟨fault,
                  bind_of_error (onStore_of_error wrapping)⟩⟩
            | ok passed middle =>
                rw [wrapping] at adds
                refine ⟨{ machine with store := middle }, adds, .inr ⟨id, passed,
                  Store.wrapAll_fresh wrapping, ?_⟩⟩
                rw [bind_of_ok (onStore_of_ok wrapping)]
                cases run : call id passed { machine with store := middle } with
                | error fault last =>
                    rw [bind_of_error run]
                    exact ⟨.refl _, nofun⟩
                | ok result last =>
                    rw [bind_of_ok run]
                    exact copyBack_apart room result last
          · exact ⟨machine, .refl _, .inl ⟨_, rfl⟩⟩

/-! ## There and back -/

/-- A value that was given to the host and has come back from it as a copy.  At every place inside
there are the same things, of the same kind and with the same text: other arrays, or the same
number, text, function or object.  The two are equal exactly when no number inside is not a number,
and no array is part of both. -/
structure Store.ComesBack (store later : Store) (value copy : Value) : Prop where
  kept : ∀ path, later.itemAt? path value = store.itemAt? path value
  items : ∀ path, Option.Rel (fun item other => other.kind = item.kind ∧
      (∀ room nested, later.display room nested other = later.display room nested item) ∧
      (item.kind ≠ .array → other = item))
    (later.itemAt? path value) (later.itemAt? path copy)
  equal : ∃ same, Settles (fun room => later.areEqual room value copy) same ∧
    (same = true ↔ store.Proper value)
  apart : ∀ path path' id, later.itemAt? path value = some (.array id) →
    later.itemAt? path' copy ≠ some (.array id)

theorem Store.Acyclic.comesBack {store : Store} {value : Value} (acyclic : store.Acyclic value) :
    ∃ data copy added, Settles (fun room => store.unwrap room value) data ∧
      data.wrap store = .ok copy (store.withArrays added) ∧
      store.ComesBack (store.withArrays added) value copy := by
  obtain ⟨data, copied⟩ := acyclic.copied
  obtain ⟨copy, added, wrapped, isCopy⟩ := copied.wraps store (.refl store)
  have kept := acyclic.itemAt?_grows (store.grows_withArrays added)
  refine ⟨data, copy, added, copied.settles, wrapped, kept, isCopy.itemAt?, ?_, ?_⟩
  · obtain ⟨same, settles, proper⟩ := isCopy.areEqual
    refine ⟨same, settles, proper.trans ?_⟩
    simp only [Store.Proper, kept]
  · intro path path' id reached reached'
    rw [kept] at reached
    exact Nat.not_lt_of_le ((wrap_fresh wrapped).cells path' id reached') (acyclic.cell_lt reached)

/-- A value that does not contain itself comes back from the host as a copy.  So an operation on
data, whatever the host computes, and a method of the host only add cells, and their results have
new arrays; what is there when an implementation of any kind ends stays as it is; and a function
that is called back gets new arrays and gives new ones. -/
theorem wrap_unwrap {store : Store} {value : Value} (acyclic : store.Acyclic value) :
    (∃ data copy added, Settles (fun room => store.unwrap room value) data ∧
        data.wrap store = .ok copy (store.withArrays added) ∧
        store.ComesBack (store.withArrays added) value copy) ∧
      (∀ operation : Native, operation.takesData = true →
        ∀ room arguments, WorksApart (operation.perform room arguments)) ∧
      (∀ method room receiver arguments,
        WorksApart (MethodEntry.perform room (.hosted method) receiver arguments)) ∧
      (∀ room arguments implementation (store : Store) items,
        arguments.mapM (store.unwrap room) = .ok items →
          (endState (implementation items store)).Grows
              (endState (onData room arguments implementation store)) ∧
            ∀ result after, onData room arguments implementation store = .ok result after →
              after.Fresh (endState (implementation items store)).arrays.size result) ∧
      ∀ room call arguments machine,
        ∃ start : Machine, machine.store.Grows start.store ∧
          ((∃ fault, applyData room call arguments machine = .error fault start) ∨
            ∃ id passed,
              (∀ value ∈ passed, start.store.Fresh machine.store.arrays.size value) ∧
              (endState (call id passed start)).store.Grows
                (endState (applyData room call arguments machine)).store ∧
              ∀ result after, applyData room call arguments machine = .ok result after →
                after.store.Fresh (endState (call id passed start)).store.arrays.size result) := by
  refine ⟨acyclic.comesBack, fun _ => native_apart,
    fun method room receiver arguments => hosted_apart method.implementation room _, ?_,
    applyData_apart⟩
  intro room arguments implementation store items copied
  obtain ⟨fault, failed, -⟩ | ⟨items', copied', apart⟩ :=
    onData_apart room arguments implementation store
  · rw [copied] at failed
    cases failed
  · rw [copied] at copied'
    cases copied'
    exact apart

/-- An array that holds another one twice comes back from the host as one that holds two. -/
theorem wrap_unwrap_shared :
    let store : Store :=
      { arrays := #[#[.text "x"], #[.array 0, .array 0, .closure 5, .number (-0)]] }
    store.Acyclic (.array 1) ∧
      (∃ copy added,
        (Data.list [.list [.text "x"], .list [.text "x"], .closure 5, .float (-0)]).wrap store =
            .ok copy (store.withArrays added) ∧
          store.ComesBack (store.withArrays added) (.array 1) copy) ∧
      ∀ implementation room,
        WorksApart ((Native.hosted implementation).perform room [.array 1]) := by
  intro store
  have inner : store.Acyclic (.array 0) := by
    refine .array (show store.arrays[0]? = some #[.text "x"] from rfl) fun item member => .leaf ?_
    obtain rfl := List.mem_singleton.mp member
    nofun
  have acyclic : store.Acyclic (.array 1) := by
    refine .array (show store.arrays[1]? =
      some #[.array 0, .array 0, .closure 5, .number (-0)] from rfl) fun item member => ?_
    simp only [List.mem_cons, List.not_mem_nil, or_false] at member
    obtain rfl | rfl | rfl | rfl := member
    · exact inner
    · exact inner
    · exact .leaf nofun
    · exact .leaf nofun
  obtain ⟨⟨data, copy, added, settles, wrapped, back⟩, operations, -⟩ := wrap_unwrap acyclic
  obtain rfl := settles.only 4
    (.list [.list [.text "x"], .list [.text "x"], .closure 5, .float (-0)]) (by rfl)
  exact ⟨acyclic, ⟨copy, added, wrapped, back⟩,
    fun implementation room => operations (.hosted implementation) rfl room _⟩

end Scriptlet
