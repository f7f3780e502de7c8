import Scriptlet.Proofs.Mirror.Session

/-!
# Renamed runners

Translations that rename runners and nothing else.  Two runs under such a translation have the same
values and bindings; only the runners of functions and modules, and the lines that errors quote, may
differ.
-/

namespace Scriptlet

mutual

/-- Data in which everything keeps its name stays the same. -/
theorem Data.rename_same {closures : ClosureId → ClosureId} {objects : ObjectId → ObjectId}
    (sameClosures : ∀ id, closures id = id) (sameObjects : ∀ id, objects id = id) :
    ∀ data : Data, data.rename closures objects = data
  | .null | .bool _ | .int _ | .float _ | .text _ | .foreign => rfl
  | .closure id => congrArg Data.closure (sameClosures id)
  | .host id => congrArg Data.host (sameObjects id)
  | .list items => congrArg Data.list (renameAll_same sameClosures sameObjects items)
  | .table fields => congrArg Data.table (renameTable_same sameClosures sameObjects fields)

theorem Data.renameAll_same {closures : ClosureId → ClosureId} {objects : ObjectId → ObjectId}
    (sameClosures : ∀ id, closures id = id) (sameObjects : ∀ id, objects id = id) :
    ∀ items : List Data, renameAll closures objects items = items
  | [] => rfl
  | item :: rest =>
      congrArg₂ List.cons (rename_same sameClosures sameObjects item)
        (renameAll_same sameClosures sameObjects rest)

theorem Data.renameTable_same {closures : ClosureId → ClosureId} {objects : ObjectId → ObjectId}
    (sameClosures : ∀ id, closures id = id) (sameObjects : ∀ id, objects id = id) :
    ∀ fields : List (String × Data), renameTable closures objects fields = fields
  | [] => rfl
  | (name, item) :: rest =>
      congrArg₂ (fun data others => (name, data) :: others)
        (rename_same sameClosures sameObjects item)
        (renameTable_same sameClosures sameObjects rest)

end

/-- The translation that renames runners. -/
def Translation.renaming (runner : RunnerId → RunnerId) : Translation where
  runner := runner

namespace Translation

variable (rename : RunnerId → RunnerId)

@[simp] theorem renaming_arrays : (Translation.renaming rename).arrays = 0 := rfl
@[simp] theorem renaming_closures : (Translation.renaming rename).closures = 0 := rfl
@[simp] theorem renaming_objects (id : ObjectId) :
    (Translation.renaming rename).objects id = id := rfl
@[simp] theorem renaming_unit (unit : UnitId) :
    (Translation.renaming rename).unit unit = unit := rfl
@[simp] theorem renaming_runner (id : RunnerId) :
    (Translation.renaming rename).runner id = rename id := rfl

instance : (Translation.renaming rename).Plain :=
  ⟨Function.injective_id, rfl, rfl⟩

end Translation

section Renaming

variable {rename : RunnerId → RunnerId}

/-! ## Values and bindings -/

theorem renaming_free (names : List String) : (Translation.renaming rename).Free names :=
  fun _ _ => rfl

theorem renaming_freeModule (disk : Disk) (path : String) :
    (Translation.renaming rename).FreeModule disk path :=
  fun _ _ _ _ _ => renaming_free _

@[simp]
theorem renaming_value (value : Value) : (Translation.renaming rename).value value = value := by
  cases value <;> simp

theorem renaming_value_eq : (Translation.renaming rename).value = id :=
  funext renaming_value

theorem renaming_data (data : Data) : (Translation.renaming rename).data data = data :=
  Data.rename_same Nat.zero_add (fun _ => rfl) data

theorem renaming_data_eq : (Translation.renaming rename).data = id :=
  funext renaming_data

theorem mapValues_id {α : Type} (table : Assoc α) : table.mapValues id = table := by
  unfold Assoc.mapValues
  exact List.map_id table

theorem renaming_field_eq : (Translation.renaming rename).field = id := by
  funext field
  cases field with
  | value held => exact congrArg Field.value (renaming_value held)
  | raw data => exact congrArg Field.raw (renaming_data data)

theorem renaming_native (operation : Native) :
    (Translation.renaming rename).native operation = operation := by
  cases operation with
  | bound method receiver => exact congrArg (Native.bound method) (renaming_value receiver)
  | boundCopy method receiver => exact congrArg (Native.boundCopy method) (renaming_data receiver)
  | _ => rfl

theorem renaming_bindings {left right : Assoc Value} :
    (Translation.renaming rename).Bindings left right ↔ right = left := by
  have all (bindings : Assoc Value) : (Translation.renaming rename).visible bindings = bindings :=
    List.filter_eq_self.mpr fun _ _ => rfl
  unfold Naming.Bindings
  rw [all, all, renaming_value_eq, mapValues_id]

theorem renaming_scope {left right : Scope} :
    (Translation.renaming rename).Scope left right ↔ right = left := by
  constructor
  · intro alike
    cases left
    cases right
    rw [Scope.mk.injEq]
    exact ⟨alike.name, alike.parent, renaming_bindings.mp alike.bindings⟩
  · rintro rfl
    exact ⟨rfl, rfl, renaming_bindings.mpr rfl⟩

/-! ## Runners of functions and modules -/

/-- The runners of the modules that an action runs. -/
def Action.moduleRunners : Action → List RunnerId
  | .control (.runModule _ _ runner) => [runner]
  | _ => []

/-- The runners of the modules that a host object runs when it is called. -/
def HostObject.moduleRunners : HostObject → List RunnerId
  | .function _ action | .factory _ action _ => action.moduleRunners
  | _ => []

theorem renaming_action {action : Action} :
    (Translation.renaming rename).action action = action ↔
      ∀ runner ∈ action.moduleRunners, rename runner = runner := by
  cases action with
  | native operation =>
      simp [Naming.action, renaming_native, Action.moduleRunners]
  | control operation =>
      cases operation <;> simp [Naming.action, Naming.control, Action.moduleRunners]

theorem renaming_object {object : HostObject} :
    (Translation.renaming rename).object object = object ↔
      ∀ runner ∈ object.moduleRunners, rename runner = runner := by
  cases object with
  | function name action =>
      simp [Naming.object, HostObject.moduleRunners, ← renaming_action]
  | factory name action members =>
      simp [Naming.object, HostObject.moduleRunners, ← renaming_action, renaming_data_eq,
        mapValues_id]
  | group | scheduler | record =>
      simp [Naming.object, HostObject.moduleRunners, renaming_data_eq, renaming_field_eq,
        mapValues_id]
  | loaded path run => simp [Naming.object, HostObject.moduleRunners]

theorem renaming_closure {closure : Closure} :
    (Translation.renaming rename).closure closure = closure ↔
      rename closure.runner = closure.runner := by
  cases closure
  simp [Naming.closure]

/-- The runners of all functions and modules that a store holds keep their names. -/
structure Store.Fixed (rename : RunnerId → RunnerId) (store : Store) : Prop where
  closures : ∀ closure ∈ store.closures, rename closure.runner = closure.runner
  objects : ∀ object ∈ store.objects, ∀ runner ∈ object.moduleRunners, rename runner = runner

theorem Aligned.refl {α : Type} {alike : α → α → Prop} {items : Array α}
    (same : ∀ item ∈ items, alike item item) : Aligned 0 alike items items where
  size := (Nat.zero_add _).symm
  items i := by
    rw [Nat.zero_add]
    cases found : items[i]? with
    | none => exact .none
    | some item => exact .some (same item (Array.mem_of_getElem? found))

theorem renaming_stores {store : Store} :
    (Translation.renaming rename).Stores store store ↔ store.Fixed rename := by
  constructor
  · intro stores
    have same {α : Type} {alike : α → α → Prop} {items : Array α}
        (aligned : Aligned 0 alike items items) {item : α} (found : item ∈ items) :
        alike item item := by
      obtain ⟨i, found⟩ := Array.mem_iff_getElem?.mp found
      obtain ⟨other, foundOther, alike⟩ := aligned.some_of_left found
      rw [Nat.zero_add, found] at foundOther
      cases foundOther
      exact alike
    constructor
    · exact fun closure found => renaming_closure.mp (same stores.closures found).1.symm
    · intro object found
      have aligned := stores.objects.aligned fun id => (Nat.zero_add id).symm
      exact renaming_object.mp (same aligned found).1.symm
  · intro fixed
    have jobs (job : Job) : (Translation.renaming rename).Jobs job job := by
      refine ⟨(renaming_value _).symm, ?_, ?_⟩
      · rw [renaming_value_eq, List.map_id]
      · cases job.state with
        | waiting requested => exact .waiting requested
        | running requested => exact .running requested
        | returned value =>
            have same : (Translation.renaming rename).States _ _ := .returned value
            rwa [renaming_value] at same
        | failed fault => exact .failed (.refl fault)
        | cancelled => exact .cancelled
    exact {
      arrays := .refl fun items _ => by rw [renaming_value_eq, Array.map_id]
      closures := .refl fun closure found =>
        ⟨(renaming_closure.mpr (fixed.closures closure found)).symm, renaming_free _⟩
      objects := .of_aligned (.refl fun object found =>
        ⟨(renaming_object.mpr (fixed.objects object found)).symm, fun _ _ => renaming_free _⟩)
        fun id => (Nat.zero_add id).symm
      methods := rfl
      schedule := ⟨.refl fun job _ => jobs job, rfl, rfl, rfl, rfl⟩
      random := rfl
      clock := rfl
      output := rfl
      journal := rfl
      noted := fun _ => rfl }

/-- Machines that differ in their runners only. -/
theorem renaming_machines {machine : Machine} {left right : Array Runner}
    (fixed : machine.store.Fixed rename)
    (runners : ∀ id : RunnerId, Option.Rel Runner.Alike left[id]? right[rename id]?) :
    (Translation.renaming rename).Machines { machine with runners := left }
      { machine with runners := right } where
  scopes := .refl fun _ _ => renaming_scope.mpr rfl
  runners := runners
  units _ _ := rfl
  constructed := (List.map_id' machine.constructed).symm
  depthLimit := rfl
  disk := rfl
  consulted := rfl
  read _ := rfl
  store := renaming_stores.mpr fixed

end Renaming

/-! ## Known runners -/

/-- The functions and modules that a machine holds belong to runners of the machine. -/
def Machine.RunnersKnown (machine : Machine) : Prop :=
  (∀ closure ∈ machine.store.closures, closure.runner < machine.runners.size) ∧
    ∀ object ∈ machine.store.objects, ∀ runner ∈ object.moduleRunners,
      runner < machine.runners.size

/-- Leaves out a name of runners. -/
def skipping (unknown id : Nat) : Nat :=
  if id < unknown then id else id + 1

theorem skipping_eq_self {unknown id : Nat} : skipping unknown id = id ↔ id < unknown := by
  unfold skipping
  split <;> simp_all

theorem skipping_of_le {unknown id : Nat} (beyond : unknown ≤ id) : skipping unknown id = id + 1 :=
  if_neg (Nat.not_lt_of_le beyond)

theorem skipping_injective (unknown : Nat) : Function.Injective (skipping unknown) := by
  intro first second same
  unfold skipping at same
  split at same <;> split at same <;> omega

theorem Machine.runnersKnown_iff {machine : Machine} :
    machine.RunnersKnown ↔ machine.store.Fixed (skipping machine.runners.size) := by
  constructor
  · rintro ⟨closures, objects⟩
    exact ⟨fun closure found => skipping_eq_self.mpr (closures closure found),
      fun object found runner runs => skipping_eq_self.mpr (objects object found runner runs)⟩
  · rintro ⟨closures, objects⟩
    exact ⟨fun closure found => skipping_eq_self.mp (closures closure found),
      fun object found runner runs => skipping_eq_self.mp (objects object found runner runs)⟩

/-- From machines whose functions and modules belong to known runners, mirrored steps lead to such
machines, with the same runners. -/
theorem Machine.RunnersKnown.of_paired {α : Type} {machine : Machine}
    {results : α → α → Prop} {outcome : EStateM.Result Fault Machine α}
    (ended : Paired ((Translation.renaming (skipping machine.runners.size)).Reached machine machine)
      results outcome outcome) :
    (endState outcome).RunnersKnown ∧ machine.Restores (endState outcome) := by
  obtain ⟨machines, restores, -⟩ := ended.endStates
  have size : (endState outcome).runners.size = machine.runners.size := by
    simpa using congrArg Array.size restores.runners
  refine ⟨Machine.runnersKnown_iff.mpr ?_, restores⟩
  rw [size]
  exact renaming_stores.mp machines.store

/-- A machine whose functions and modules belong to known runners mirrors itself when the name of
the next runner is left out. -/
theorem Machine.RunnersKnown.machines {machine : Machine} (known : machine.RunnersKnown) :
    (Translation.renaming (skipping machine.runners.size)).Machines machine machine := by
  refine renaming_machines (Machine.runnersKnown_iff.mp known) fun id => ?_
  unfold skipping
  split
  · exact Runner.Alike.rel_self _
  · rename_i beyond
    rw [Array.getElem?_eq_none (Nat.le_of_not_lt beyond),
      Array.getElem?_eq_none (Nat.le_succ_of_le (Nat.le_of_not_lt beyond))]
    exact .none

theorem renaming_depths {room : Nat} (machine : Machine) :
    (Translation.renaming (skipping machine.runners.size)).Depths room machine machine := by
  refine .equal (skipping_injective _) fun id runner other found foundThere => ?_
  have inside : id < machine.runners.size := (Array.getElem?_eq_some_iff.mp found).1
  change machine.runners[skipping machine.runners.size id]? = _ at foundThere
  rw [skipping_eq_self.mpr inside, found] at foundThere
  cases foundThere
  rfl

theorem runProgram_runnersKnown {machine : Machine} (known : machine.RunnersKnown)
    {runner : RunnerId} (running : runner < machine.runners.size) (unit : UnitId) (scope : ScopeId)
    (program : Program) :
    (endState (runProgram runner unit scope program machine)).RunnersKnown ∧
      machine.Restores (endState (runProgram runner unit scope program machine)) := by
  have ended :
      Paired ((Translation.renaming (skipping machine.runners.size)).Reached machine machine) _
      (runProgram runner unit scope program machine)
      (runProgram (skipping machine.runners.size runner) unit scope program machine) :=
    runProgram_paired known.machines (renaming_depths machine) (renaming_free _)
      fun path _ => renaming_freeModule machine.disk path
  rw [skipping_eq_self.mpr running] at ended
  exact Machine.RunnersKnown.of_paired ended

end Scriptlet
