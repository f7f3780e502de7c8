import Scriptlet.Proofs.Mirror.Runners
import Scriptlet.Proofs.Session.Standard

/-!
# Closed machines

A machine is closed if it names only objects and units that it has.  Then the others may get any
names.  Whatever runs on a closed machine leaves it closed: a run is the same when the names that it
does not reach are other ones.
-/

namespace Scriptlet

/-! ## Relocations -/

/-- Other names for objects and units, of which the first ones keep theirs. -/
structure Relocation where
  objects : ObjectId → ObjectId
  unit : UnitId → UnitId
  /-- How many objects keep their names. -/
  objectCount : Nat
  unitCount : Nat
  injective : Function.Injective objects
  objects_eq : ∀ id < objectCount, objects id = id
  unit_eq : ∀ id < unitCount, unit id = id

namespace Relocation

variable (R : Relocation)

/-- The names of a relocation, which need not go on beyond those that are kept. -/
def translation : Translation where
  objects := R.objects
  unit := R.unit
  objectLimit := some R.objectCount
  unitLimit := some R.unitCount

/-- The relocation that leaves all names. -/
def still (machine : Machine) : Relocation where
  objects := id
  unit := id
  objectCount := machine.store.objects.size
  unitCount := machine.units
  injective := Function.injective_id
  objects_eq _ _ := rfl
  unit_eq _ _ := rfl

/-- All objects and units of a machine keep their names. -/
structure Covers (machine : Machine) : Prop where
  objects : machine.store.objects.size ≤ R.objectCount
  units : machine.units ≤ R.unitCount

variable {R}

theorem Covers.before {before after : Machine} (covers : R.Covers after)
    (grown : before.Grown after) : R.Covers before :=
  ⟨Nat.le_trans grown.objects covers.objects, Nat.le_trans grown.units covers.units⟩

theorem objects_goOn (size : Nat) :
    GoesOn R.translation.objectLimit R.translation.objects size size :=
  fun _ within => R.objects_eq _ (within R.objectCount rfl)

theorem units_goOn (units : Nat) : GoesOn R.translation.unitLimit R.translation.unit units units :=
  fun _ within => R.unit_eq _ (within R.unitCount rfl)

/-- The relocation that leaves out the name of the next unit. -/
def skippingUnit (R : Relocation) : Relocation :=
  { R with
    unit := skipping R.unitCount
    unit_eq := fun _ => skipping_eq_self.mpr }

theorem free (names : List String) : R.translation.Free names :=
  fun _ _ => rfl

theorem depths {room : Nat} (machine : Machine) : R.translation.Depths room machine machine :=
  (Machine.Restores.refl machine).depths rfl

theorem safe {after : Machine} (covers : R.Covers after)
    (distinct : ∀ mark ∈ after.constructed, ∀ other ∈ after.constructed,
      R.translation.mark mark = R.translation.mark other → mark = other) (disk : Disk) :
    R.translation.Safe disk after where
  free _ _ _ _ _ _ _ := free _
  distinct := distinct
  units := by
    rintro _ ⟨⟩
    exact covers.units
  objects := by
    rintro _ ⟨⟩
    exact covers.objects

theorem mark_eq {mark : UnitId × Nat} (known : mark.1 < R.unitCount) :
    R.translation.mark mark = mark :=
  Prod.ext (R.unit_eq _ known) rfl

theorem skippingUnit_mark_injective : Function.Injective R.skippingUnit.translation.mark :=
  fun _ _ same =>
    Prod.ext (skipping_injective R.unitCount (congrArg Prod.fst same)) (congrArg Prod.snd same :)

theorem mark_lt {machine : Machine} (machines : R.skippingUnit.translation.Machines machine machine)
    {mark : UnitId × Nat} (made : mark ∈ machine.constructed) : mark.1 < R.unitCount := by
  have same := machines.constructed
  nth_rewrite 1 [← List.map_id machine.constructed] at same
  exact skipping_eq_self.mp (congrArg Prod.fst (List.map_inj_left.mp same mark made)).symm

/-- Code of a unit that keeps its name. -/
theorem context_eq {context : Context} (known : context.unit < R.unitCount) :
    R.translation.context context = context :=
  congrArg (Context.mk context.runner · context.scope) (R.unit_eq _ known)

end Relocation

/-- Steps that do the same from a machine under all relocations that leave the names of what
they come to. -/
def Relocatable {α : Type} (machine : Machine) (steps : MachineM α) : Prop :=
  ∀ R : Relocation, R.Covers (endState (steps machine)) →
    ∃ (bound : Nat) (results : α → α → Prop), Mirrored R.translation bound results steps steps

/-! ## Closed machines -/

/-- A machine that names only objects and units that it has: it stays as it is, whatever names the
others get. -/
def Machine.Closed (machine : Machine) : Prop :=
  ∀ R : Relocation, R.Covers machine → R.translation.Machines machine machine

namespace Machine.Closed

variable {machine : Machine}

theorem reached {α : Type} {steps : MachineM α} (closed : machine.Closed)
    (same : Relocatable machine steps) {R : Relocation}
    (covers : R.Covers (endState (steps machine)))
    (distinct : ∀ mark ∈ (endState (steps machine)).constructed,
      ∀ other ∈ (endState (steps machine)).constructed,
        R.translation.mark mark = R.translation.mark other → mark = other) :
    R.translation.Reached machine machine (endState (steps machine))
      (endState (steps machine)) := by
  obtain ⟨bound, results, mirrored⟩ := same R covers
  exact (mirrored.ended machine machine (closed R (covers.before (mirrored.grows machine)))
    (R.depths machine) (R.safe covers distinct _)).endStates

/-- Such steps leave a closed machine closed, with its runners as they were. -/
theorem after {α : Type} {steps : MachineM α} (closed : machine.Closed)
    (same : Relocatable machine steps) :
    (endState (steps machine)).Closed ∧ machine.Restores (endState (steps machine)) := by
  -- Leaving out the next unit tells that all marks belong to units that keep their names.
  have skipped {R : Relocation} (covers : R.Covers (endState (steps machine))) :
      R.skippingUnit.translation.Reached machine machine (endState (steps machine))
        (endState (steps machine)) :=
    closed.reached same ⟨covers.objects, covers.units⟩
      fun _ _ _ _ marks => R.skippingUnit_mark_injective marks
  have whole : (Relocation.still (endState (steps machine))).Covers (endState (steps machine)) :=
    ⟨Nat.le_refl _, Nat.le_refl _⟩
  refine ⟨fun R covers => ?_, (skipped whole).2.1⟩
  have marks : ∀ mark ∈ (endState (steps machine)).constructed, mark.1 < R.unitCount :=
    fun mark made => R.mark_lt (skipped covers).1 made
  refine (closed.reached same covers fun mark made other too equal => ?_).1
  rwa [R.mark_eq (marks mark made), R.mark_eq (marks other too)] at equal

/-- A machine whose scopes bind nothing and whose store is new is closed. -/
theorem of_new (scopes : ∀ scope ∈ machine.scopes, scope.bindings = [])
    (marks : machine.constructed = []) {clock : Float}
    (store : machine.store = { clock := clock }) :
    machine.Closed := by
  intro R covers
  refine {
    scopes := .refl fun scope found => ⟨rfl, rfl, ?_⟩
    runners := fun _ => Runner.Alike.rel_self _
    units := R.units_goOn _
    constructed := ?_
    depthLimit := rfl
    disk := rfl
    consulted := rfl
    read := fun _ => rfl
    store := ?_ }
  · rw [Naming.Bindings, scopes scope found]
    rfl
  · rw [marks]
    rfl
  · rw [store]
    exact {
      arrays := .refl nofun
      closures := .refl nofun
      objects := ⟨R.injective, R.objects_goOn 0, fun i => by simp⟩
      methods := rfl
      schedule :=
        ⟨.refl fun job found => absurd found (Array.not_mem_empty job), rfl, rfl, rfl, rfl⟩
      random := rfl
      clock := rfl
      output := rfl
      journal := rfl
      noted := fun _ => rfl }

theorem unused (disk : Disk) (depthLimit : Nat) (clock : Float) :
    (Machine.unused disk depthLimit clock).Closed :=
  of_new nofun rfl rfl

theorem openEnvironment (closed : machine.Closed) (settings : Settings) (entropy : Int) :
    (endState (openEnvironment settings entropy machine)).Closed :=
  (closed.after fun _ _ => ⟨0, _, openEnvironment_mirrored settings entropy⟩).1

theorem evaluate (closed : machine.Closed) {context : Context}
    (known : context.unit < machine.units) (room : Nat) (expression : Expr) :
    (endState (evaluate context room expression machine)).Closed ∧
      machine.Restores (endState (evaluate context room expression machine)) := by
  refine closed.after fun R covers => ?_
  have same := (roomMirrored R.translation room (Nat.le_refl room)).evaluate context
    (R.free expression.names)
  have inside := (covers.before (same.grows machine)).units
  rw [R.context_eq (Nat.lt_of_lt_of_le known inside)] at same
  exact ⟨_, _, same⟩

theorem runProgram (closed : machine.Closed) (runner : RunnerId) {unit : UnitId}
    (known : unit < machine.units) (scope : ScopeId) (program : Program) :
    (endState (runProgram runner unit scope program machine)).Closed := by
  have ended : (endState (programSteps ⟨runner, unit, scope⟩ (stackRoom machine.depthLimit)
      program.body machine)).Closed := by
    refine (closed.after fun R covers => ?_).1
    have same := programSteps_mirrored ⟨runner, unit, scope⟩ (stackRoom machine.depthLimit)
      (R.free (bodyNames program.body))
    have inside := (covers.before (same.grows machine)).units
    rw [R.context_eq (Nat.lt_of_lt_of_le known inside)] at same
    exact ⟨_, _, same⟩
  rw [runProgram_run]
  revert ended
  cases programSteps ⟨runner, unit, scope⟩ (stackRoom machine.depthLimit) program.body machine <;>
    exact id

/-- Names may be bound to what a closed machine has. -/
theorem define (closed : machine.Closed) (scope : ScopeId) (name : String) {value : Value}
    (known : ∀ id, value = .host id → id < machine.store.objects.size) :
    ({ machine with scopes := machine.scopes.define scope name value } : Machine).Closed := by
  intro R covers
  have machines := closed R ⟨covers.objects, covers.units⟩
  have same : R.translation.value value = value := by
    cases value with
    | host id =>
        have kept := Nat.lt_of_lt_of_le (known id rfl) covers.objects
        exact congrArg Value.host (R.objects_eq id kept)
    | _ => simp [Relocation.translation]
  have defined := machines.scopes.define scope name value
  rw [same] at defined
  exact { machines with scopes := defined }

/-- Further runners and units leave a machine closed. -/
theorem counting (closed : machine.Closed) (runners : Array Runner) {units : Nat}
    (more : machine.units ≤ units) :
    ({ machine with runners := runners, units := units } : Machine).Closed := by
  intro R covers
  exact { closed R ⟨covers.objects, Nat.le_trans more covers.units⟩ with
    runners := fun _ => Runner.Alike.rel_self _
    units := R.units_goOn _ }

/-- However a text is run on a closed machine, the machine stays closed. -/
theorem runSource (closed : machine.Closed) (moduleRoot : Option String) (scope : ScopeId)
    (source : String) (file : Option String) :
    (endState (runSource moduleRoot scope source file machine)).Closed := by
  rw [runSource_run]
  dsimp only
  cases Program.ofSource (stackRoom machine.depthLimit) source file with
  | error fault => exact closed.counting _ (Nat.le_refl _)
  | ok program => exact (closed.counting _ (Nat.le_succ _)).runProgram _ (Nat.lt_succ_self _) _ _

end Machine.Closed

end Scriptlet
