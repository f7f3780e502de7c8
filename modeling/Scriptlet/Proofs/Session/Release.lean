import Scriptlet.Proofs.Session.Regime
import Scriptlet.Proofs.Jobs.Handles
import Scriptlet.Proofs.Jobs.Places
import Scriptlet.Proofs.Scope.Frame
import Scriptlet.Proofs.Scope.Assignment

/-!
# Released environments

When a run on a scope of its own ends, the schedule of jobs is looked up in this scope under the
name `Task`.  A name that no code binds keeps its value, and a scheduler stays a scheduler; so the
schedule is found and closed unless the code of the run gives this name to something else.
-/

namespace Scriptlet

/-! ## Schedulers -/

/-- A scope binds `Task` to the operations on jobs. -/
def Machine.FindsScheduler (machine : Machine) (scope : ScopeId) : Prop :=
  ∃ value, machine.scopes.valueIn? scope "Task" = some value ∧
    machine.store.isScheduler value = true

theorem Store.isScheduler_iff {store : Store} {value : Value} : store.isScheduler value = true ↔
    ∃ id members, value = .host id ∧ store.objects[id]? = some (.scheduler members) := by
  unfold Store.isScheduler
  cases value with
  | host id =>
      dsimp only
      split
      · rename_i members found
        exact ⟨fun _ => ⟨id, members, rfl, found⟩, fun _ => rfl⟩
      · rename_i other
        refine ⟨nofun, ?_⟩
        rintro ⟨_, members, ⟨⟩, found⟩
        exact absurd found (other members)
  | _ => exact ⟨nofun, nofun⟩

/-- The operations on jobs are never taken out of a store. -/
theorem Store.Changes.isScheduler {before after : Store} (changes : before.Changes after)
    {value : Value} (held : before.isScheduler value = true) : after.isScheduler value = true := by
  obtain ⟨id, members, rfl, found⟩ := isScheduler_iff.mp held
  exact isScheduler_iff.mpr ⟨id, members, rfl, changes.objectAt (fun _ _ => rfl) found⟩

theorem Machine.Course.isScheduler {kind : List Stmt → Prop} {scope : ScopeId}
    {before after : Machine} (course : before.Course kind scope after) {value : Value}
    (held : before.store.isScheduler value = true) : after.store.isScheduler value = true := by
  obtain ⟨id, members, rfl, found⟩ := Store.isScheduler_iff.mp held
  exact Store.isScheduler_iff.mpr ⟨id, members, rfl, course.objectAt (fun _ _ => rfl) found⟩

/-! ## Names that stay -/

namespace Scopes

theorem root_zero (scopes : Scopes) : scopes.root 0 = 0 := by
  unfold root chain chainWithin
  split <;> rfl

end Scopes

/-- The regime of runs whose code never binds a name: in one scope this name keeps its value. -/
def Regime.keeping (scope : ScopeId) (name : String) (value : Value) (disk : Disk)
    (unbound : ∀ path text room program, disk.readText path = .ok text →
      Program.ofSource room text (some path) = .ok program →
        ∀ part ∈ bodyNodes program.body, part.bound? ≠ some name) : Regime where
  node part := part.bound? ≠ some name
  around scopes _ current := current = disk ∧ scopes.valueIn? scope name = some value
  fault _ := True
  opens _ _ _ held := ⟨held.1, Scopes.valueIn?_push held.2 _⟩
  defines place newValue other binds held := by
    refine ⟨held.1, (Scopes.valueIn?_define_of_ne ?_ place newValue).trans held.2⟩
    rintro rfl
    exact other binds
  assigns place newValue other binds held := by
    refine ⟨held.1, (Scopes.valueIn?_define_of_ne ?_ _ newValue).trans held.2⟩
    rintro rfl
    exact other binds
  counts _ _ held := held
  loads _ held _ := held
  reads := by
    rintro _ _ current path text room program ⟨rfl, -⟩ stored read
    exact unbound path text room program stored read
  fresh _ := trivial
  tagged _ _ := trivial
  located _ _ _ _ _ := trivial

/-! ## Environments -/

/-- Once `Task` has been bound to its operations, the builtins that follow leave it. -/
theorem install_findsScheduler {scope : ScopeId} {seed : Int} {builtins : List Builtin}
    {machine : Machine} (present : scope < machine.scopes.size)
    (found : .task ∈ builtins ∨ machine.FindsScheduler scope) :
    (endState (Builtin.install scope seed builtins machine)).FindsScheduler scope := by
  induction builtins generalizing machine with
  | nil => exact found.resolve_left List.not_mem_nil
  | cons builtin rest ih =>
      obtain ⟨id, store, made, scheduler⟩ := make_ok seed builtin machine.store
      have step : Builtin.install scope seed (builtin :: rest) machine = _ :=
        bind_of_ok (onStore_of_ok made)
      rw [step]
      let bound : Machine := { machine with
        scopes := machine.scopes.define scope builtin.name (.host id), store := store }
      have still : scope < bound.scopes.size := by simpa [bound, Scopes.define] using present
      refine @ih bound still ?_
      by_cases isTask : builtin = .task
      · obtain ⟨members, object⟩ := scheduler isTask
        refine .inr ⟨.host id, ?_, Store.isScheduler_iff.mpr ⟨id, members, rfl, object⟩⟩
        subst isTask
        exact Scopes.valueIn?_define_self present ..
      · have other : builtin.name ≠ "Task" := by
          revert isTask
          cases builtin <;> decide
        refine found.imp (fun later => (List.mem_cons.mp later).resolve_left (Ne.symm isTask)) ?_
        rintro ⟨value, binds, held⟩
        have changes := make_alters seed builtin machine.store
        rw [made] at changes
        exact ⟨value, (Scopes.valueIn?_define_of_ne other ..).trans binds, changes.isScheduler held⟩

/-- A new environment that is to have `Task` finds its scheduler under this name. -/
theorem openEnvironment_findsScheduler {settings : Settings} (chosen : .task ∈ settings.builtins)
    (entropy : Int) (machine : Machine) :
    (endState (openEnvironment settings entropy machine)).FindsScheduler machine.scopes.size := by
  let root : Machine :=
    { machine with scopes := machine.scopes.push { name := "global", parent := none } }
  let seed : Int := settings.randomSeed.getD entropy
  have found : (endState (Builtin.install machine.scopes.size seed settings.builtins
      root)).FindsScheduler machine.scopes.size :=
    install_findsScheduler (by simp [root]) (.inl chosen)
  obtain ⟨opened, run, -⟩ := install_ok machine.scopes.size seed settings.builtins root
  have opening : openEnvironment settings entropy machine = .ok machine.scopes.size opened :=
    bind_of_ok run
  rw [opening]
  rw [run] at found
  exact found

section Release

/-- A scope is released by closing the schedule if its root still binds the scheduler; else nothing
happens. -/
theorem endState_releaseEnvironment (machine : Machine) (scope : ScopeId) :
    endState (releaseEnvironment scope machine) =
      match machine.scopes.valueIn? (machine.scopes.root scope) "Task" with
      | some value => if machine.store.isScheduler value then machine.serve .close else machine
      | none => machine := by
  change endState ((match machine.scopes.valueIn? (machine.scopes.root scope) "Task" with
    | some value =>
        if machine.store.isScheduler value then Machine.onStore closeSchedule else return ()
    | none => return () : MachineM Unit) machine) = _
  cases machine.scopes.valueIn? (machine.scopes.root scope) "Task" with
  | none => rfl
  | some value =>
      dsimp only
      split <;> rfl

variable {machine : Machine} {scope : ScopeId}

/-- A scope whose root still binds the scheduler is released by closing the schedule. -/
theorem releaseEnvironment_of_findsScheduler
    (finds : machine.FindsScheduler (machine.scopes.root scope)) :
    endState (releaseEnvironment scope machine) = machine.serve .close := by
  obtain ⟨value, bound, held⟩ := finds
  rw [endState_releaseEnvironment, bound]
  exact if_pos held

theorem releaseEnvironment_of_not_findsScheduler
    (lost : ¬ machine.FindsScheduler (machine.scopes.root scope)) :
    endState (releaseEnvironment scope machine) = machine := by
  rw [endState_releaseEnvironment]
  cases bound : machine.scopes.valueIn? (machine.scopes.root scope) "Task" with
  | none => rfl
  | some value => exact if_neg fun held => lost ⟨value, bound, held⟩

end Release

/-! ## Runs -/

/-- Nothing waits for a turn, and the loop that gives turns is closed. -/
structure Schedule.IsReleased (schedule : Schedule) : Prop where
  shut : schedule.isOpen = false
  pending : schedule.pending = 0

theorem endState_andFinally {α : Type} (steps : MachineM α) (last : MachineM Unit)
    (machine : Machine) :
    endState (Machine.andFinally steps last machine) =
      endState (last (endState (steps machine))) := by
  unfold Machine.andFinally
  cases steps machine <;>
  · rename_i middle
    dsimp only [endState]
    cases last middle <;> rfl

/-- Neither the text nor any module on the disk has code that binds the name. -/
structure NeverBound (name : String) (depthLimit : Nat) (source : String) (file : Option String)
    (disk : Disk) : Prop where
  program : ∀ program, Program.ofSource (stackRoom depthLimit) source file = .ok program →
    ∀ part ∈ bodyNodes program.body, part.bound? ≠ some name
  modules : ∀ path text room program, disk.readText path = .ok text →
    Program.ofSource room text (some path) = .ok program →
      ∀ part ∈ bodyNodes program.body, part.bound? ≠ some name

/-- How a run leaves the jobs of the environment that has been made for it. -/
structure ReleasesJobs (settings : Settings) (entropy : Int) (source : String)
    (file : Option String) (start : Machine) : Prop where
  /-- The root scope of the run still binds the scheduler. -/
  found :
    (endState (runFresh settings entropy source file start)).FindsScheduler start.scopes.size →
      (endState (runFresh settings entropy source file start)).store.schedule.IsReleased
  /-- No code that the run can execute binds the name of the scheduler. -/
  unbound : NeverBound "Task" start.depthLimit source file start.disk →
    (endState (runFresh settings entropy source file start)).store.schedule.IsReleased

/-- In an environment that has `Task`, no job is left when the run ends, with a value or an error,
as long as the root scope has kept the scheduler under this name; and it keeps it unless some code
binds the name anew. -/
theorem runFresh_releasesJobs (settings : Settings) (entropy : Int) (source : String)
    (file : Option String) (disk : Disk) (depthLimit : Nat) (clock : Float)
    (chosen : .task ∈ settings.builtins) :
    ReleasesJobs settings entropy source file (.unused disk depthLimit clock) := by
  let start : Machine := .unused disk depthLimit clock
  obtain ⟨opened, opening, -, sameDisk⟩ := openEnvironment_ok settings entropy start
  have fresh : opened.store.schedule = {} := by
    have jobless := openEnvironment_jobless settings entropy (rfl : start.store.schedule = {})
    rwa [opening] at jobless
  let request : Request := .run settings.moduleRoot 0 source file
  have run : runFresh settings entropy source file start = Machine.andFinally
      (runSource settings.moduleRoot 0 source file) (releaseEnvironment 0) opened :=
    bind_of_ok opening
  have whole : endState (runFresh settings entropy source file start) =
      endState (releaseEnvironment 0 (opened.serve request)) := by
    rw [run, endState_andFinally]
    rfl
  have closed : ((opened.serve request).serve .close).store.schedule.IsReleased :=
    have closes := (serveAll_forgetsClosed fresh [request]).closesJobs
    ⟨closes.shut, closes.pending⟩
  have released (finds : (opened.serve request).FindsScheduler 0) :
      (endState (runFresh settings entropy source file start)).store.schedule.IsReleased := by
    rw [whole, releaseEnvironment_of_findsScheduler ((Scopes.root_zero _).symm ▸ finds)]
    exact closed
  refine ⟨fun finds => released ?_, fun unbound => released ?_⟩
  · -- The release leaves a machine whose root scope has lost the scheduler, so this one has it.
    by_contra lost
    rw [whole, releaseEnvironment_of_not_findsScheduler ((Scopes.root_zero _).symm ▸ lost)] at finds
    exact lost finds
  · have atFirst := openEnvironment_findsScheduler chosen entropy start
    rw [opening] at atFirst
    obtain ⟨value, bound, held⟩ := atFirst
    let R : Regime := .keeping 0 "Task" value disk unbound.modules
    have limit : opened.depthLimit = depthLimit := openEnvironment_depthLimit opening
    have keeps : Keeps R.Holds R.fault (fun _ => True)
        (runSource settings.moduleRoot 0 source file) opened :=
      R.runSource_keeps opened (fun held => held) (limit ▸ unbound.program) fun _ _ => trivial
    have obeys := ((R.openEnvironment_obeys settings entropy start).of_ok
      (unused_obeys R.discipline disk depthLimit clock) opening).1
    have course := runSource_follows CodeKind.any settings.moduleRoot 0 source file opened
      fun _ _ => trivial
    exact ⟨value, (keeps.endState ⟨obeys, sameDisk, bound⟩).around.2, course.isScheduler held⟩

/-- A job that is spawned and never joined. -/
theorem runFresh_releasesJobs_spawned :
    let disk : Disk := { workingDirectory := "/", bytes := fun _ => .error .missing }
    Builtin.task ∈ ({} : Settings).builtins ∧
      NeverBound "Task" 9 "Task.spawn(print)" none disk ∧
      ∃ last, endState (runFresh {} 0 "Task.spawn(print)" none (.unused disk 9 0.0)) = last ∧
        last.store.schedule.jobs.size = 1 ∧ last.store.schedule.IsReleased := by
  intro disk
  have chosen : Builtin.task ∈ ({} : Settings).builtins := by decide
  have unbound : NeverBound "Task" 9 "Task.spawn(print)" none disk := by
    have others : ∀ program ∈ (Program.ofSource (stackRoom 9) "Task.spawn(print)" none).toOption,
        ∀ part ∈ bodyNodes program.body, part.bound? ≠ some "Task" := by decide +kernel
    refine ⟨fun program read => others program (by rw [read]; rfl), ?_⟩
    intro path text room program read
    unfold Disk.readText at read
    split at read <;> cases read
  have spawned : (endState (runFresh {} 0 "Task.spawn(print)" none
      (.unused disk 9 0.0))).store.schedule.jobs.size = 1 := by decide +kernel
  have released :=
    (runFresh_releasesJobs {} 0 "Task.spawn(print)" none disk 9 0.0 chosen).unbound unbound
  exact ⟨chosen, unbound, _, rfl, spawned, released⟩

/-- A text that binds the name of the scheduler anew leaves the job that it has spawned. -/
theorem runFresh_releasesJobs_rebound :
    let disk : Disk := { workingDirectory := "/", bytes := fun _ => .error .missing }
    let text := "let t = Task; Task.spawn(fn() \x7b return 1; \x7d); Task = 1; t"
    let schedule := (endState (runFresh {} 0 text none (.unused disk 9 0.0))).store.schedule
    schedule.isOpen = true ∧ schedule.pending = 1 := by
  decide +kernel

end Scriptlet
