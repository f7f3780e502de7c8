import Scriptlet.Proofs.Activity.Regime
import Scriptlet.Proofs.Session.Course
import Scriptlet.Proofs.Jobs.Draining

/-!
# Sessions under a regime

A program whose code is allowed keeps to its regime from the beginning of its run to the end, and
so do the steps that are taken around it: making a scope with builtins, reading the text and
releasing the scope.
-/

namespace Scriptlet

/-! ## Builtins -/

theorem addFunctions_ok (functions : List (String × Action)) (store : Store) :
    ∃ members after, Builtin.addFunctions functions store = .ok members after := by
  induction functions generalizing store with
  | nil => exact ⟨[], store, rfl⟩
  | cons function rest ih =>
      obtain ⟨members, after, run⟩ :=
        ih { store with objects := store.objects.push (.function function.1 function.2) }
      exact ⟨(function.1, .host store.objects.size) :: members, after, bind_of_ok run⟩

/-- Functions that are added and then collected in an object: the object is there. -/
theorem collected_ok (functions : List (String × Action)) (collect : Assoc Data → HostObject)
    (store : Store) :
    ∃ id members after, (do
        let members ← Builtin.addFunctions functions
        Store.addObject (collect members) : StoreM ObjectId) store = .ok id after ∧
      after.objects[id]? = some (collect members) := by
  obtain ⟨members, filled, run⟩ := addFunctions_ok functions store
  exact ⟨filled.objects.size, members,
    { filled with objects := filled.objects.push (collect members) }, bind_of_ok run,
    Array.getElem?_push_size⟩

/-- Making the host object of a builtin always succeeds, and `Task` is made a scheduler. -/
theorem make_ok (seed : Int) (builtin : Builtin) (store : Store) :
    ∃ id after, builtin.make seed store = .ok id after ∧
      (builtin = .task → ∃ members, after.objects[id]? = some (.scheduler members)) := by
  cases builtin with
  | math =>
      -- The functions are not looked at, or the list of them would be computed.
      unfold Builtin.make
      generalize Builtin.mathFunctions = functions
      obtain ⟨id, members, after, run, -⟩ := collected_ok functions
        (fun members => .group "Math"
          ([("PI", .float Builtin.pi), ("E", .float Builtin.euler)] ++ members))
        { store with random := Twister.ofSeed seed }
      exact ⟨id, after, run, nofun⟩
  | date =>
      obtain ⟨id, members, after, run, -⟩ := collected_ok
        [("now", .native .now), ("iso", .native .isoNow)] (.factory "Date" (.native .date)) store
      exact ⟨id, after, run, nofun⟩
  | json =>
      obtain ⟨id, members, after, run, -⟩ := collected_ok
        [("stringify", .native .writeJson), ("parse", .native .readJson)] (.group "JSON") store
      exact ⟨id, after, run, nofun⟩
  | print | log => exact ⟨_, _, rfl, nofun⟩
  | task =>
      unfold Builtin.make
      generalize Builtin.taskFunctions = functions
      obtain ⟨id, members, after, run, found⟩ :=
        collected_ok functions .scheduler { store with schedule := {} }
      exact ⟨id, after, run, fun _ => ⟨members, found⟩⟩

/-- Builtins are always bound, and nothing but the scopes and the store changes. -/
theorem install_ok (scope : ScopeId) (seed : Int) (builtins : List Builtin) (machine : Machine) :
    ∃ installed, Builtin.install scope seed builtins machine = .ok () installed ∧
      installed.runners = machine.runners ∧ installed.disk = machine.disk := by
  induction builtins generalizing machine with
  | nil => exact ⟨machine, rfl, rfl, rfl⟩
  | cons builtin rest ih =>
      obtain ⟨id, store, made, -⟩ := make_ok seed builtin machine.store
      obtain ⟨installed, run, runners, disk⟩ := ih { machine with
        scopes := machine.scopes.define scope builtin.name (.host id), store := store }
      exact ⟨installed, (bind_of_ok (onStore_of_ok made)).trans run, runners, disk⟩

/-- Making a scope with builtins always succeeds, and nothing else around the store changes. -/
theorem openEnvironment_ok (settings : Settings) (entropy : Int) (machine : Machine) :
    ∃ opened, openEnvironment settings entropy machine = .ok machine.scopes.size opened ∧
      opened.runners = machine.runners ∧ opened.disk = machine.disk := by
  obtain ⟨opened, run, runners, disk⟩ := install_ok machine.scopes.size
    (settings.randomSeed.getD entropy) settings.builtins
    { machine with scopes := machine.scopes.push { name := "global", parent := none } }
  exact ⟨opened, bind_of_ok run, runners, disk⟩

namespace Regime

variable {R : Regime}

/-! ## Environments -/

/-- The functions of builtins run no modules, so nothing that is added to a store
with them matters. -/
theorem collected_obeys {fault : Fault → Prop} {functions : List (String × Action)}
    (plain : ∀ function ∈ functions, function.2.moduleBodies = [])
    {collect : Assoc Data → HostObject}
    (object : ∀ members, R.discipline.object (collect members)) :
    Steady R.discipline .lax fault (fun _ => True) (do
      let members ← Builtin.addFunctions functions
      Store.addObject (collect members)) :=
  collected_steady (fun function found => by simp [discipline, plain function found])
    fun members _ => object members

theorem make_obeys {fault : Fault → Prop} (seed : Int) (builtin : Builtin) :
    Steady R.discipline .lax fault (fun _ => True) (builtin.make seed) := by
  unfold Builtin.make
  cases builtin with
  | math =>
      refine .bind (.modify fun _ obeys => obeys.similar rfl rfl rfl rfl rfl) fun _ _ => ?_
      exact collected_obeys mathFunctions_plain fun _ _ _ => trivial
  | date =>
      refine collected_obeys (by simp [Action.moduleBodies]) fun _ => ⟨?_, fun _ _ => trivial⟩
      simp [discipline, Action.moduleBodies]
  | json => exact collected_obeys (by simp [Action.moduleBodies]) fun _ _ _ => trivial
  | print | log => exact addNative_steady _ (by simp [discipline, Action.moduleBodies])
  | task =>
      refine .bind (.modify fun _ obeys => obeys.reschedule trivial rfl (by simp)) fun _ _ => ?_
      exact collected_obeys taskFunctions_plain fun _ _ _ => trivial

/-- The builtins are as every regime demands it. -/
theorem openEnvironment_obeys (R : Regime) (settings : Settings) (entropy : Int) :
    SteadyRun R.discipline .lax R.fault (openEnvironment settings entropy) := by
  have install (scope : ScopeId) (seed : Int) (builtins : List Builtin) :
      SteadyRun R.discipline .lax R.fault (Builtin.install scope seed builtins) := by
    induction builtins with
    | nil => exact .pure
    | cons builtin rest ih =>
        refine .bind (.onStore (make_obeys seed builtin)) fun id => ?_
        exact .bind (.modify fun _ => rfl) fun _ => ih
  refine .bind (fun _ obeys => .ok obeys trivial) fun scope => ?_
  exact .bind (install scope _ _) fun _ => .pure

theorem closeSchedule_minds : R.Minds (fun _ => True) (Machine.onStore closeSchedule) := by
  refine .onStore (.looking fun _ _ => .choosing ?_ (.pure trivial))
  exact .bind (reschedule_steady fun _ failures => failures_close failures) fun _ _ =>
    noteJobs_steady _

theorem releaseEnvironment_minds (scope : ScopeId) :
    R.Minds (fun _ => True) (releaseEnvironment scope) := by
  refine .bind .get fun machine _ => ?_
  dsimp only
  split
  · exact .choosing closeSchedule_minds (.pure trivial)
  · exact .pure trivial

/-! ## Runs -/

theorem steps_minds {activity : Activity} (allowed : R.allows activity) :
    R.Minds (fun _ => True) activity.steps := by
  intro machine held
  have ended := R.kept.by_all activity machine ⟨held, allowed⟩
  unfold Promise.KeptBy at ended
  revert ended
  cases activity.steps machine with
  | ok value after => exact fun ended => .ok ended.2.1 trivial
  | error fault after => exact fun ended => .error ended.2.1 (ended.2.2 fault rfl)

theorem runProgram_minds (runner : RunnerId) (unit : UnitId) (scope : ScopeId) {program : Program}
    (allowed : R.body program.body) :
    R.Minds (fun _ => True) (runProgram runner unit scope program) := by
  refine .bind .get fun machine _ => ?_
  have runs :
      R.allows (.runBody ⟨runner, unit, scope⟩ (stackRoom machine.depthLimit) program.body) :=
    allowed
  exact .bind (steps_minds runs) fun _ _ => .pure trivial

/-- A text is run under a regime if its code is allowed and so is the error if it cannot be read. -/
theorem runSource_keeps {moduleRoot : Option String} {scope : ScopeId} {source : String}
    {file : Option String} (machine : Machine)
    (adds : ∀ {scopes runners disk}, R.around scopes runners disk →
      R.around scopes (runners.push
        { source := source, file := file, moduleRoot := moduleRoot, globals := scope }) disk)
    (allowed : ∀ program,
      Program.ofSource (stackRoom machine.depthLimit) source file = .ok program →
      R.body program.body)
    (refused : ∀ e,
      Program.ofSource (stackRoom machine.depthLimit) source file = .error (.script e) →
        R.fault (.script e)) :
    Keeps R.Holds R.fault (fun _ => True) (runSource moduleRoot scope source file) machine := by
  have adding : Keeps R.Holds R.fault (fun _ => True) (Machine.addRunner
      { source := source, file := file, moduleRoot := moduleRoot, globals := scope }) machine :=
    fun held => .ok ⟨held.store, adds held.around⟩ trivial
  refine .bind adding fun runner added run _ => ?_
  have limit : added.depthLimit = machine.depthLimit := by
    cases run
    rfl
  rw [← limit] at allowed refused
  have answer : Keeps R.Holds R.fault (fun program => R.body program.body)
      (ofExcept (Program.ofSource (stackRoom added.depthLimit) source file)) added := by
    refine .ofExcept allowed fun fault failed => ?_
    rcases ofSource_fails _ _ _ fault failed with ⟨error, rfl⟩ | rfl
    · exact refused error failed
    · exact R.fresh (by trivial)
  have reading :
      Keeps R.Holds R.fault (fun program => R.body program.body) (readProgram source file)
      added := by
    refine .looking (answer.mapFault fun fault _ faulty => ?_)
    split
    · exact .looking (.pure (R.cause _))
    · exact .pure faulty
  have counting : R.Minds (fun _ => True) Machine.addUnit :=
    fun _ held => .ok ⟨held.store, held.around⟩ trivial
  refine .bind reading fun program middle _ formed =>
    .bind (counting middle) fun unit counted _ _ => ?_
  exact runProgram_minds runner unit scope formed counted

end Regime

end Scriptlet
