import Scriptlet.Proofs.Mirror.Runners

/-!
# Composition of runs

A program can be executed in one run, or its first statements in one run and the others in a second
one that continues on the same scope with a runner of its own.  Functions, modules and jobs that the
first statements have made keep the first runner.  Both ways give the same outcome, as long as the
limit on the depth of calls is not reached; only the lines that errors quote may differ.
-/

namespace Scriptlet

/-! ## Statements in turn -/

/-- Statements that follow others which end normally. -/
theorem sequence_append {step : Stmt → MachineM Completion} {first : List Stmt}
    {before last : Value} {machine middle : Machine}
    (completes : sequence step first before machine = .ok (.normal last) middle)
    (second : List Stmt) :
    sequence step (first ++ second) before machine = sequence step second last middle := by
  induction first generalizing before machine with
  | nil =>
      cases completes
      rfl
  | cons statement rest ih =>
      obtain ⟨completion, after, executed, completes⟩ := bind_ok completes
      cases completion with
      | normal value => exact (bind_of_ok executed).trans (ih completes)
      | result | leave | proceed => cases completes

/-- The value before the first statement of a list does not matter. -/
theorem sequence_of_ne_nil {step : Stmt → MachineM Completion} {statements : List Stmt}
    (nonempty : statements ≠ []) (before other : Value) :
    sequence step statements before = sequence step statements other := by
  cases statements with
  | nil => exact absurd rfl nonempty
  | cons statement rest => rfl

/-! ## The limit on the depth of calls -/

/-- A machine with another limit on the depth of calls. -/
def Machine.withLimit (machine : Machine) (limit : Nat) : Machine :=
  { machine with depthLimit := limit }

/-- The end of a run with another limit on the depth of calls. -/
def endWithLimit {α : Type} (limit : Nat) :
    EStateM.Result Fault Machine α → EStateM.Result Fault Machine α
  | .ok value machine => .ok value (machine.withLimit limit)
  | .error fault machine => .error fault (machine.withLimit limit)

/-- The steps do not reach the limit on the depth of calls: with any higher limit they
do the same. -/
def LimitUnreached {α : Type} (steps : MachineM α) (machine : Machine) : Prop :=
  ∀ limit, machine.depthLimit ≤ limit →
    steps (machine.withLimit limit) = endWithLimit limit (steps machine)

/-- Runners have a bound on how deep they are in calls. -/
theorem exists_depth_bound (runners : List Runner) (room : Nat) :
    ∃ high, ∀ limit, high ≤ limit → ∀ runner ∈ runners, runner.depth + room < limit := by
  induction runners with
  | nil => exact ⟨0, fun _ _ _ found => nomatch found⟩
  | cons first rest ih =>
      obtain ⟨high, below⟩ := ih
      refine ⟨max high (first.depth + room + 1), fun limit above runner found => ?_⟩
      rcases List.mem_cons.mp found with rfl | found
      · omega
      · exact below limit (by omega) runner found

/-- The runners of a machine cannot reach a limit that is high enough. -/
theorem exists_ample (machine : Machine) (room : Nat) :
    ∃ high, ∀ limit, high ≤ limit → (machine.withLimit limit).Ample room := by
  obtain ⟨high, below⟩ := exists_depth_bound machine.runners.toList room
  exact ⟨high, fun limit above runner found => below limit above runner found.val⟩

/-! ## Agreement of two ways -/

/-- The same stage of a job, but for the line that its failure quotes. -/
inductive JobState.Alike : JobState → JobState → Prop
  | refl (state : JobState) : Alike state state
  | failed {fault other : Fault} (alike : fault.Alike other) : Alike (.failed fault) (.failed other)

/-- The same job, but for the line that its failure quotes. -/
structure Job.Alike (left right : Job) : Prop where
  function : right.function = left.function
  arguments : right.arguments = left.arguments
  state : left.state.Alike right.state

/-- The runners of the second way in the first one, where one runner continues as another one. -/
def resumedAs (next runner : RunnerId) (id : RunnerId) : RunnerId :=
  if id = next then runner else id

/-- The bindings, the contents of all cells, the jobs and what was printed and logged are the same;
the functions and modules of the next runner belong to the earlier one. -/
structure Machine.Agrees (next runner : RunnerId) (left right : Machine) : Prop where
  scopes : right.scopes = left.scopes
  constructed : right.constructed = left.constructed
  consulted : right.consulted = left.consulted
  arrays : right.store.arrays = left.store.arrays
  closures : right.store.closures = left.store.closures.map fun closure =>
    { closure with runner := resumedAs next runner closure.runner }
  objects : right.store.objects =
    left.store.objects.map (Translation.renaming (resumedAs next runner)).object
  jobs : Aligned 0 Job.Alike left.store.schedule.jobs right.store.schedule.jobs
  forgotten : right.store.schedule.forgotten = left.store.schedule.forgotten
  ready : right.store.schedule.ready = left.store.schedule.ready
  isOpen : right.store.schedule.isOpen = left.store.schedule.isOpen
  active : right.store.schedule.active = left.store.schedule.active
  random : right.store.random = left.store.random
  clock : right.store.clock = left.store.clock
  output : right.store.output = left.store.output
  journal : right.store.journal = left.store.journal

theorem Aligned.eq_map {α β : Type} {alike : α → β → Prop} {left : Array α} {right : Array β}
    (aligned : Aligned 0 alike left right) {image : α → β}
    (same : ∀ item other, alike item other → other = image item) : right = left.map image := by
  refine Array.ext_getElem? fun i => ?_
  have related := aligned.items i
  rw [Nat.zero_add] at related
  rw [Array.getElem?_map]
  generalize left[i]? = item at related ⊢
  generalize right[i]? = other at related ⊢
  cases related with
  | none => rfl
  | some alike => exact congrArg some (same _ _ alike)

theorem Aligned.mono {α β : Type} {shift : Nat} {alike weaker : α → β → Prop} {left : Array α}
    {right : Array β} (aligned : Aligned shift alike left right)
    (same : ∀ item other, alike item other → weaker item other) :
    Aligned shift weaker left right where
  size := aligned.size
  items i := by
    have related := aligned.items i
    generalize left[i]? = item at related ⊢
    generalize right[shift + i]? = other at related ⊢
    cases related with
    | none => exact .none
    | some alike => exact .some (same _ _ alike)

theorem jobs_alike {rename : RunnerId → RunnerId} {left right : Job}
    (jobs : (Translation.renaming rename).Jobs left right) : left.Alike right := by
  obtain ⟨function, arguments, states⟩ := jobs
  rw [renaming_value] at function
  rw [renaming_value_eq, List.map_id] at arguments
  refine ⟨function, arguments, ?_⟩
  revert states
  generalize left.state = state
  generalize right.state = other
  rintro (requested | requested | value | alike | _)
  · exact .refl _
  · exact .refl _
  · rw [renaming_value]
    exact .refl _
  · exact .failed alike
  · exact .refl _

theorem agrees_of_machines {next runner : RunnerId} {left right : Machine} {limit : Nat}
    (machines : (Translation.renaming (resumedAs next runner)).Machines (left.withLimit limit)
      (right.withLimit limit)) : left.Agrees next runner right where
  scopes := by
    have same := machines.scopes.eq_map fun _ _ alike => renaming_scope.mp alike
    rwa [Array.map_id'] at same
  constructed := machines.constructed.trans (List.map_id' left.constructed)
  consulted := machines.consulted
  arrays := by
    have same := machines.store.arrays.eq_map fun _ _ alike => alike
    rwa [renaming_value_eq, Array.map_id_fun, Array.map_id] at same
  closures := machines.store.closures.eq_map fun _ _ alike => alike.1
  objects := (machines.store.objects.aligned fun id => (Nat.zero_add id).symm).eq_map
    fun _ _ alike => alike.1
  jobs := machines.store.schedule.jobs.mono fun _ _ jobs => jobs_alike jobs
  forgotten := machines.store.schedule.forgotten
  ready := machines.store.schedule.ready
  isOpen := machines.store.schedule.isOpen
  active := machines.store.schedule.active
  random := machines.store.random
  clock := machines.store.clock
  output := machines.store.output
  journal := machines.store.journal

/-! ## Two runs instead of one -/

theorem renaming_completion {rename : RunnerId → RunnerId} (completion : Completion) :
    (Translation.renaming rename).completion completion = completion := by
  cases completion <;> simp [Naming.completion]

/-- A runner that is alike continues as the earlier one would. -/
theorem programSteps_resumed {machine : Machine} (known : machine.RunnersKnown) {runner : RunnerId}
    {current next : Runner} (running : machine.runners[runner]? = some current)
    (alike : next.Alike current) {unit : UnitId} {scope : ScopeId} {room : Nat} {body : List Stmt}
    (unreached : LimitUnreached (programSteps ⟨runner, unit, scope⟩ room body) machine)
    (unreachedNext : LimitUnreached (programSteps ⟨machine.runners.size, unit, scope⟩ room body)
      (machine.joinedBy next)) :
    Paired (Machine.Agrees machine.runners.size runner) Eq
      (programSteps ⟨machine.runners.size, unit, scope⟩ room body (machine.joinedBy next))
      (programSteps ⟨runner, unit, scope⟩ room body machine) := by
  -- With a limit that no runner can reach, it does not matter which runner counts which calls.
  obtain ⟨high, ample⟩ := exists_ample machine room
  obtain ⟨highNext, ampleNext⟩ := exists_ample (machine.joinedBy next) room
  obtain ⟨limit, above, aboveNext, higher⟩ :
      ∃ limit, high ≤ limit ∧ highNext ≤ limit ∧ machine.depthLimit ≤ limit :=
    ⟨high + highNext + machine.depthLimit, by omega, by omega, by omega⟩
  have fixed : machine.store.Fixed (resumedAs machine.runners.size runner) := by
    obtain ⟨closures, objects⟩ := known
    refine ⟨fun closure found => if_neg ?_, fun object found owner runs => if_neg ?_⟩
    · exact Nat.ne_of_lt (closures closure found)
    · exact Nat.ne_of_lt (objects object found owner runs)
  have machines : (Translation.renaming (resumedAs machine.runners.size runner)).Machines
      ((machine.joinedBy next).withLimit limit) (machine.withLimit limit) := by
    have fixedAt : (machine.withLimit limit).store.Fixed _ := fixed
    refine renaming_machines fixedAt fun id => ?_
    dsimp only [Machine.joinedBy]
    rw [Array.getElem?_push]
    unfold resumedAs
    split
    · rw [running]
      exact .some alike
    · exact Runner.Alike.rel_self _
  have ended := (programSteps_mirrored ⟨machine.runners.size, unit, scope⟩ room
    (renaming_free (bodyNames body))).paired _ _ machines
    (.ample (ampleNext limit aboveNext) (ample limit above))
    fun path _ => renaming_freeModule machine.disk path
  have same : (Translation.renaming (resumedAs machine.runners.size runner)).context
      ⟨machine.runners.size, unit, scope⟩ = ⟨runner, unit, scope⟩ :=
    congrArg (Context.mk · unit scope) (if_pos rfl)
  rw [same] at ended
  rw [unreachedNext limit higher, unreached limit higher] at ended
  generalize programSteps ⟨machine.runners.size, unit, scope⟩ room body _ = first at ended ⊢
  generalize programSteps ⟨runner, unit, scope⟩ room body machine = second at ended ⊢
  cases first <;> cases second <;> cases ended
  · rename_i result reached
    exact .ok (result.trans (renaming_completion _)).symm (agrees_of_machines reached.1)
  · rename_i alike reached
    exact .error alike (agrees_of_machines reached.1)

/-- Statements that are executed after others, in one run or in a second run with a new runner on
the same scope, end in the same way; the statements keep their unit, and the new runner loads
modules from the same place. -/
theorem runProgram_append {machine middle : Machine} (known : machine.RunnersKnown)
    {runner : RunnerId} {current : Runner} (running : machine.runners[runner]? = some current)
    {unit : UnitId} {scope : ScopeId} (place : current.globals = scope)
    {whole first second : Program} (parts : whole.body = first.body ++ second.body)
    (nonempty : second.body ≠ []) {last : Value}
    (completes : sequence (execute ⟨runner, unit, scope⟩ (stackRoom machine.depthLimit)) first.body
      .absent machine = .ok (.normal last) middle)
    {next : Runner} (root : next.moduleRoot = current.moduleRoot) (same : next.globals = scope)
    (unreached : LimitUnreached
      (programSteps ⟨runner, unit, scope⟩ (stackRoom machine.depthLimit) second.body) middle)
    (unreachedNext : LimitUnreached
      (programSteps ⟨machine.runners.size, unit, scope⟩ (stackRoom machine.depthLimit) second.body)
      (middle.joinedBy next)) :
    Paired (Machine.Agrees machine.runners.size runner) Eq
      ((do
        let _ ← runProgram runner unit scope first
        let id ← Machine.addRunner next
        runProgram id unit scope second) machine)
      (runProgram runner unit scope whole machine) := by
  have inside : runner < machine.runners.size := (Array.getElem?_eq_some_iff.mp running).1
  have firstRun : runProgram runner unit scope first machine = .ok last middle := by
    have ended : programSteps ⟨runner, unit, scope⟩ (stackRoom machine.depthLimit) first.body
        machine = .ok (.normal last) middle := mapFault_ok_iff.mpr completes
    rw [runProgram_run, ended]
    rfl
  obtain ⟨knownMiddle, restores⟩ := runProgram_runnersKnown known inside unit scope first
  rw [firstRun] at knownMiddle restores
  change middle.RunnersKnown at knownMiddle
  change machine.Restores middle at restores
  obtain ⟨currentMiddle, runningMiddle, bare⟩ := restores.symm.runnerAt running
  have size : middle.runners.size = machine.runners.size := by
    simpa using congrArg Array.size restores.runners
  have limit : (middle.joinedBy next).depthLimit = machine.depthLimit := restores.depthLimit
  have alike : next.Alike currentMiddle :=
    Runner.Alike.trans ⟨root.symm, place.trans same.symm⟩ (Runner.alike_of_bare bare.symm)
  have secondRun : (do
        let _ ← runProgram runner unit scope first
        let id ← Machine.addRunner next
        runProgram id unit scope second : MachineM Value) machine =
      runProgram machine.runners.size unit scope second (middle.joinedBy next) := by
    rw [bind_of_ok firstRun, ← size]
    rfl
  have continued : programSteps ⟨runner, unit, scope⟩ (stackRoom machine.depthLimit) whole.body
      machine = programSteps ⟨runner, unit, scope⟩ (stackRoom machine.depthLimit) second.body
        middle := by
    unfold programSteps guarded Machine.mapFault
    rw [parts, sequence_append completes, sequence_of_ne_nil nonempty last .absent]
  have ended :=
    programSteps_resumed knownMiddle runningMiddle alike unreached (size ▸ unreachedNext)
  rw [size] at ended
  rw [secondRun, runProgram_run, runProgram_run, continued, limit]
  generalize programSteps ⟨machine.runners.size, unit, scope⟩ _ _ _ = left at ended ⊢
  generalize programSteps ⟨runner, unit, scope⟩ _ _ _ = right at ended ⊢
  rcases ended with ⟨rfl, agrees⟩ | ⟨alike, agrees⟩
  · exact .ok rfl agrees
  · exact .error alike agrees

/-- A function is made in one run and called in the next one. -/
theorem runProgram_append_identity :
    let span : Span := default
    let first : Program := ⟨span, [.function span (some "same") ["x"]
      [.result span (some (.name span "x"))]], none⟩
    let second : Program := ⟨span, [.expression span
      (.call span (.name span "same") [.text span "a"])], none⟩
    let whole : Program := ⟨span, first.body ++ second.body, none⟩
    let runner : Runner := { source := "", file := none, moduleRoot := none, globals := 0 }
    let machine : Machine :=
      { scopes := #[{ name := "global", parent := none }]
        runners := #[runner]
        depthLimit := 1
        disk := (FileTree.directory []).disk "/" }
    Paired (Machine.Agrees 1 0) Eq
        ((do
          let _ ← runProgram 0 0 0 first
          let id ← Machine.addRunner runner
          runProgram id 0 0 second) machine)
        (runProgram 0 0 0 whole machine) ∧
      ∃ after, runProgram 0 0 0 whole machine = .ok (.text "a") after := by
  intro span first second whole runner machine
  have known : machine.RunnersKnown := ⟨by simp [machine], by simp [machine]⟩
  have running : machine.runners[0]? = some runner := rfl
  obtain ⟨last, middle, completes⟩ : ∃ last middle,
      sequence (execute ⟨0, 0, 0⟩ (stackRoom machine.depthLimit)) first.body .absent machine =
        .ok (.normal last) middle := ⟨_, _, rfl⟩
  refine ⟨runProgram_append known running rfl rfl (List.cons_ne_nil _ _) completes rfl rfl ?_ ?_,
    ⟨_, rfl⟩⟩
  all_goals
    cases completes
    intro limit above
    obtain ⟨more, rfl⟩ := Nat.exists_eq_add_of_le' above
    rfl

end Scriptlet
