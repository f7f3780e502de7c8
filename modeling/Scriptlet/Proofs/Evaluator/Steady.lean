import Scriptlet.Proofs.Library.Steady
import Scriptlet.Proofs.Machine.Loading
import Scriptlet.Proofs.Evaluator.Course

/-!
# Steady evaluation

Whatever is evaluated, executed or called keeps the store in order.  Code of a kind that the
discipline allows fails only as code may fail, and host functions fail only as they may fail.  A
round of jobs leaves the stage of the code that asks for it and comes back to it; the function of
each job is executed in a stage of its own.
-/

namespace Scriptlet

variable {D : Discipline} {A : Agenda} {α β : Type} {fault : Fault → Prop}

/-! ## Steps of a machine -/

/-- The steps keep the store in order, and their faults are as described. -/
def SteadyRun (D : Discipline) (A : Agenda) (fault : Fault → Prop) (steps : MachineM α) : Prop :=
  ∀ machine, Keeps (fun machine => machine.store.Obeys D A.holds) fault (fun _ => True) steps
    machine

namespace SteadyRun

theorem pure {value : α} : SteadyRun D A fault (pure value) :=
  fun _ => .pure trivial

theorem throw {failure : Fault} (described : fault failure) :
    SteadyRun D A fault (throw failure : MachineM α) :=
  fun _ => .throw described

theorem ofExcept {answer : Except Fault α} (bad : Fails fault answer) :
    SteadyRun D A fault (ofExcept answer : MachineM α) :=
  fun _ => .ofExcept (fun _ _ => trivial) bad

theorem isTruthy {value : Value} : SteadyRun D A fault (Machine.isTruthy value) :=
  fun _ obeys => .ok obeys trivial

/-- Steps that leave the store as it is. -/
theorem modify {change : Machine → Machine}
    (same : ∀ machine, (change machine).store = machine.store) :
    SteadyRun D A fault (modify change : MachineM PUnit) :=
  fun machine => .modify fun obeys => (same machine).symm ▸ obeys

theorem onStore {operation : StoreM α} (steady : Steady D A fault (fun _ => True) operation) :
    SteadyRun D A fault (Machine.onStore operation) :=
  fun machine => .onStore (steady machine.store)

/-- Steps after an operation on the store, of whose result something is known. -/
theorem bindStore {operation : StoreM α} {result : α → Prop} {next : α → MachineM β}
    (steady : Steady D A fault result operation)
    (after : ∀ value, result value → SteadyRun D A fault (next value)) :
    SteadyRun D A fault (Machine.onStore operation >>= next) :=
  fun machine => .bind (.onStore (steady machine.store)) fun value middle _ known =>
    after value known middle

theorem asking {question : Store → Except Fault α}
    (bad : ∀ store, store.Obeys D A.holds → Fails fault (question store)) :
    SteadyRun D A fault (Machine.askStore question) :=
  fun machine => .asking (fun _ _ => trivial) fun obeys => bad machine.store obeys

theorem bind {first : MachineM α} {next : α → MachineM β} (before : SteadyRun D A fault first)
    (after : ∀ value, SteadyRun D A fault (next value)) :
    SteadyRun D A fault (first >>= next) :=
  fun machine => .bind (before machine) fun value middle _ _ => after value middle

/-- Steps after others, of which something is known when they succeed. -/
theorem bindKnowing {first : MachineM α} {next : α → MachineM β}
    (before : SteadyRun D A fault first)
    (after : ∀ value, (∃ machine middle, first machine = .ok value middle) →
      SteadyRun D A fault (next value)) :
    SteadyRun D A fault (first >>= next) :=
  fun machine => .bind (before machine) fun value middle run _ =>
    after value ⟨machine, middle, run⟩ middle

/-- Steps after a question about the store that may fail. -/
theorem checking {question : Store → Except Fault α} {next : α → MachineM β}
    (bad : ∀ store, store.Obeys D A.holds → Fails fault (question store))
    (after : ∀ store value, question store = .ok value → SteadyRun D A fault (next value)) :
    SteadyRun D A fault (Machine.askStore question >>= next) := by
  refine bindKnowing (asking bad) ?_
  rintro value ⟨machine, middle, run⟩
  unfold Machine.askStore at run
  split at run
  · rename_i answered
    cases run
    exact after machine.store value answered
  · cases run

/-- Steps after a look at the machine. -/
theorem looking {next : Machine → MachineM β}
    (after : ∀ machine, machine.store.Obeys D A.holds → SteadyRun D A fault (next machine)) :
    SteadyRun D A fault (get >>= next) :=
  fun machine => .looking (.assuming fun obeys => after machine obeys machine)

theorem choosing {condition : Prop} [Decidable condition] {first second : MachineM α}
    (yes : condition → SteadyRun D A fault first)
    (no : ¬ condition → SteadyRun D A fault second) :
    SteadyRun D A fault (if condition then first else second) :=
  fun machine => .choosing (fun holds => yes holds machine) fun fails => no fails machine

theorem mapFault {inner : Fault → Prop} {change : Fault → MachineM Fault} {steps : MachineM α}
    (before : SteadyRun D A inner steps)
    (after : ∀ failure, inner failure → ∀ machine,
      Keeps (fun machine => machine.store.Obeys D A.holds) fault fault (change failure) machine) :
    SteadyRun D A fault (Machine.mapFault change steps) :=
  fun machine => .mapFault (before machine) fun failure middle described =>
    after failure described middle

theorem andFinally {steps : MachineM α} {last : MachineM Unit}
    (before : SteadyRun D A fault steps) (after : SteadyRun D A fault last) :
    SteadyRun D A fault (Machine.andFinally steps last) :=
  fun machine => .andFinally (before machine) after

theorem mapM {step : α → MachineM β} (items : List α)
    (each : ∀ item ∈ items, SteadyRun D A fault (step item)) :
    SteadyRun D A fault (items.mapM step) :=
  fun machine => .mapM items each machine

theorem mono {fault' : Fault → Prop} {steps : MachineM α} (steady : SteadyRun D A fault steps)
    (faults : ∀ failure, fault failure → fault' failure) : SteadyRun D A fault' steps :=
  fun machine => (steady machine).weaken faults fun _ described => described

/-- Whatever fails as code may fail also fails as host functions may. -/
theorem weaken {steps : MachineM α} (steady : SteadyRun D A D.fault steps) :
    SteadyRun D A D.failure steps :=
  steady.mono fun _ => D.weaken

end SteadyRun

/-! ## Errors -/

theorem locating_steady (opens : D.Open) (restates : A.Restates) {runner : RunnerId} {span : Span}
    {steps : MachineM α} (steady : SteadyRun D A D.fault steps) :
    SteadyRun D A D.fault (locating runner span steps) := by
  refine .mapFault steady fun failure described machine => ?_
  unfold locateFault
  split
  · split
    · exact .pure described
    · refine .looking ?_
      dsimp only
      split
      · refine .bind (.onStore (setState_steady restates _ ?_ _)) fun _ _ _ _ =>
          .pure (opens.script _)
        rintro _ ⟨⟩
        exact opens.relocate _
      · exact .pure (opens.script _)
  · exact .pure described

/-- Guarded steps report the exhaustion of the stack. -/
theorem guarded_steady {steps : MachineM α} (steady : SteadyRun D A D.fault steps) :
    SteadyRun D A D.wholly (guarded steps) := by
  refine .mapFault steady fun failure described machine => ?_
  split
  · exact .looking (.pure ⟨D.cause _, nofun⟩)
  · rename_i notExhausted
    exact .pure ⟨described, fun same => notExhausted same⟩

theorem callingHost_steady (opens : D.Open) {function : String} {steps : MachineM α}
    (steady : SteadyRun D A D.failure steps) :
    SteadyRun D A D.fault (callingHost function steps) :=
  .mapFault steady fun _ described _ => .pure (opens.report function described)

/-! ## Sequences and loops -/

theorem sequence_steady {step : Stmt → MachineM Completion} (statements : List Stmt)
    (each : ∀ statement ∈ statements, SteadyRun D A fault (step statement)) (last : Value) :
    SteadyRun D A fault (sequence step statements last) := by
  induction statements generalizing last with
  | nil => exact .pure
  | cons statement rest ih =>
      refine .bind (each statement List.mem_cons_self) fun completion => ?_
      cases completion with
      | normal value =>
          exact ih (fun other found => each other (List.mem_cons_of_mem _ found)) value
      | result | leave | proceed => exact .pure

theorem repeatWhile_steady {condition : MachineM Bool} {body : MachineM Completion}
    (test : SteadyRun D A D.fault condition) (turn : SteadyRun D A D.fault body)
    (bound : Nat) : SteadyRun D A D.fault (repeatWhile condition body bound) := by
  induction bound with
  | zero => exact .throw D.unfinished
  | succ bound ih =>
      refine .bind test fun _ => .choosing (fun _ => ?_) fun _ => .pure
      refine .bind turn fun completion => ?_
      cases completion with
      | normal value => exact ih
      | proceed => exact ih
      | result | leave => exact .pure

/-! ## Names and modules -/

theorem resolve_steady (room : Nat) (scope : ScopeId) (name : String) :
    SteadyRun D A D.fault (resolve room scope name) := by
  have within (levels : Nat) (name : String) :
      SteadyRun D A D.fault (lookupName room scope levels name) := by
    induction levels generalizing name with
    | zero => exact .throw (D.cause _)
    | succ levels ih =>
        refine .looking fun machine _ => ?_
        split
        · exact .pure
        · split
          · refine .bind (ih _) fun value => .asking fun store _ => ?_
            exact .foldlM (fun value index => itemAt_fails D store name value index) _ value
          · split
            · refine .bind (ih _) fun value => .onStore ?_
              exact .foldlM (fun value segment => segmentOf_steady room name value segment) _ value
            · exact .throw (D.cause _)
  exact within 3 name

theorem checkModulePath_steady (value : Value) :
    SteadyRun D A D.fault (checkModulePath value) := by
  unfold checkModulePath
  split
  · exact .pure
  · exact .throw (D.misuse _)

theorem requireDirectory_steady (missing : D.fault missingDirectory) (disk : Disk)
    (root : Option String) (path : String) :
    SteadyRun D A D.fault (requireDirectory disk root path) := by
  unfold requireDirectory
  split
  · exact .throw missing
  · exact .pure

theorem readModule_steady (room : Nat) (runner : RunnerId) (path file source : String) :
    SteadyRun D A D.fault (readModule room runner path file source) := by
  unfold readModule
  split
  · rename_i refused
    refine .throw ?_
    rcases ofSource_fails _ _ _ _ refused with ⟨error, rfl⟩ | rfl
    · exact D.cause _
    · exact D.exhausted
  · refine .bind (.modify fun _ => rfl) fun _ => ?_
    exact .bind (fun _ obeys => .ok obeys trivial) fun _ => .pure

theorem loadModule_steady (missing : D.fault missingDirectory)
    (invalidPath : ∀ path, D.fault (unreadableModule path .invalidPath))
    (room : Nat) (runner : RunnerId) (path : String) :
    SteadyRun D A D.fault (loadModule room runner path) := by
  refine .looking fun machine _ => ?_
  refine .bind (requireDirectory_steady missing _ _ path) fun _ => ?_
  refine .bind (.onStore (note_steady _ (by decide) _)) fun _ => ?_
  refine .bind (.modify fun _ => rfl) fun _ => ?_
  split
  · rename_i failure _
    cases failure with
    | invalidPath => exact .throw (invalidPath path)
    | unopened | undecodable => exact .throw (D.cause _)
  · exact readModule_steady _ _ path _ _

theorem newModule_steady (path : String) {body : List Stmt} (unit : UnitId) (runner : RunnerId)
    (allowed : D.body body) :
    Steady D A fault (fun _ => True) (newModule path body unit runner) := by
  refine .bind (addObject_steady (D.module.mpr allowed)) fun run _ => ?_
  exact .bind (addObject_steady trivial) fun _ _ => .pure trivial

/-! ## Calls -/

theorem refuseCall_steady (room : Nat) (callee : Value) :
    SteadyRun D A D.fault (refuseCall room callee : MachineM α) :=
  .bind (.asking fun _ obeys => obeys.describe_fails room callee) fun _ => .throw (D.cause _)

theorem checkConstructible_steady (room : Nat) (className : String) (callee : Value) :
    SteadyRun D A D.fault (checkConstructible room className callee) :=
  .looking fun _ _ => .choosing (fun _ => .pure) fun _ =>
    .bind (.asking fun _ obeys => obeys.describe_fails room callee) fun _ => .throw (D.cause _)

theorem bindInstance_steady (context : Context) (span : Span) (className : String)
    (instanceValue : Value) :
    SteadyRun D A fault (bindInstance context span className instanceValue) :=
  .looking fun _ _ => .choosing
    (fun _ => .bind (.modify fun _ => rfl) fun _ => .modify fun _ => rfl) fun _ => .pure

/-- What an object in the store does when it is called is allowed. -/
theorem Store.Obeys.action {store : Store} (obeys : store.Obeys D A.holds) {id : ObjectId}
    {name : String} {action : Action}
    (found : store.objects[id]?.bind HostObject.callable? = some (name, action)) :
    D.action action := by
  obtain ⟨object, present, called⟩ := Option.bind_eq_some_iff.mp found
  exact D.object_callable (obeys.objects object (Array.mem_of_getElem? present)) called

theorem applyData_steady {call : ClosureId → List Value → MachineM Value} (room : Nat)
    (steady : ∀ id arguments, SteadyRun D A D.fault (call id arguments))
    (arguments : List Value) :
    SteadyRun D A D.failure (applyData room call arguments) := by
  refine .checking (fun store _ => .mapM fun value _ failure failed =>
    D.weaken (unwrap_fails D store room value failure failed)) fun store data unwrapped => ?_
  refine .bind (.ofExcept (signature_fails D _ _)) fun _ => ?_
  split
  · rename_i id rest
    have allowed := unwrapAll_data D unwrapped
    refine .weaken (.bind (.onStore (wrapAll_steady fun item member =>
      allowed item (List.mem_cons_of_mem _ member))) fun values => ?_)
    refine .bind (steady id values) fun result => ?_
    refine .checking (fun store _ => unwrap_fails D store room result) fun _ _ unwrapped => ?_
    exact .onStore (wrap_steady (unwrap_data D unwrapped))
  · exact .looking fun _ _ => .throw (D.reported _ rfl)

/-! ## Rounds of jobs -/

/-- The steps succeed and take every machine with jobs of one description to jobs of another. -/
def Advances (D : Discipline) (before after : Schedule → List Entry → Prop)
    (steps : MachineM Unit) : Prop :=
  ∀ machine, machine.store.Obeys D before →
    ∃ last, steps machine = .ok () last ∧ last.store.Obeys D after

namespace Advances

variable {first second third : Schedule → List Entry → Prop}

theorem pure : Advances D first first (pure ()) :=
  fun machine obeys => ⟨machine, rfl, obeys⟩

theorem bind {steps next : MachineM Unit} (before : Advances D first second steps)
    (after : Advances D second third next) :
    Advances D first third (steps >>= fun _ => next) := by
  intro machine obeys
  obtain ⟨middle, run, reached⟩ := before machine obeys
  obtain ⟨last, ran, ended⟩ := after middle reached
  exact ⟨last, (bind_of_ok run).trans ran, ended⟩

/-- Steps after a look at the machine. -/
theorem looking {next : Machine → MachineM Unit}
    (after : ∀ machine, Advances D first second (next machine)) :
    Advances D first second (get >>= next) :=
  fun machine obeys => after machine machine obeys

theorem steady {steps : MachineM Unit} (advances : Advances D A.holds A.holds steps) :
    SteadyRun D A fault steps := by
  intro machine obeys
  obtain ⟨last, run, ended⟩ := advances machine obeys
  rw [run]
  exact .ok ended trivial

end Advances

/-- A schedule with another count of active jobs has its jobs in the same stages. -/
theorem Schedule.setState_active (schedule : Schedule) (number : Nat) (state : JobState)
    (active : Nat) :
    { schedule.setState number state with active := active } =
      { schedule with active := active }.setState number state := by
  unfold Schedule.setState
  split <;> rfl

section Rounds

variable {T : Timetable D.drives} {stage : T.Stage} {body : Job → MachineM Value} {batch : List Nat}
  {number : Nat}

/-- Between two turns a job may be put into another stage. -/
theorem settling_advances (number : Nat) {next : Schedule → Schedule}
    (settles : ∀ schedule, next schedule = schedule ∨ ∃ state,
      next schedule = schedule.setState number state ∧
        ∀ fault, state = .failed fault → D.recorded fault) :
    Advances D (T.turn stage batch) (T.turn stage batch)
      (Machine.onStore (changeSchedule next)) := by
  intro machine obeys
  refine ⟨_, rfl, ?_⟩
  rcases settles machine.store.schedule with same | ⟨state, same, allowed⟩
  · dsimp only
    rw [same]
    exact obeys
  · have settled := obeys.reschedule (T.settling number state obeys.jobs) rfl
      (failures_setState obeys.failures allowed)
    rw [← same] at settled
    exact settled

theorem returned_advances (number : Nat) (value : Value) :
    Advances D (T.turn stage batch) (T.turn stage batch)
      (Machine.onStore (changeSchedule fun schedule => match schedule.job? number with
        | some job => schedule.setState number (endedNormally value job.state)
        | none => schedule)) := by
  refine settling_advances number fun schedule => ?_
  cases schedule.job? number with
  | none => exact .inl rfl
  | some job =>
      refine .inr ⟨_, rfl, fun fault failed => ?_⟩
      unfold endedNormally at failed
      split at failed <;> cases failed

theorem failed_advances (opens : D.Open) (number : Nat) {fault : Fault}
    (described : D.failure fault) :
    Advances D (T.turn stage batch) (T.turn stage batch)
      (Machine.onStore (changeSchedule fun schedule =>
        schedule.setState number (.failed (failureOf number fault)))) := by
  refine settling_advances number fun schedule => .inr ⟨_, rfl, ?_⟩
  rintro _ ⟨⟩
  exact opens.record number described

/-- The function of a job is executed in a stage of its own, from which its end leads back to the
round. -/
theorem runJob_advances (opens : D.Open) {body : MachineM Value}
    (steady : ∀ inside, SteadyRun D (T.agenda inside) D.failure body) :
    Advances D (T.turn stage (number :: batch)) (T.turn stage batch) (runJob number body) := by
  intro machine obeys
  obtain ⟨inside, starts, finishes⟩ := T.starting obeys.jobs
  obtain ⟨begun, begins, started⟩ : ∃ begun, Machine.onStore (do
      noteJobs s!"task {number} started"
      changeSchedule fun schedule =>
        { schedule.setState number (.running false) with active := schedule.active + 1 })
      machine = .ok () begun ∧ begun.store.Obeys D (T.agenda inside).holds := by
    refine ⟨_, rfl, ?_⟩
    have started := obeys.reschedule (T.restates inside number (.running false) starts)
      (machine.store.jobEntries_push _) (failures_setState obeys.failures (by simp))
    rw [← Schedule.setState_active] at started
    exact started
  have finished : Advances D (T.agenda inside).holds (T.turn stage batch) (Machine.onStore do
      changeSchedule fun schedule => { schedule with active := schedule.active - 1 }
      noteJobs s!"task {number} finished") := fun ended obeys =>
    ⟨_, rfl, obeys.reschedule (finishes obeys.jobs) (ended.store.jobEntries_push _) obeys.failures⟩
  cases outcome : body begun with
  | ok value ended =>
      obtain ⟨obeys, -⟩ := (steady inside begun).of_ok started outcome
      obtain ⟨last, run, reached⟩ := finished.bind (returned_advances number value) ended obeys
      refine ⟨last, (bind_of_ok begins).trans ?_, reached⟩
      simp only [outcome]
      exact run
  | error fault ended =>
      obtain ⟨obeys, described⟩ := (steady inside begun).of_error started outcome
      obtain ⟨last, run, reached⟩ :=
        finished.bind (failed_advances opens number described) ended obeys
      refine ⟨last, (bind_of_ok begins).trans ?_, reached⟩
      simp only [outcome]
      exact run

theorem startJob_advances (opens : D.Open)
    (steady : ∀ inside job, SteadyRun D (T.agenda inside) D.failure (body job)) :
    Advances D (T.turn stage (number :: batch)) (T.turn stage batch) (startJob body number) := by
  have skips : Advances D (T.turn stage (number :: batch)) (T.turn stage batch) (pure ()) :=
    fun machine obeys => ⟨machine, rfl, { obeys with jobs := T.skipping obeys.jobs }⟩
  refine .looking fun machine => ?_
  split
  · exact skips
  · split
    · refine skips.bind (settling_advances number fun schedule => .inr ⟨_, rfl, ?_⟩)
      rintro _ ⟨⟩
    · exact runJob_advances opens fun inside => steady inside _
    · exact skips

/-- A round takes the stage of the code that asks for it to the turns of the ready jobs, and from
the end of the last turn back. -/
theorem runRound_advances (opens : D.Open) (drives : D.drives) (idle : T.idle stage)
    (steady : ∀ inside job, SteadyRun D (T.agenda inside) D.failure (body job)) :
    Advances D (T.agenda stage).holds (T.agenda stage).holds (runRound (startJob body)) := by
  have turns (batch : List Nat) :
      Advances D (T.turn stage batch) (T.agenda stage).holds (batch.forM (startJob body)) := by
    induction batch with
    | nil =>
        exact fun machine obeys => ⟨machine, rfl, { obeys with jobs := T.leaving obeys.jobs }⟩
    | cons number rest ih => exact (startJob_advances opens steady).bind ih
  intro machine obeys
  have taken : Machine.onStore takeReady machine =
      .ok machine.store.schedule.ready.toList { machine with store := _ } := rfl
  obtain ⟨last, run, reached⟩ :=
    turns machine.store.schedule.ready.toList { machine with store := _ }
    (obeys.reschedule (T.entering drives idle obeys.jobs) rfl obeys.failures)
  exact ⟨last, (bind_of_ok taken).trans run, reached⟩

theorem runRounds_advances (opens : D.Open) (drives : D.drives) (idle : T.idle stage)
    (steady : ∀ inside job, SteadyRun D (T.agenda inside) D.failure (body job)) (count : Nat) :
    Advances D (T.agenda stage).holds (T.agenda stage).holds
      (runRounds (startJob body) count) := by
  induction count with
  | zero => exact .pure
  | succ count ih => exact (runRound_advances opens drives idle steady).bind ih

theorem drain_advances (opens : D.Open) (drives : D.drives) (idle : T.idle stage)
    (steady : ∀ inside job, SteadyRun D (T.agenda inside) D.failure (body job)) (bound : Nat) :
    Advances D (T.agenda stage).holds (T.agenda stage).holds
      (drain (startJob body) bound) := by
  induction bound with
  | zero => exact .pure
  | succ bound ih =>
      refine .looking fun machine => ?_
      split
      · exact .pure
      · exact (runRound_advances opens drives idle steady).bind ih

theorem joinJob_steady (opens : D.Open) (drives : D.drives)
    (steady : ∀ inside job, SteadyRun D (T.agenda inside) D.failure (body job))
    (arguments : List Value) :
    SteadyRun D (T.agenda stage) D.failure (joinJob (startJob body) arguments) := by
  refine .bind (.ofExcept (signature_fails D _ _)) fun _ => ?_
  refine .checking (fun store _ => jobOf_fails D store _ _) fun _ number _ => ?_
  refine .looking fun machine obeys => .choosing (fun _ => .throw (D.weaken (D.cause _))) ?_
  intro inactive
  have idle := T.resting obeys.jobs (by omega)
  split
  · exact .throw (D.weaken (D.cause _))
  · refine .choosing (fun _ => .throw (D.weaken (D.cause _))) fun _ => ?_
    refine .bind (.onStore openSchedule_steady) fun _ => ?_
    refine .bind (runRounds_advances opens drives idle steady _).steady fun _ =>
      .looking fun ended obeys => ?_
    split
    · rename_i job found
      unfold resultOf
      split
      · exact .pure
      · rename_i failed
        exact .throw (opens.rejoin
          (obeys.failures job (Schedule.mem_jobs_of_job? found) _ failed))
      · exact .throw (D.weaken (D.cause _))
    · exact .throw (D.weaken (D.cause _))

theorem advanceClock_steady (milliseconds : Float) :
    Steady D A fault (fun _ => True) (Store.advanceClock milliseconds) :=
  .modify fun _ obeys => obeys.similar rfl rfl rfl rfl rfl

theorem sleepFor_steady (opens : D.Open) (drives : D.drives)
    (steady : ∀ inside job, SteadyRun D (T.agenda inside) D.failure (body job))
    (arguments : List Value) :
    SteadyRun D (T.agenda stage) D.failure (sleepFor (startJob body) arguments) := by
  refine .bind (.ofExcept (signature_fails D _ _)) fun _ => ?_
  split
  · refine .looking fun machine obeys => .choosing (fun _ => ?_) fun inactive => ?_
    · refine .bind (.onStore (.choosing (.throw (D.reported _ rfl)) (advanceClock_steady _))) ?_
      exact fun _ => .pure
    · have idle := T.resting obeys.jobs (by omega)
      refine .bind (.onStore openSchedule_steady) fun _ => .choosing (fun _ => ?_) fun _ => ?_
      · refine .bind (drain_advances opens drives idle steady _).steady fun _ => ?_
        exact .bind (.onStore (advanceClock_steady _)) fun _ => .pure
      · exact .bind (runRounds_advances opens drives idle steady 3).steady fun _ => .pure
  · exact .throw (D.weaken (D.misuse _))

theorem yieldTurn_steady (opens : D.Open) (drives : D.drives)
    (steady : ∀ inside job, SteadyRun D (T.agenda inside) D.failure (body job))
    (arguments : List Value) :
    SteadyRun D (T.agenda stage) D.failure (yieldTurn (startJob body) arguments) := by
  refine .bind (.ofExcept (signature_fails D _ _)) fun _ => .looking fun machine obeys => ?_
  refine .choosing (fun inactive => ?_) fun _ => .pure
  have idle := T.resting obeys.jobs inactive
  refine .bind (.onStore openSchedule_steady) fun _ => ?_
  exact .bind (runRounds_advances opens drives idle steady 3).steady fun _ => .pure

end Rounds

end Scriptlet
