import Scriptlet.Proofs.Activity.Request
import Scriptlet.Proofs.Jobs.Lasting

/-!
# Draining

Outside of all jobs, a yield or a sleep lets every job end that was spawned before, and a join
lets its job end together with all earlier ones.  What a job has ended with is what every later
join of it gives.
-/

namespace Scriptlet

/-! ## Answers -/

/-- What a join of a job gives. -/
def JobState.answer : JobState → Except Fault Value
  | .returned value => .ok value
  | .failed fault => .error fault
  | _ => .error (.ofCause (.task .joinCancelled))

theorem fetch_eq {machine : Machine} {number : Nat} {job : Job}
    (found : machine.store.schedule.job? number = some job) :
    Activity.fetch number machine = (ofExcept job.state.answer : MachineM Value) machine := by
  unfold Activity.fetch
  refine (bind_of_ok rfl).trans ?_
  rw [found]
  dsimp only
  cases job.state <;> rfl

/-- The kind and the message of a fault, without its place. -/
def Fault.unplaced : Fault → Fault
  | .script e => .ofCause e.cause
  | fault => fault

/-- The same end gives the same answer, up to the place of a failure. -/
theorem JobState.SameEnd.answer {before after : JobState} (same : before.SameEnd after) :
    after.answer.mapError Fault.unplaced = before.answer.mapError Fault.unplaced := by
  rcases same with rfl | ⟨e, span, line, rfl, rfl⟩
  · rfl
  · refine congrArg (fun cause => Except.error (Fault.ofCause cause)) ?_
    unfold ScriptError.locate
    split <;> rfl

/-! ## Outside of all jobs -/

/-- No job is executed, and no round is going on. -/
def Machine.Idle (machine : Machine) : Prop :=
  machine.store.schedule.Staged none []

theorem CodeStage.eq_none {running : Option Nat} {batch : List Nat}
    (stage : CodeStage running batch)
    {schedule : Schedule} (staged : schedule.Staged running batch) (outside : schedule.active = 0) :
    running = none ∧ batch = [] := by
  have none : running = none := by
    cases running with
    | none => rfl
    | some => cases outside.symm.trans staged.counted
  exact ⟨none, stage none⟩

theorem CodeStage.idle {running : Option Nat} {batch : List Nat} (stage : CodeStage running batch)
    {machine : Machine} (staged : machine.store.schedule.Staged running batch)
    (outside : machine.store.schedule.active = 0) : machine.Idle := by
  obtain ⟨rfl, rfl⟩ := stage.eq_none staged outside
  exact staged

theorem Machine.idle_of_fresh {machine : Machine} (fresh : machine.store.schedule = {}) :
    machine.Idle := by
  unfold Machine.Idle
  rw [fresh]
  exact .empty

theorem Machine.Idle.keepsStages {start machine : Machine} (idle : start.Idle)
    (staged : machine.Idle) : start.KeepsStages machine := by
  intro running batch stage other
  obtain ⟨rfl, rfl⟩ := stage.eq_none other idle.counted
  exact staged

/-- How a host function ends that has let the jobs run. -/
def Machine.IdleWith (more : Except Fault Value → Machine → Prop) (outcome : Except Fault Value)
    (machine : Machine) : Prop :=
  machine.Idle ∧ (∀ fault, outcome = .error fault → machine.Explains fault) ∧ more outcome machine

theorem openSchedule_eq (store : Store) :
    ∃ after, openSchedule store = .ok () after ∧
      after.schedule = { store.schedule with isOpen := true } ∧ after.objects = store.objects := by
  unfold openSchedule
  rw [bind_of_ok (rfl : (get : StoreM Store) store = .ok store store)]
  cases isOpen : store.schedule.isOpen with
  | true => exact ⟨_, rfl, by rw [← isOpen], rfl⟩
  | false => exact ⟨_, rfl, rfl, rfl⟩

/-- What follows the opening of the schedule finds the jobs as they were. -/
theorem opening_lasting {machine : Machine} (idle : machine.Idle) {next : Unit → Plan Value}
    {ending : Except Fault Value → Machine → Prop}
    (rest : ∀ after : Machine, after.Idle →
      after.store.schedule.jobs = machine.store.schedule.jobs →
      (next ()).Meets .lasting ending after) :
    (Plan.own (Machine.onStore openSchedule) next).Meets .lasting ending machine := by
  obtain ⟨after, run, schedule, -⟩ := openSchedule_eq machine.store
  have same : after.schedule.jobs = machine.store.schedule.jobs := by rw [schedule]
  refine .step (onStore_of_ok run) (.of_jobs same) (rest { machine with store := after } ?_ same)
  change after.schedule.Staged none []
  rw [schedule]
  exact idle.similar rfl rfl rfl

/-! ## Joins -/

/-- The job has ended with the outcome. -/
def Machine.HasEnded (number : Nat) (outcome : Except Fault Value) (machine : Machine) : Prop :=
  ∃ job, machine.store.schedule.job? number = some job ∧ job.state.isDone = true ∧
    outcome = job.state.answer

/-- The answer of a job is explained by its failure. -/
theorem Machine.Idle.explains_answer {machine : Machine} (idle : machine.Idle) {number : Nat}
    {job : Job} (found : machine.store.schedule.job? number = some job) {fault : Fault}
    (answer : job.state.answer = .error fault) : machine.Explains fault := by
  cases state : job.state with
  | returned =>
      rw [state] at answer
      cases answer
  | failed cause =>
      rw [state] at answer
      cases answer
      rintro e rfl other task
      rw [idle.tagged number job found e state] at task
      cases task
      exact ⟨job, found, state⟩
  | _ =>
      rw [state] at answer
      cases answer
      exact Machine.explains_of_isFresh (Fault.isFresh_ofCause _) machine

/-- What remains of a join for a known job. -/
def joinRest (room number : Nat) (job : Job) : Plan Value :=
  if job.state.isCancelled then .last (throw (.ofCause (.task .joinCancelled)))
  else
    .own (Machine.onStore openSchedule) fun _ =>
    .runRounds room (.last (Activity.fetch number)) (if job.state.isDone then 1 else 2)

/-- A join of a known job outside of all jobs lets the job end, and gives what it has ended with. -/
theorem joinRest_lasting (room : Nat) {number : Nat} {machine : Machine} {job : Job}
    (idle : machine.Idle) (found : machine.store.schedule.job? number = some job) :
    (joinRest room number job).Meets .lasting (Machine.IdleWith (Machine.HasEnded number))
      machine := by
  have ends {machine : Machine} {job : Job} (idle : machine.Idle)
      (found : machine.store.schedule.job? number = some job) (done : job.state.isDone = true) :
      EndsAs (fun outcome after => Promise.lasting.along machine after ∧
        Machine.IdleWith (Machine.HasEnded number) outcome after)
        ((ofExcept job.state.answer : MachineM Value) machine) := by
    cases answer : job.state.answer with
    | ok value =>
        exact ⟨.refl _, idle, by rintro fault ⟨⟩, job, found, done, answer.symm⟩
    | error fault =>
        refine ⟨.refl _, idle, ?_, job, found, done, answer.symm⟩
        rintro other ⟨⟩
        exact idle.explains_answer found answer
  unfold joinRest
  split
  · rename_i cancelled
    refine .last ?_
    have state : job.state = .cancelled := by
      cases state : job.state <;> simp_all [JobState.isCancelled]
    have done : job.state.isDone = true := by rw [state]; rfl
    have ended := ends idle found done
    rw [state] at ended
    exact ended
  · refine opening_lasting idle fun after idle same => ?_
    refine runRounds_lasting idle _ fun last idle _ drained => ?_
    have present : after.store.schedule.job? number = some job := by
      unfold Schedule.job? at found ⊢
      rw [same]
      exact found
    have positive : 0 < if job.state.isDone then 1 else 2 := by split <;> decide
    obtain ⟨later, found, done⟩ := drained positive number job present
    refine .last ?_
    rw [fetch_eq found]
    exact ends idle found done

/-- A handle names a job that is there. -/
theorem jobOf_found {store : Store} {operation : String} {handle : Value} {number : Nat}
    (known : jobOf store operation handle = .ok number) :
    ∃ job, store.schedule.job? number = some job := by
  unfold jobOf at known
  cases named : handleNumber store operation handle with
  | error =>
      rw [named] at known
      cases known
  | ok id =>
      rw [named] at known
      change (if _ then _ else _) = _ at known
      split at known
      · rename_i known'
        cases known
        have bounds := known'.2
        simp only [Schedule.knows, Bool.and_eq_true, decide_eq_true_eq] at bounds
        exact Schedule.exists_job? (by omega) bounds.2
      · cases known

theorem join_lasting_known (room : Nat) {handle : Value} {number : Nat} {machine : Machine}
    (idle : machine.Idle) (known : jobOf machine.store "join" handle = .ok number) :
    (Activity.planJoin room [handle]).Meets .lasting
      (Machine.IdleWith (Machine.HasEnded number)) machine := by
  refine .step rfl (.refl _) (.asking (fun other named => ?_) fun fault failed => ?_)
  · cases named.symm.trans known
    obtain ⟨job, found⟩ := jobOf_found known
    refine .looking ?_
    rw [if_neg (by rw [idle.counted]; exact Nat.lt_irrefl 0), found]
    exact joinRest_lasting room idle found
  · cases failed.symm.trans known

/-! ## Sleeps and yields -/

/-- Everything that the schedule held before has ended. -/
def Machine.HasDrained (start : Machine) (_ : Except Fault Value) (machine : Machine) : Prop :=
  start.store.schedule.Drained machine.store.schedule

/-- What remains of a sleep outside of all jobs. -/
def sleepRest (room : Nat) (milliseconds : Float) : Plan Value :=
  .own (Machine.onStore openSchedule) fun _ =>
    if 0.0 < milliseconds then
      .drain room (.own (Machine.onStore (Store.advanceClock milliseconds)) fun _ =>
        .last (pure .absent)) drainBound
    else .runRounds room (.last (pure .absent)) 3

/-- What remains of a yield outside of all jobs. -/
def yieldRest (room : Nat) : Plan Value :=
  .own (Machine.onStore openSchedule) fun _ => .runRounds room (.last (pure .absent)) 3

section Resting

variable (room : Nat) {machine : Machine} (idle : machine.Idle)

include idle

theorem yieldRest_lasting :
    (yieldRest room).Meets .lasting (Machine.IdleWith machine.HasDrained) machine := by
  refine opening_lasting idle fun after idle same => ?_
  refine runRounds_lasting idle 3 fun last idle _ drained => .last ⟨.refl _, idle, ?_⟩
  exact ⟨by rintro fault ⟨⟩, .of_sustains (.of_jobs same) (drained (by decide))⟩

theorem sleepRest_lasting (milliseconds : Float) :
    (sleepRest room milliseconds).Meets .lasting (Machine.IdleWith machine.HasDrained) machine := by
  refine opening_lasting idle fun after idle same => ?_
  have ends {last : Machine} (idle : last.Idle)
      (drained : after.store.schedule.Drained last.store.schedule) :
      (Plan.last (pure .absent)).Meets .lasting (Machine.IdleWith machine.HasDrained) last :=
    .last ⟨.refl _, idle, by rintro fault ⟨⟩, .of_sustains (.of_jobs same) drained⟩
  split
  · refine drain_lasting idle drainBound fun last idle _ drained => ?_
    exact .step rfl (.of_jobs rfl) (ends idle (drained (by decide)))
  · exact runRounds_lasting idle 3 fun last idle _ drained => ends idle (drained (by decide))

end Resting

/-! ## All activities -/

section Performing

variable {action : Action} {arguments : List Value} {room : Nat} {machine : Machine}

theorem refuses_lasting {fault : Fault} (fresh : fault.IsFresh) :
    Promise.lasting.ending (.perform room action arguments) machine (.error fault) machine := by
  refine lasting_ending rfl (fun _ _ _ staged => staged) ?_
  rintro other ⟨⟩
  exact Machine.explains_of_isFresh fresh machine

/-- Host functions that let the jobs run end as promised. -/
theorem idle_lasting (idle : machine.Idle) {plan : Plan Value}
    {more : Except Fault Value → Machine → Prop}
    (meets : plan.Meets .lasting (Machine.IdleWith more) machine) :
    plan.Meets .lasting (Promise.lasting.ending (.perform room action arguments) machine)
      machine := by
  refine meets.mono fun outcome after ⟨ended, explained, _⟩ => ?_
  exact lasting_ending rfl (idle.keepsStages ended) explained

/-- The machine is idle unless a job is executed. -/
theorem idle_of_active (begins : Promise.lasting.before (.perform room action arguments) machine)
    (outside : machine.store.schedule.active = 0) : machine.Idle := by
  obtain ⟨running, batch, stage, staged⟩ := begins
  exact stage.idle staged outside

theorem join_lasting
    (begins : Promise.lasting.before (.perform (room + 1) (.control .join) arguments) machine) :
    (Activity.planJoin room arguments).Meets .lasting
      (Promise.lasting.ending (.perform (room + 1) (.control .join) arguments) machine)
        machine := by
  refine .answering (fun _ _ => ?_) fun fault failed =>
    refuses_lasting (signature_fails .bare _ _ fault failed)
  refine .asking (fun number known => .looking ?_) fun fault failed =>
    refuses_lasting (jobOf_fails .bare _ _ _ fault failed)
  split
  · exact .last ⟨.refl _, refuses_lasting (Fault.isFresh_ofCause _)⟩
  · rename_i outside
    have idle := idle_of_active begins (Nat.eq_zero_of_not_pos outside)
    obtain ⟨job, found⟩ := jobOf_found known
    rw [found]
    exact idle_lasting idle (joinRest_lasting room idle found)

theorem sleep_lasting
    (begins : Promise.lasting.before (.perform (room + 1) (.control .sleep) arguments) machine) :
    (Activity.planSleep room arguments).Meets .lasting
      (Promise.lasting.ending (.perform (room + 1) (.control .sleep) arguments) machine)
        machine := by
  refine .answering (fun _ _ => ?_) fun fault failed =>
    refuses_lasting (signature_fails .bare _ _ fault failed)
  split
  · refine .looking ?_
    split
    · -- Inside a job, a sleep holds up everything else.
      have each (milliseconds : Float) : Plan.Each Modest (fun _ => False)
          (.own (Machine.onStore (sleepInside milliseconds)) fun _ => .last (pure Value.absent)) :=
        ⟨sleepInside_modest milliseconds, fun _ => Modest.pure _⟩
      exact @plan_lasting (.perform (room + 1) (.control .sleep) arguments) rfl _ _ _ (each _)
        (fun modest => modest) (fun _ => False.elim) _ _ begins fun _ _ _ staged => staged
    · rename_i outside
      have idle := idle_of_active begins (Nat.eq_zero_of_not_pos outside)
      exact idle_lasting idle (sleepRest_lasting room idle _)
  · exact .last ⟨.refl _, refuses_lasting (Fault.isFresh_ofCause _)⟩

theorem yield_lasting
    (begins : Promise.lasting.before (.perform (room + 1) (.control .yield) arguments) machine) :
    (Activity.planYield room arguments).Meets .lasting
      (Promise.lasting.ending (.perform (room + 1) (.control .yield) arguments) machine)
        machine := by
  refine .answering (fun _ _ => .looking ?_) fun fault failed =>
    refuses_lasting (signature_fails .bare _ _ fault failed)
  split
  · rename_i outside
    have idle := idle_of_active begins outside
    exact idle_lasting idle (yieldRest_lasting room idle)
  · exact .last ⟨.refl _, lasting_ending rfl (fun _ _ _ staged => staged) (by rintro fault ⟨⟩)⟩

end Performing

/-- The jobs keep their stages whatever is carried out. -/
theorem lasting_kept : Promise.lasting.Kept := by
  intro activity machine begins
  have same : (activity.enter machine).store = machine.store := by cases activity <;> rfl
  refine ⟨.of_jobs (by rw [same]), ?_⟩
  cases activity with
  | runRound room => exact runRound_lasting room begins
  | giveTurn room number =>
      obtain ⟨batch, staged⟩ := begins
      exact giveTurn_lasting room staged
  | perform room action arguments =>
      match room, action with
      | 0, action =>
          have plan : (Activity.perform 0 action arguments).plan = .last (throw .exhausted) := by
            cases action <;> rfl
          rw [plan]
          exact .last ⟨.refl _, refuses_lasting trivial⟩
      | room + 1, .control .join => exact join_lasting begins
      | room + 1, .control .sleep => exact sleep_lasting begins
      | room + 1, .control .yield => exact yield_lasting begins
      | room + 1, .native _ | room + 1, .control .apply | room + 1, .control (.runModule ..) =>
          exact code_lasting rfl rfl begins
  | _ => exact code_lasting rfl rfl begins

/-! ## All requests -/

theorem closeSchedule_eq (store : Store) :
    ∃ after, closeSchedule store = .ok () after ∧ after.objects = store.objects ∧ after.schedule =
      if store.schedule.isOpen then store.schedule.close else store.schedule := by
  unfold closeSchedule
  rw [bind_of_ok (rfl : (get : StoreM Store) store = .ok store store)]
  cases store.schedule.isOpen with
  | true => exact ⟨_, rfl, rfl, rfl⟩
  | false => exact ⟨_, rfl, rfl, rfl⟩

/-- The steps that requests take themselves leave the machine idle, and jobs that have ended keep
their ends. -/
theorem Request.Owns.lasting {β : Type} {steps : MachineM β} (owned : Request.Owns steps)
    {machine : Machine} (idle : machine.Idle) :
    Promise.lasting.along machine (endState (steps machine)) ∧ (endState (steps machine)).Idle := by
  cases owned with
  | modest modest =>
      have ended := modest.lasting machine
      revert ended
      cases steps machine <;> exact fun ended => ⟨ended.1, ended.2.1 none [] idle⟩
  | newRunner => exact ⟨.refl _, idle⟩
  | read =>
      rw [Request.readProgram_endState]
      exact ⟨.refl _, idle⟩
  | close =>
      obtain ⟨after, run, -, schedule⟩ := closeSchedule_eq machine.store
      rw [onStore_of_ok run]
      change machine.store.schedule.Sustains after.schedule ∧ after.schedule.Staged none []
      rw [schedule]
      split
      · exact ⟨.close _, idle.close⟩
      · exact ⟨.refl _, idle⟩

/-- The jobs keep their stages whatever is asked of the machine. -/
theorem lasting_served : Promise.lasting.Served Machine.Idle where
  kept := lasting_kept
  meets request machine idle := by
    refine Promise.meets_of_each request.plan_each Machine.Idle (fun _ _ => True) ?_ ?_ ?_ idle
    · intro β steps owned machine idle
      have ended := Request.Owns.lasting owned idle
      revert ended
      cases steps machine <;> exact fun ended => ⟨ended.1, ended.2, fun _ _ => trivial⟩
    · intro activity begun machine idle
      have code : activity.isCode = true := by
        cases activity with
        | runRound | giveTurn => cases begun
        | _ => rfl
      refine ⟨lasting_before code (fun _ => rfl) idle, fun outcome after _ promised => ?_⟩
      exact ⟨((lasting_after code).mp promised).2 none [] (fun _ => rfl) idle, fun _ _ => trivial⟩
    · exact fun _ _ idle _ => idle

/-! ## How jobs end -/

theorem fetch_endState (number : Nat) (machine : Machine) :
    endState (Activity.fetch number machine) = machine := by
  unfold Activity.fetch
  rw [bind_of_ok (rfl : (get : MachineM Machine) machine = .ok machine machine)]
  cases machine.store.schedule.job? number with
  | none => rfl
  | some job =>
      dsimp only
      cases job.state <;> rfl

namespace Occurrence

variable {root outer inner : Occurrence}

/-- The activity is carried out inside another one while no round of jobs is going on. -/
def Outside : Occurrence → Occurrence → Prop :=
  Relation.ReflTransGen fun outer inner => outer.Holds inner ∧ inner.activity.isCode = true

/-- Code finds the jobs in the stages in which it began all the time. -/
theorem At.staged (code : outer.activity.isCode = true) {running : Option Nat} {batch : List Nat}
    (stage : CodeStage running batch) (staged : outer.machine.store.schedule.Staged running batch)
    {rest : Plan outer.activity.Result} {machine : Machine} (reached : outer.At rest machine) :
    machine.store.schedule.Staged running batch := by
  have begins : Promise.lasting.before outer.activity outer.machine :=
    lasting_before code stage staged
  have entered : (outer.activity.enter outer.machine).store.schedule.Staged running batch := by
    have same : (outer.activity.enter outer.machine).store = outer.machine.store := by
      cases outer.activity <;> rfl
    rw [same]
    exact staged
  refine @Promise.Kept.holds_of_leads _ lasting_kept _ _ _ _
    (fun machine => machine.store.schedule.Staged running batch) ?_ ?_ _ _ reached
    outer.activity.plan_each (lasting_kept _ _ begins).2 entered
  · intro β steps owned machine staged
    generalize outer.activity = activity at owned code
    cases owned with
    | modest modest =>
        have ended := modest.lasting machine
        revert ended
        cases steps machine <;> exact fun ended => ended.2.1 running batch staged
    | fetch room arguments number =>
        rw [fetch_endState]
        exact staged
    | take | cancel | start | finish => cases code
  · intro activity allowed start outcome machine before promised staged
    cases activity with
    | runRound =>
        -- A round takes place outside of all jobs only.
        obtain ⟨rfl, rfl⟩ := stage.eq_none staged before.counted
        exact promised.2.2.1
    | giveTurn =>
        rw [allowed.2] at code
        cases code
    | _ => exact promised.2 running batch stage staged

/-- While no round of jobs is going on, the machine is idle. -/
theorem Outside.idle (code : root.activity.isCode = true) (idle : root.machine.Idle)
    (outside : root.Outside inner) : inner.activity.isCode = true ∧ inner.machine.Idle := by
  induction outside with
  | refl => exact ⟨code, idle⟩
  | tail _ held ih =>
      refine ⟨held.2, ?_⟩
      rcases held.1 with ⟨_, reached⟩ | ⟨_, reached⟩ <;>
        exact reached.staged ih.1 (fun _ => rfl) ih.2

end Occurrence

theorem Machine.Begins.idle {machine : Machine} (idle : machine.Idle) {request : Request}
    {root : Occurrence} (begins : machine.Begins request root) :
    root.activity.isCode = true ∧ root.machine.Idle := by
  obtain ⟨next, leads⟩ := begins
  have code {activity : Activity} (begun : Request.canBegin activity = true) :
      activity.isCode = true := by
    cases activity with
    | runRound | giveTurn => cases begun
    | _ => rfl
  refine ⟨code (request.plan_each.of_leads leads).1, ?_⟩
  refine lasting_kept.holds_of_leads ?_ ?_ leads request.plan_each
    (lasting_served.meets request machine idle) idle
  · exact fun steps owned machine idle => (Request.Owns.lasting owned idle).2
  · intro activity begun start outcome machine _ promised idle
    exact ((lasting_after (code begun)).mp promised).2 none [] (fun _ => rfl) idle

/-- What steps give, apart from the machine. -/
def answerOf {σ α : Type} : EStateM.Result Fault σ α → Except Fault α
  | .ok value _ => .ok value
  | .error fault _ => .error fault

/-- A join of a known job is carried out outside of all jobs. -/
structure Machine.Joins (start : Machine) (room : Nat) (handle : Value) (number : Nat)
    (machine : Machine) : Prop where
  carried : start.Carries ⟨.perform (room + 1) (.control .join) [handle], machine⟩
  outside : machine.store.schedule.active = 0
  known : jobOf machine.store "join" handle = .ok number

/-- How jobs end while requests are served. -/
structure Machine.DrainsJobs (start : Machine) : Prop where
  /-- No job is executed unless a round of jobs is going on. -/
  outside : ∀ requests request root occurrence, (start.serveAll requests).Begins request root →
    root.Outside occurrence → occurrence.machine.store.schedule.active = 0
  /-- After a sleep or a yield outside of all jobs, all jobs of the time before have ended. -/
  rested : ∀ room operation arguments machine value after, operation = .sleep ∨ operation = .yield →
    start.Carries ⟨.perform room (.control operation) arguments, machine⟩ →
    machine.store.schedule.active = 0 →
    perform room (.control operation) arguments machine = .ok value after →
    machine.store.schedule.Drained after.store.schedule
  /-- After a join of a known job outside of all jobs, however it has ended, the job and all earlier
  ones have ended. -/
  joined : ∀ room handle number machine, start.Joins room handle number machine →
    ∀ earlier, 0 < earlier → earlier ≤ number → ∃ job,
      (endState (perform (room + 1) (.control .join) [handle] machine)).store.schedule.job?
        earlier = some job ∧ job.state.isDone = true
  /-- A job that has ended keeps its end; only its failure may get a place. -/
  lasting : ∀ first second, start.Passes first second →
    first.store.schedule.Sustains second.store.schedule
  /-- A join of a job that has ended gives what the job has ended with. -/
  answered : ∀ room handle number machine, start.Joins room handle number machine →
    ∀ first job, start.Passes first machine → first.store.schedule.job? number = some job →
    job.state.isDone = true →
    (answerOf (perform (room + 1) (.control .join) [handle] machine)).mapError Fault.unplaced =
      job.state.answer.mapError Fault.unplaced
  /-- Another join of the same job gives the same value, or an error of the same kind with the same
  message. -/
  repeated : ∀ room handle number machine later again other,
    start.Joins room handle number machine → start.Joins later again number other →
    start.Passes (endState (perform (room + 1) (.control .join) [handle] machine)) other →
    (answerOf (perform (later + 1) (.control .join) [again] other)).mapError Fault.unplaced =
      (answerOf (perform (room + 1) (.control .join) [handle] machine)).mapError Fault.unplaced

/-- How a host function ends whose plan meets an end. -/
theorem perform_ends {room : Nat} {action : Action} {arguments : List Value} {machine : Machine}
    {ending : Except Fault Value → Machine → Prop}
    (meets : (Activity.planPerform room action arguments).Meets .lasting ending machine) :
    EndsAs (fun outcome after => Promise.lasting.along machine after ∧ ending outcome after)
      (perform room action arguments machine) := by
  rw [Activity.perform_eq]
  exact Promise.run_of_meets (Activity.each_perform room action arguments)
    (fun activity _ machine begins => lasting_kept.by_all activity machine begins) meets

/-- How a join of a known job ends. -/
theorem join_ends {room : Nat} {handle : Value} {number : Nat} {machine : Machine}
    (idle : machine.Idle) (known : jobOf machine.store "join" handle = .ok number) :
    let result := perform (room + 1) (.control .join) [handle] machine
    machine.store.schedule.Sustains (endState result).store.schedule ∧ (endState result).Idle ∧
      (endState result).HasEnded number (answerOf result) := by
  have ended := @perform_ends (room + 1) (.control .join) [handle] machine _
    (join_lasting_known room idle known)
  dsimp only
  revert ended
  cases perform (room + 1) (.control .join) [handle] machine <;>
    exact fun ended => ⟨ended.1, ended.2.1, ended.2.2.2⟩

theorem Machine.Joins.idle {start : Machine} (rested : start.Idle) {room : Nat} {handle : Value}
    {number : Nat} {machine : Machine} (joins : start.Joins room handle number machine) :
    machine.Idle :=
  idle_of_active (lasting_served.before rested joins.carried) joins.outside

/-- A sleep or a yield outside of all jobs that returns has let all jobs end. -/
theorem rest_lasting (room : Nat) {operation : Control} (arguments : List Value) {machine : Machine}
    (rests : operation = .sleep ∨ operation = .yield) (idle : machine.Idle) :
    (Activity.planPerform room (.control operation) arguments).Meets .lasting
      (fun outcome after => ∀ value, outcome = .ok value → machine.HasDrained outcome after)
      machine := by
  have weaken (outcome : Except Fault Value) (after : Machine)
      (ended : Machine.IdleWith machine.HasDrained outcome after) :
      ∀ value, outcome = .ok value → machine.HasDrained outcome after :=
    fun _ _ => ended.2.2
  have inactive : machine.store.schedule.active = 0 := idle.counted
  match room with
  | 0 => exact .last ⟨.refl _, by rintro value ⟨⟩⟩
  | room + 1 =>
      rcases rests with rfl | rfl
      · refine .answering (fun _ _ => ?_) fun _ _ => by rintro value ⟨⟩
        split
        · refine .looking ?_
          rw [if_neg (by rw [inactive]; exact Nat.lt_irrefl 0)]
          exact (sleepRest_lasting room idle _).mono weaken
        · exact .last ⟨.refl _, by rintro value ⟨⟩⟩
      · refine .answering (fun _ _ => .looking ?_) fun _ _ => by rintro value ⟨⟩
        rw [if_pos inactive]
        exact (yieldRest_lasting room idle).mono weaken

/-- Whatever is asked of a machine without jobs: outside of all jobs, a sleep or a yield
that returns has let all jobs end that were there before, and a join of a known job has let
it end together with all earlier ones.  A job that has ended stays so, and every join of it
gives the same. -/
theorem serveAll_drainsJobs (start : Machine) (fresh : start.store.schedule = {}) :
    start.DrainsJobs := by
  have rested : start.Idle := Machine.idle_of_fresh fresh
  have lasting {first second : Machine} (passes : start.Passes first second) :
      first.store.schedule.Sustains second.store.schedule :=
    lasting_served.along rested passes
  have answered {room : Nat} {handle : Value} {number : Nat} {first machine : Machine}
      (joins : start.Joins room handle number machine) {job : Job}
      (passes : start.Passes first machine)
      (found : first.store.schedule.job? number = some job) (done : job.state.isDone = true) :
      (answerOf (perform (room + 1) (.control .join) [handle] machine)).mapError Fault.unplaced =
        job.state.answer.mapError Fault.unplaced := by
    obtain ⟨sustains, -, ended, present, -, answer⟩ := join_ends (joins.idle rested) joins.known
    obtain ⟨later, found, -, -, same⟩ := (lasting passes).trans sustains number job found
    rw [present] at found
    cases found
    rw [answer]
    exact (same done).answer
  refine ⟨?_, ?_, ?_, fun _ _ => lasting, ?_, ?_⟩
  · intro requests request root occurrence begins outside
    obtain ⟨code, idle⟩ := begins.idle (lasting_served.serveAll rested requests)
    exact (outside.idle code idle).2.counted
  · intro room operation arguments machine value after rests carried outside returned
    have idle := idle_of_active (lasting_served.before rested carried) outside
    exact ((perform_ends (rest_lasting room arguments rests idle)).of_ok returned).2 value rfl
  · intro room handle number machine joins earlier positive le
    obtain ⟨-, idle, job, found, done, -⟩ := join_ends (joins.idle rested) joins.known
    obtain ⟨other, present⟩ := Schedule.exists_job? positive
      (Nat.le_trans le (Schedule.job?_bounds found).2)
    exact ⟨other, present, idle.isDone_of_le found done present le⟩
  · exact fun room handle number machine joins first job passes => answered joins passes
  · intro room handle number machine later again other joins rejoins passes
    obtain ⟨-, -, job, found, done, answer⟩ := join_ends (joins.idle rested) joins.known
    rw [answered rejoins passes found done, answer]

/-- A function is spawned and joined: the job has ended after the join. -/
theorem serveAll_drainsJobs_spawned :
    let start : Machine := .unused ((FileTree.directory []).disk "/") 1 0.0
    let served := start.serveAll [.perform 9 (.native .spawn) [.host 0]]
    start.store.schedule = {} ∧ jobOf served.store "join" (.host 2) = .ok 1 ∧
      ∃ job, (endState (perform 9 (.control .join) [.host 2] served)).store.schedule.job? 1 =
        some job ∧ job.state.isDone = true := by
  intro start served
  have ended (served : Machine) (requests : List Request) (same : served = start.serveAll requests)
      (outside : served.store.schedule.active = 0)
      (known : jobOf served.store "join" (.host 2) = .ok 1) :
      ∃ job, (endState (perform 9 (.control .join) [.host 2] served)).store.schedule.job? 1 =
        some job ∧ job.state.isDone = true := by
    subst same
    let root : Occurrence := ⟨.perform 9 (.control .join) [.host 2], start.serveAll requests⟩
    refine (serveAll_drainsJobs start rfl).joined 8 (.host 2) 1 (start.serveAll requests) ?_ 1
      Nat.one_pos (Nat.le_refl 1)
    exact ⟨⟨requests, .perform 9 (.control .join) [.host 2], root, ⟨_, .refl⟩, .refl⟩,
      outside, known⟩
  have outside : served.store.schedule.active = 0 := by decide +kernel
  have known : jobOf served.store "join" (.host 2) = .ok 1 := by decide +kernel
  exact ⟨rfl, known, ended served _ rfl outside known⟩

end Scriptlet
