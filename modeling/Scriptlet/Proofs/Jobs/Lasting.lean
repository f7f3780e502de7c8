import Scriptlet.Proofs.Activity.Failure
import Scriptlet.Proofs.Activity.Promise
import Scriptlet.Proofs.Jobs.Stages

/-!
# Jobs during activities

Whatever is carried out, the jobs keep their stages: code is executed outside of all jobs or inside
one of them, rounds take place outside only, and each turn of a round ends a job.  A script error
that belongs to a job is the failure that is recorded for the job.
-/

namespace Scriptlet

/-- Code is executed inside a job, or outside of all rounds. -/
def CodeStage (running : Option Nat) (batch : List Nat) : Prop :=
  running = none → batch = []

/-- The stages of the one machine are kept in the other one. -/
def Machine.KeepsStages (start machine : Machine) : Prop :=
  ∀ running batch, CodeStage running batch → start.store.schedule.Staged running batch →
    machine.store.schedule.Staged running batch

/-- Whether an activity is no round of jobs and no turn in one. -/
def Activity.isCode : Activity → Bool
  | .runRound _ | .giveTurn _ _ => false
  | _ => true

/-- A script error that belongs to a job is the failure of the job. -/
def Machine.Explains (machine : Machine) (fault : Fault) : Prop :=
  ∀ e, fault = .script e → machine.store.schedule.Blames e

theorem Machine.explains_of_isFresh {fault : Fault} (fresh : fault.IsFresh) (machine : Machine) :
    machine.Explains fault := by
  rintro e rfl number task
  rw [fresh.2] at task
  cases task

/-- The jobs keep their stages, and those that have ended keep their ends. -/
def Promise.lasting : Promise where
  before activity machine := match activity with
    | .runRound _ => machine.store.schedule.Staged none []
    | .giveTurn _ number => ∃ batch, machine.store.schedule.Staged none (number :: batch)
    | _ => ∃ running batch, CodeStage running batch ∧ machine.store.schedule.Staged running batch
  after activity start outcome machine :=
    (∀ fault, outcome = .error fault → machine.Explains fault) ∧ match activity with
    | .runRound _ => (∀ fault, outcome ≠ .error fault) ∧ machine.store.schedule.Staged none [] ∧
        start.store.schedule.Drained machine.store.schedule
    | .giveTurn _ number => (∀ fault, outcome ≠ .error fault) ∧
        (∀ batch, start.store.schedule.Staged none (number :: batch) →
          machine.store.schedule.Staged none batch) ∧
        ∃ job, machine.store.schedule.job? number = some job ∧ job.state.isDone = true
    | _ => start.KeepsStages machine
  along before after := before.store.schedule.Sustains after.store.schedule
  refl machine := .refl machine.store.schedule
  trans := .trans

theorem lasting_before {activity : Activity} (code : activity.isCode = true) {machine : Machine}
    {running : Option Nat} {batch : List Nat} (stage : CodeStage running batch)
    (staged : machine.store.schedule.Staged running batch) :
    Promise.lasting.before activity machine := by
  cases activity with
  | runRound | giveTurn => cases code
  | _ => exact ⟨running, batch, stage, staged⟩

theorem lasting_staged {activity : Activity} (code : activity.isCode = true) {machine : Machine}
    (begins : Promise.lasting.before activity machine) :
    ∃ running batch, CodeStage running batch ∧
      machine.store.schedule.Staged running batch := by
  cases activity with
  | runRound | giveTurn => cases code
  | _ => exact begins

theorem lasting_after {activity : Activity} (code : activity.isCode = true)
    {start machine : Machine} {outcome : Except Fault activity.Result} :
    Promise.lasting.after activity start outcome machine ↔
      (∀ fault, outcome = .error fault → machine.Explains fault) ∧ start.KeepsStages machine := by
  cases activity with
  | runRound | giveTurn => cases code
  | _ => exact .rfl

/-! ## Own steps -/

/-- What modest steps do to the jobs. -/
theorem Modest.lasting {α : Type} {steps : MachineM α} (modest : Modest steps) (machine : Machine) :
    EndsAs (fun outcome after => Promise.lasting.along machine after ∧
      (∀ running batch, machine.store.schedule.Staged running batch →
        after.store.schedule.Staged running batch) ∧
      ∀ fault, outcome = .error fault → after.Explains fault) (steps machine) := by
  have since := modest.steady (.since machine.store.schedule) machine
    (obeys_bare.mpr (Schedule.Sustains.refl _))
  have staged (running : Option Nat) (batch : List Nat)
      (held : machine.store.schedule.Staged running batch) :=
    modest.steady (.staged running batch) machine (obeys_bare.mpr held)
  revert since staged
  generalize steps machine = result
  rintro (⟨sustains, -⟩ | ⟨sustains, fresh⟩) staged
  · have kept := obeys_bare.mp sustains
    refine ⟨kept, fun running batch held => ?_, ?_⟩
    · cases staged running batch held with
      | ok kept => exact obeys_bare.mp kept
    · rintro fault ⟨⟩
  · have kept := obeys_bare.mp sustains
    refine ⟨kept, fun running batch held => ?_, ?_⟩
    · cases staged running batch held with
      | error kept => exact obeys_bare.mp kept
    · rintro fault ⟨⟩
      exact Machine.explains_of_isFresh fresh _

/-- A located error is still the failure of its job. -/
theorem locateFault_lasting {runner : RunnerId} {span : Span} {fault handled : Fault}
    {machine after : Machine} (located : locateFault runner span fault machine = .ok handled after)
    (explained : machine.Explains fault) :
    Promise.lasting.along machine after ∧ machine.KeepsStages after ∧ after.Explains handled := by
  rcases locateFault_cases located with ⟨rfl, rfl, -⟩ | ⟨e, line, rfl, -, rfl, owner⟩
  · exact ⟨.refl _, fun _ _ _ staged => staged, explained⟩
  · rcases owner with ⟨task, rfl⟩ | ⟨number, task, same⟩
    · refine ⟨.refl _, fun _ _ _ staged => staged, ?_⟩
      rintro other ⟨⟩ number named
      rw [ScriptError.task_locate, task] at named
      cases named
    · obtain ⟨job, found, failed⟩ := explained e rfl number task
      have schedule : after.store.schedule =
          machine.store.schedule.setState number (.failed (.script (e.locate span line))) := by
        rw [← same]
        rfl
      have tagged : JobState.IsTagged number (.failed (.script (e.locate span line))) := by
        rintro other ⟨⟩
        rw [ScriptError.task_locate, task]
      refine ⟨?_, fun running batch _ staged => ?_, ?_⟩
      · change machine.store.schedule.Sustains after.store.schedule
        rw [schedule]
        refine .setState fun other present _ => ?_
        rw [found] at present
        cases present
        exact .inr ⟨e, span, line, failed, rfl⟩
      · rw [schedule]
        refine staged.restate found ?_ ?_ tagged <;> rw [failed] <;> rfl
      · rintro other ⟨⟩ named owner
        rw [tagged _ rfl] at owner
        cases owner
        refine ⟨{ job with state := .failed (.script (e.locate span line)) }, ?_, rfl⟩
        rw [schedule, Schedule.job?_setState, if_pos rfl, found]
        rfl

theorem Machine.explains_report (name : String) {fault : Fault} {machine : Machine}
    (explained : machine.Explains fault) : machine.Explains (reportFailure name fault) := by
  unfold reportFailure
  split
  · split
    · exact Machine.explains_of_isFresh (Fault.isFresh_ofCause _) machine
    · rintro e ⟨⟩
  · exact explained

/-- What becomes of the fault of an activity is explained as well. -/
theorem handle_lasting {activity : Activity} {fault handled : Fault} {machine after : Machine}
    (handling : activity.handle fault machine = .ok handled after)
    (explained : machine.Explains fault) :
    Promise.lasting.along machine after ∧ machine.KeepsStages after ∧ after.Explains handled := by
  have same {after : Machine} (same : after.store.schedule = machine.store.schedule) :
      Promise.lasting.along machine after ∧ machine.KeepsStages after := by
    refine ⟨.of_jobs (by rw [same]), fun running batch _ staged => ?_⟩
    rw [same]
    exact staged
  cases activity with
  | evaluate | execute => exact locateFault_lasting handling explained
  | callHost name room action arguments =>
      cases handling
      have reported := Machine.explains_report name explained
      exact ⟨(same rfl).1, (same rfl).2, reported⟩
  | runBody =>
      cases fault with
      | exhausted =>
          cases handling
          exact ⟨(same rfl).1, (same rfl).2,
            Machine.explains_of_isFresh (Fault.isFresh_ofCause _) machine⟩
      | _ =>
          cases handling
          exact ⟨(same rfl).1, (same rfl).2, explained⟩
  | _ =>
      cases handling
      exact ⟨(same rfl).1, (same rfl).2, explained⟩

theorem Machine.KeepsStages.trans {first second third : Machine} (before : first.KeepsStages second)
    (after : second.KeepsStages third) : first.KeepsStages third :=
  fun running batch stage staged => after running batch stage (before running batch stage staged)

/-- Code ends as promised if the jobs are in the stages in which it began. -/
theorem lasting_ending {activity : Activity} (code : activity.isCode = true)
    {start machine : Machine} (kept : start.KeepsStages machine)
    {outcome : Except Fault activity.Result}
    (explained : ∀ fault, outcome = .error fault → machine.Explains fault) :
    Promise.lasting.ending activity start outcome machine := by
  cases outcome with
  | ok value =>
      have same : (activity.leave machine).store = machine.store := by cases activity <;> rfl
      refine ⟨.of_jobs (by rw [same]), (lasting_after code).mpr ⟨by rintro fault ⟨⟩, ?_⟩⟩
      refine kept.trans fun running batch _ staged => ?_
      rw [same]
      exact staged
  | error fault =>
      intro handled after handling
      obtain ⟨way, onward, explained⟩ := handle_lasting handling (explained fault rfl)
      refine ⟨way, (lasting_after code).mpr ⟨fun other same => ?_, kept.trans onward⟩⟩
      cases same
      exact explained

/-! ## Code -/

theorem Activity.isCode_of_allows {outer inner : Activity} (code : outer.isCode = true)
    (still : outer.drives = false) (allowed : outer.Allows inner) : inner.isCode = true := by
  cases inner with
  | runRound => cases still.symm.trans allowed.2
  | giveTurn =>
      rw [allowed.2] at code
      cases code
  | _ => rfl

theorem Activity.Owns.modest_of_isCode {activity : Activity} {β : Type} {steps : MachineM β}
    (owned : activity.Owns steps) (code : activity.isCode = true)
    (still : activity.drives = false) :
    Modest steps := by
  cases owned with
  | modest modest => exact modest
  | fetch => cases still
  | take | cancel | start | finish => cases code

/-- A plan of code keeps the stages if its own steps are modest and its parts are code. -/
theorem plan_lasting {activity : Activity} (code : activity.isCode = true)
    {plan : Plan activity.Result} {own : {β : Type} → MachineM β → Prop} {part : Activity → Prop}
    (each : plan.Each own part)
    (modest : ∀ {β : Type} {steps : MachineM β}, own steps → Modest steps)
    (inside : ∀ inner, part inner → inner.isCode = true) {start machine : Machine}
    (begins : Promise.lasting.before activity start) (kept : start.KeepsStages machine) :
    plan.Meets .lasting (Promise.lasting.ending activity start) machine := by
  obtain ⟨running, batch, stage, staged⟩ := lasting_staged code begins
  refine Promise.meets_of_each each start.KeepsStages (fun fault machine => machine.Explains fault)
    ?_ ?_ ?_ kept
  · intro β steps owned middle kept
    have ended := (modest owned).lasting middle
    revert ended
    cases steps middle <;> exact fun ⟨way, onward, explained⟩ =>
      ⟨way, kept.trans fun running batch _ => onward running batch, explained⟩
  · intro inner allowed middle kept
    have code := inside inner allowed
    refine ⟨lasting_before code stage (kept running batch stage staged), ?_⟩
    intro outcome after _ promised
    obtain ⟨explained, onward⟩ := (lasting_after code).mp promised
    exact ⟨kept.trans onward, explained⟩
  · exact fun outcome middle kept explained => lasting_ending code kept explained

/-- Code that lets no jobs run itself keeps the stages as long as its parts do. -/
theorem code_lasting {activity : Activity} (code : activity.isCode = true)
    (still : activity.drives = false) {machine : Machine}
    (begins : Promise.lasting.before activity machine) :
    activity.plan.Meets .lasting (Promise.lasting.ending activity machine)
      (activity.enter machine) := by
  have same : (activity.enter machine).store = machine.store := by cases activity <;> rfl
  refine plan_lasting code activity.plan_each (fun owned => owned.modest_of_isCode code still)
    (fun inner allowed => Activity.isCode_of_allows code still allowed) begins ?_
  intro running batch _ staged
  rw [same]
  exact staged

/-! ## Rounds -/

/-- If no job is ready outside of all rounds, all jobs have ended. -/
theorem Schedule.Staged.drained_of_isEmpty {schedule : Schedule} (staged : schedule.Staged none [])
    (empty : schedule.ready.isEmpty = true) : schedule.Drained schedule := by
  intro number job found
  refine ⟨job, found, staged.isDone_of_not_waiting found (Bool.eq_false_iff.mpr fun waits => ?_)⟩
  obtain ⟨first, inside, queue, waiting⟩ := staged.queued
  have behind := (waiting number job found).mp waits
  have bounds := Schedule.job?_bounds found
  rw [Array.isEmpty_iff.mp empty] at queue
  have none : schedule.jobs.size - first = 0 := by simpa using (congrArg List.length queue).symm
  omega

section Rounds

variable {α : Type} {room : Nat} {next : Plan α} {ending : Except Fault α → Machine → Prop}

/-- What follows rounds of jobs finds the earlier jobs ended. -/
theorem runRounds_lasting {machine : Machine} (staged : machine.store.schedule.Staged none [])
    (count : Nat) (rest : ∀ after : Machine, after.store.schedule.Staged none [] →
      machine.store.schedule.Sustains after.store.schedule →
      (0 < count → machine.store.schedule.Drained after.store.schedule) →
      next.Meets .lasting ending after) :
    (Plan.runRounds room next count).Meets .lasting ending machine := by
  induction count generalizing machine with
  | zero => exact rest machine staged (.refl _) nofun
  | succ count ih =>
      refine ⟨staged, fun outcome after way ⟨_, succeeds, staged, drained⟩ => ?_⟩
      cases outcome with
      | error fault => exact absurd rfl (succeeds fault)
      | ok =>
          refine ih staged fun later staged sustains _ => ?_
          exact rest later staged (way.trans sustains) fun _ => drained.sustained sustains

theorem drain_lasting {machine : Machine} (staged : machine.store.schedule.Staged none [])
    (bound : Nat) (rest : ∀ after : Machine, after.store.schedule.Staged none [] →
      machine.store.schedule.Sustains after.store.schedule →
      (0 < bound → machine.store.schedule.Drained after.store.schedule) →
      next.Meets .lasting ending after) :
    (Plan.drain room next bound).Meets .lasting ending machine := by
  induction bound generalizing machine with
  | zero => exact rest machine staged (.refl _) nofun
  | succ bound ih =>
      refine .looking ?_
      split
      · rename_i empty
        exact rest machine staged (.refl _) fun _ => staged.drained_of_isEmpty empty
      · refine ⟨staged, fun outcome after way ⟨_, succeeds, staged, drained⟩ => ?_⟩
        cases outcome with
        | error fault => exact absurd rfl (succeeds fault)
        | ok =>
            refine ih staged fun later staged sustains _ => ?_
            exact rest later staged (way.trans sustains) fun _ => drained.sustained sustains

end Rounds

theorem giveTurns_lasting {room : Nat} {start machine : Machine} {numbers : List Nat}
    (staged : machine.store.schedule.Staged none numbers)
    (left : ∀ number job, start.store.schedule.job? number = some job → number ∈ numbers ∨
      ∃ later, machine.store.schedule.job? number = some later ∧ later.state.isDone = true) :
    (Plan.giveTurns room numbers).Meets .lasting (Promise.lasting.ending (.runRound room) start)
      machine := by
  induction numbers generalizing machine with
  | nil =>
      refine .last ⟨.refl _, .refl _, by rintro fault ⟨⟩, by rintro fault ⟨⟩, staged, ?_⟩
      intro number job found
      exact (left number job found).resolve_left List.not_mem_nil
  | cons number rest ih =>
      refine ⟨⟨rest, staged⟩, fun outcome after way ⟨_, succeeds, turned, ended⟩ => ?_⟩
      cases outcome with
      | error fault => exact absurd rfl (succeeds fault)
      | ok =>
          refine ih (turned rest staged) fun other job found => ?_
          rcases left other job found with waits | ⟨middle, present, done⟩
          · rcases List.mem_cons.mp waits with rfl | waits
            · exact .inr ended
            · exact .inl waits
          · obtain ⟨later, present, -, -, same⟩ := way other middle present
            exact .inr ⟨later, present, (same done).isDone done⟩

/-- A round gives all jobs that are ready their turn. -/
theorem runRound_lasting (room : Nat) {machine : Machine}
    (staged : machine.store.schedule.Staged none []) :
    (Activity.runRound room).plan.Meets .lasting
      (Promise.lasting.ending (.runRound room) machine) machine := by
  refine .step rfl (Schedule.Sustains.of_jobs rfl) ?_
  refine giveTurns_lasting staged.take fun number job found => ?_
  obtain ⟨first, inside, queue, waiting⟩ := staged.queued
  cases waits : job.state.isWaiting with
  | true =>
      have behind := (waiting number job found).mp waits
      have bounds := Schedule.job?_bounds found
      refine .inl ?_
      rw [List.nil_append] at queue
      rw [queue, List.mem_range'_1]
      omega
  | false => exact .inr ⟨job, found, staged.isDone_of_not_waiting found waits⟩

/-! ## Turns -/

/-- The end of a job that has been executed. -/
def endOf (number : Nat) (outcome : Except Fault Value) (before : JobState) : JobState :=
  match outcome with
  | .ok value => endedNormally value before
  | .error fault => .failed (failureOf number fault)

theorem isDone_endOf (number : Nat) (outcome : Except Fault Value) (before : JobState) :
    (endOf number outcome before).isDone = true := by
  cases outcome with
  | ok value =>
      unfold endOf endedNormally
      dsimp only
      split <;> rfl
  | error => rfl

theorem isTagged_endOf (number : Nat) (outcome : Except Fault Value) (before : JobState) :
    JobState.IsTagged number (endOf number outcome before) := by
  intro e failed
  cases outcome with
  | ok value =>
      unfold endOf endedNormally at failed
      dsimp only at failed
      split at failed <;> cases failed
  | error fault =>
      cases fault with
      | script => cases failed; rfl
      | _ => cases failed

theorem settled_eq {schedule : Schedule} {number : Nat} {job : Job}
    (found : schedule.job? number = some job) (outcome : Except Fault Value) :
    Activity.settled number outcome schedule =
      schedule.setState number (endOf number outcome job.state) := by
  cases outcome with
  | ok value => simp only [Activity.settled, found, endOf]
  | error fault => rfl

theorem endJob_ok {number : Nat} {machine : Machine} {job : Job}
    (found : machine.store.schedule.job? number = some job) (outcome : Except Fault Value) :
    ∃ after, Activity.endJob number outcome machine = .ok () after ∧ after.store.schedule =
      { machine.store.schedule.setState number (endOf number outcome job.state) with
        active := machine.store.schedule.active - 1 } := by
  have positive := (Schedule.job?_bounds found).1
  have moved (state : JobState) (active : Nat) :
      { machine.store.schedule with active := active }.setState number state =
        { machine.store.schedule.setState number state with active := active } := by
    simp only [Schedule.setState, if_neg (Nat.ne_of_gt positive)]
  have stopped : { machine.store.schedule with
      active := machine.store.schedule.active - 1 }.job? number = some job := found
  exact ⟨_, rfl, (settled_eq stopped outcome).trans (moved _ _)⟩

/-- A turn ends as promised if its job has ended and the others are left. -/
theorem turn_ending {room number : Nat} {start machine : Machine}
    (turned : ∀ batch, start.store.schedule.Staged none (number :: batch) →
      machine.store.schedule.Staged none batch) {job : Job}
    (found : machine.store.schedule.job? number = some job) (done : job.state.isDone = true) :
    Promise.lasting.ending (.giveTurn room number) start (.ok ()) machine :=
  ⟨.refl _, by rintro fault ⟨⟩, by rintro fault ⟨⟩, turned, job, found, done⟩

section Turns

variable {room number : Nat} {machine : Machine} {job : Job}
  (found : machine.store.schedule.job? number = some job)

include found

/-- A job that was cancelled ends at its turn. -/
theorem cancelTurn_lasting (undone : job.state.isDone = false) :
    (Plan.last (Machine.onStore (changeSchedule fun schedule =>
      schedule.setState number .cancelled))).Meets .lasting
        (Promise.lasting.ending (.giveTurn room number) machine) machine := by
  refine .last ⟨.setState_of_undone found undone .cancelled, turn_ending (fun batch staged => ?_)
    (?_ : _ = some { job with state := .cancelled }) rfl⟩
  · refine staged.turn rfl (by rintro e ⟨⟩) (by simp [JobState.isRunning]) ?_ rfl ?_ ?_
    · rintro other ⟨⟩
    · exact Schedule.ready_setState ..
    · exact (Schedule.active_setState ..).trans staged.counted
  · change (machine.store.schedule.setState number .cancelled).job? number = _
    rw [Schedule.job?_setState, if_pos rfl, found]
    rfl

/-- A job that has been executed ends. -/
theorem endTurn_lasting {start : Machine} (runs : job.state.isRunning = true)
    (running : ∀ batch, start.store.schedule.Staged none (number :: batch) →
      machine.store.schedule.Staged (some number) batch) (outcome : Except Fault Value) :
    (Plan.last (Activity.endJob number outcome)).Meets .lasting
      (Promise.lasting.ending (.giveTurn room number) start) machine := by
  have undone : job.state.isDone = false := by
    cases state : job.state <;> simp_all [JobState.isDone, JobState.isRunning]
  obtain ⟨last, ended, schedule⟩ := endJob_ok found outcome
  refine .last ?_
  rw [ended]
  have done := isDone_endOf number outcome job.state
  refine ⟨?_, turn_ending (fun batch staged => ?_)
    (?_ : _ = some { job with state := endOf number outcome job.state }) done⟩
  · refine (Schedule.Sustains.setState_of_undone found undone
      (endOf number outcome job.state)).trans (.of_jobs ?_)
    rw [schedule]
  · refine (running batch staged).stop done (isTagged_endOf number outcome job.state) ?_ ?_ ?_ <;>
      rw [schedule]
    · exact Schedule.ready_setState ..
    · exact congrArg (· - 1) (running batch staged).counted
  · rw [schedule]
    change (machine.store.schedule.setState number _).job? number = _
    rw [Schedule.job?_setState, if_pos rfl, found]
    rfl

end Turns

/-- A job whose turn it is ends. -/
theorem giveTurn_lasting (room : Nat) {number : Nat} {machine : Machine} {batch : List Nat}
    (staged : machine.store.schedule.Staged none (number :: batch)) :
    (Activity.giveTurn room number).plan.Meets .lasting
      (Promise.lasting.ending (.giveTurn room number) machine) machine := by
  obtain ⟨⟨job, found, waits⟩, -⟩ := staged.next
  refine .looking ?_
  rw [found]
  dsimp only
  cases state : job.state with
  | waiting requested =>
      have undone : job.state.isDone = false := by rw [state]; rfl
      cases requested with
      | true => exact cancelTurn_lasting found undone
      | false =>
          let executed : Schedule :=
            { machine.store.schedule.setState number (.running false) with
              active := machine.store.schedule.active + 1 }
          have executing (batch : List Nat)
              (staged : machine.store.schedule.Staged none (number :: batch)) :
              executed.Staged (some number) batch := by
            refine staged.turn rfl (by rintro e ⟨⟩) (by simp [JobState.isRunning])
              (fun other same => (Option.some.inj same).symm) rfl ?_ ?_
            · exact Schedule.ready_setState ..
            · exact congrArg (· + 1) staged.counted
          have way : machine.store.schedule.Sustains executed :=
            (Schedule.Sustains.setState_of_undone found undone (.running false)).trans
              (.of_jobs rfl)
          have taken (absent : some number = none) : False := Option.some_ne_none number absent
          refine .step rfl way
            ⟨⟨some number, batch, fun absent => (taken absent).elim, executing batch staged⟩, ?_⟩
          intro outcome after _ promised
          have kept := promised.2
          have running (batch : List Nat)
              (staged : machine.store.schedule.Staged none (number :: batch)) :
              after.store.schedule.Staged (some number) batch :=
            kept (some number) batch (fun absent => (taken absent).elim) (executing batch staged)
          obtain ⟨current, present⟩ := Schedule.exists_job? (Schedule.job?_bounds found).1
            ((running batch staged).present number rfl)
          have runs := ((running batch staged).executed number current present).mpr rfl
          exact endTurn_lasting present runs running outcome
  | _ =>
      rw [state] at waits
      cases waits

end Scriptlet
