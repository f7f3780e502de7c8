import Scriptlet.Proofs.Jobs.Draining

/-!
# The errors of jobs

Inside of a job nothing is raised but new errors, since a join is refused there.  So the
error that is kept of a job is the one with which its function has failed, and this is what a
join raises again.
-/

namespace Scriptlet

/-! ## What activities raise -/

theorem Modest.isFresh {α : Type} {steps : MachineM α} (modest : Modest steps)
    {machine after : Machine} {fault : Fault} (run : steps machine = .error fault after) :
    fault.IsFresh := by
  have ended := modest.steady (.since machine.store.schedule) machine
    (obeys_bare.mpr (Schedule.Sustains.refl _))
  rw [run] at ended
  cases ended with
  | error _ fresh => exact fresh

namespace Occurrence

variable {root outer inner : Occurrence} {e : ScriptError}

/-- The activity waits for a job. -/
def IsJoin (occurrence : Occurrence) : Prop :=
  ∃ room arguments, occurrence.activity = .perform room (.control .join) arguments

/-- A join has come to a machine at which a job has failed. -/
def Rejoins (occurrence : Occurrence) (number : Nat) (e : ScriptError) : Prop :=
  occurrence.IsJoin ∧ ∃ rest machine job, occurrence.At rest machine ∧
    machine.store.schedule.job? number = some job ∧ job.state = .failed (.script e)

/-- What an activity raises itself is fresh, unless it is a join. -/
theorem isFresh_or_rejoins {rest : Plan inner.activity.Result} {machine after : Machine}
    (reached : inner.At rest machine) {β : Type} {steps : MachineM β}
    (owned : inner.activity.Owns steps) (run : steps machine = .error (.script e) after) :
    (Fault.script e).IsFresh ∨ ∃ number, inner.Rejoins number e := by
  generalize same : inner.activity = activity at owned
  cases owned with
  | modest modest => exact .inl (modest.isFresh run)
  | fetch room arguments number =>
      cases found : machine.store.schedule.job? number with
      | none =>
          unfold Activity.fetch at run
          rw [bind_of_ok (rfl : (get : MachineM Machine) machine = .ok machine machine),
            found] at run
          cases run
          exact .inl (Fault.isFresh_ofCause _)
      | some job =>
          rw [fetch_eq found] at run
          cases state : job.state with
          | failed fault =>
              rw [state] at run
              cases run
              exact .inr
                ⟨number, ⟨room, arguments, same⟩, rest, machine, job, reached, found, state⟩
          | returned =>
              rw [state] at run
              cases run
          | _ =>
              rw [state] at run
              cases run
              exact .inl (Fault.isFresh_ofCause _)
  | take | cancel | start | finish => cases run

theorem Throws.isFresh_or_rejoins (throws : inner.Throws e) :
    (Fault.script e).IsFresh ∨ ∃ number, inner.Rejoins number e := by
  cases throws with
  | own reached run =>
      exact Occurrence.isFresh_or_rejoins reached (inner.activity.plan_each.of_leads reached).1 run
  | last reached run =>
      exact Occurrence.isFresh_or_rejoins reached (inner.activity.plan_each.of_leads reached) run
  | report _ other handling => exact .inl (Activity.handle_other other handling).2

/-- What is raised outside of all nodes is what the activity fails with. -/
theorem Throws.fails (plain : inner.activity.span? = none) (throws : inner.Throws e) :
    inner.Fails e := by
  have handled {rest : Plan inner.activity.Result} {machine after : Machine}
      (reached : inner.At rest machine) (run : rest.run machine = .error (.script e) after) :
      inner.Fails e := by
    obtain ⟨handled, last, handling⟩ := inner.activity.handle_ok (.script e) after
    cases (Activity.handle_plain plain handling).1
    exact ⟨last, outcome_of_ends reached run handling⟩
  cases throws with
  | own reached run => exact handled reached (bind_of_error run)
  | last reached run => exact handled reached run
  | report run _ handling => exact ⟨_, Activity.steps_of_error run handling⟩

theorem Escapes.task_eq {thrown : ScriptError} (escapes : outer.Escapes inner thrown e) :
    e.task = thrown.task := by
  cases escapes with
  | placed | unplaced | located => rfl

/-! ## Inside of jobs -/

/-- Code that is executed by a job. -/
def InJob (occurrence : Occurrence) : Prop :=
  occurrence.activity.isCode = true ∧
    ∃ number batch, occurrence.machine.store.schedule.Staged (some number) batch

theorem InJob.enters (inJob : outer.InJob) (enters : outer.Enters inner) : inner.InJob := by
  obtain ⟨code, number, batch, staged⟩ := inJob
  have stage : CodeStage (some number) batch := nofun
  have begins := lasting_kept.before_of_holds (lasting_before code stage staged) (.inl enters)
  obtain ⟨next, reached⟩ := enters
  have staged := reached.staged code stage staged
  refine ⟨?_, number, batch, staged⟩
  have allowed := (outer.activity.plan_each.of_leads reached).1
  cases activity : inner.activity with
  | runRound =>
      -- Rounds take place outside of all jobs only.
      rw [activity] at begins
      cases staged.counted.symm.trans begins.counted
  | giveTurn =>
      rw [activity] at allowed
      rw [allowed.2] at code
      cases code
  | _ => rfl

theorem InJob.surrounds (inJob : outer.InJob) (surrounds : outer.Surrounds inner) :
    inner.InJob := by
  induction surrounds with
  | refl => exact inJob
  | tail _ enters ih => exact ih.enters enters

end Occurrence

/-- A join inside of a job is refused. -/
theorem join_isFresh {room : Nat} {arguments : List Value} {machine after : Machine} {fault : Fault}
    (inside : 0 < machine.store.schedule.active)
    (run : perform room (.control .join) arguments machine = .error fault after) :
    fault.IsFresh := by
  have meets : (Activity.planPerform room (.control .join) arguments).Meets .lasting
      (fun outcome _ => ∀ fault, outcome = .error fault → fault.IsFresh) machine := by
    cases room with
    | zero => exact .last ⟨.refl _, by rintro fault ⟨⟩; trivial⟩
    | succ room =>
        refine .answering (fun _ _ => .asking (fun number _ => .looking ?_) ?_) ?_
        · rw [if_pos inside]
          exact .last ⟨.refl _, by rintro fault ⟨⟩; exact Fault.isFresh_ofCause _⟩
        · rintro cause failed other ⟨⟩
          exact jobOf_fails .bare _ _ _ cause failed
        · rintro cause failed other ⟨⟩
          exact signature_fails .bare _ _ cause failed
  exact ((perform_ends meets).of_error run).2 fault rfl

namespace Occurrence

variable {root outer inner : Occurrence} {e : ScriptError}

/-- Inside of a job, nothing raises the failure of another one. -/
theorem InJob.isFresh (inJob : inner.InJob) (throws : inner.Throws e) :
    (Fault.script e).IsFresh := by
  rcases throws.isFresh_or_rejoins with fresh | ⟨number, ⟨room, arguments, joins⟩, -⟩
  · exact fresh
  · obtain ⟨-, running, batch, staged⟩ := inJob
    obtain ⟨activity, machine⟩ := inner
    cases joins
    obtain ⟨last, failed⟩ := throws.fails rfl
    have inside : 0 < machine.store.schedule.active := by
      rw [staged.counted]
      exact Nat.one_pos
    exact join_isFresh inside failed

/-- The errors that come out of jobs belong to no job yet. -/
theorem InJob.task_eq_none (inJob : outer.InJob) (fails : outer.Fails e) : e.task = none := by
  obtain ⟨inner, thrown, throws, escapes⟩ := fails.exists_source
  rw [escapes.task_eq]
  exact ((inJob.surrounds escapes.surrounds).isFresh throws).2

end Occurrence

/-! ## What is kept of the errors of jobs -/

/-- Whatever script errors jobs have failed with, they are known. -/
def Schedule.Records (known : Nat → ScriptError → Prop) (schedule : Schedule) : Prop :=
  ∀ number job, schedule.job? number = some job →
    ∀ e, job.state = .failed (.script e) → known number e

namespace Schedule.Records

variable {known : Nat → ScriptError → Prop} {schedule : Schedule}

theorem of_jobs (records : schedule.Records known) {other : Schedule}
    (same : other.jobs = schedule.jobs) : other.Records known := by
  intro number job found
  refine records number job ?_
  unfold job? at found ⊢
  rw [← same]
  exact found

theorem setState (records : schedule.Records known) {number : Nat} {state : JobState}
    (here : ∀ e, state = .failed (.script e) → known number e) :
    (schedule.setState number state).Records known :=
  forall_setState (fun number state => ∀ e, state = .failed (.script e) → known number e) here
    fun other job found _ => records other job found

theorem settled (records : schedule.Records known) {number : Nat} {outcome : Except Fault Value}
    (failed : ∀ e, outcome = .error (.script e) → known number { e with task := some number }) :
    (Activity.settled number outcome schedule).Records known := by
  cases outcome with
  | ok value =>
      unfold Activity.settled
      dsimp only
      split
      · refine records.setState fun e ended => ?_
        unfold endedNormally at ended
        split at ended <;> cases ended
      · exact records
  | error fault =>
      refine records.setState fun e ended => ?_
      cases fault with
      | script error =>
          cases ended
          exact failed error rfl
      | _ => cases ended

end Schedule.Records

/-- Whatever scripts ask for, the errors of jobs stay known. -/
def Agenda.records (known : Nat → ScriptError → Prop) : Agenda where
  holds schedule _ := schedule.Records known
  opened records := records.of_jobs rfl
  added function arguments records := by
    intro number job found e failed
    rw [Schedule.job?_add] at found
    split at found
    · cases found
      cases failed
    · exact records number job found e failed
  requested {_ _ number job} _ undone records := by
    refine records.setState fun e failed => ?_
    cases state : job.state <;>
      simp [state, JobState.isDone, Schedule.requestCancel] at undone failed

theorem Modest.records {known : Nat → ScriptError → Prop} {α : Type} {steps : MachineM α}
    (modest : Modest steps) {machine : Machine} (records : machine.store.schedule.Records known) :
    (endState (steps machine)).store.schedule.Records known :=
  obeys_bare.mp ((modest.steady (.records known) machine).endState (obeys_bare.mpr records))

namespace Occurrence

variable {root outer inner : Occurrence} {known : Nat → ScriptError → Prop}

/-- After the activity the errors of jobs are known, unless it has failed with one of them, which
may have got a place. -/
def KeepsRecords (occurrence : Occurrence) (known : Nat → ScriptError → Prop) : Prop :=
  EndsAs (fun outcome after => (∀ e, outcome = .error (.script e) → e.task = none) →
    after.store.schedule.Records known) occurrence.outcome

/-- The activity is no turn of a job. -/
def Turnless (occurrence : Occurrence) : Prop :=
  ∀ room number, occurrence.activity ≠ .giveTurn room number

theorem Turnless.own_records (turnless : outer.Turnless) {β : Type} {steps : MachineM β}
    (owned : outer.activity.Owns steps) {machine : Machine}
    (records : machine.store.schedule.Records known) :
    (endState (steps machine)).store.schedule.Records known := by
  unfold Turnless at turnless
  generalize outer.activity = activity at owned turnless
  cases owned with
  | modest modest => exact modest.records records
  | fetch room arguments number =>
      rw [fetch_endState]
      exact records
  | take => exact records.of_jobs rfl
  | cancel room number | start room number | finish room number =>
      exact absurd rfl (turnless room number)

/-- Nothing but a turn lets a job fail. -/
theorem Turnless.not_attempts (turnless : outer.Turnless) : ¬ outer.Attempts inner := by
  rintro ⟨next, reached⟩
  obtain ⟨job, allowed⟩ := (outer.activity.plan_each.of_leads reached).1
  generalize inner.activity = activity at job allowed
  cases activity with
  | callJob number room spawned =>
      obtain ⟨-, room, turn⟩ := allowed
      exact turnless room number turn
  | _ => cases job

section Turnless

variable (turnless : outer.Turnless) (records : outer.machine.store.schedule.Records known)
  (parts : ∀ part, outer.Enters part → part.machine.store.schedule.Records known →
    part.KeepsRecords known)

include turnless records parts

/-- All along an activity the errors of jobs are known. -/
theorem records_at {rest : Plan outer.activity.Result} {machine : Machine}
    (reached : outer.At rest machine) : machine.store.schedule.Records known := by
  have along {after : Plan outer.activity.Result × Machine} (leads : Plan.Leads
      (outer.activity.plan, outer.activity.enter outer.machine) after) :
      after.2.store.schedule.Records known := by
    induction leads with
    | refl =>
        have same : (outer.activity.enter outer.machine).store = outer.machine.store := by
          cases outer.activity <;> rfl
        rw [same]
        exact records
    | tail leads step ih =>
        have each := outer.activity.plan_each.of_leads leads
        cases step with
        | own run =>
            have kept := turnless.own_records each.1 ih
            rw [run] at kept
            exact kept
        | @part activity next _ machine _ run =>
            have kept := parts ⟨activity, machine⟩ ⟨next, leads⟩ ih
            exact EndsAs.of_ok kept run (by rintro e ⟨⟩)
        | @returned activity next _ machine | @failed activity next _ machine =>
            have attempts : outer.Attempts ⟨activity, machine⟩ := ⟨next, leads⟩
            exact absurd attempts turnless.not_attempts
  exact along reached

/-- The end of the plan of an activity. -/
theorem records_at_end {rest : Plan outer.activity.Result} {machine : Machine}
    (reached : outer.At rest machine)
    {result : EStateM.Result Fault Machine outer.activity.Result}
    (ends : rest.Ends machine result) :
    EndsAs (fun outcome after => (∀ e, outcome = .error (.script e) → e.task = none) →
      after.store.schedule.Records known) result := by
  have records := records_at turnless records parts reached
  have each := outer.activity.plan_each.of_leads reached
  have own {β : Type} {steps : MachineM β} (owned : outer.activity.Owns steps) :
      (endState (steps machine)).store.schedule.Records known := turnless.own_records owned records
  cases ends with
  | last steps =>
      have kept := own each
      revert kept
      cases steps machine <;> exact fun kept _ => kept
  | own run =>
      have kept := own each.1
      rw [run] at kept
      exact fun _ => kept
  | @part activity next _ _ fault run =>
      have kept := parts ⟨activity, machine⟩ ⟨next, reached⟩ records
      intro unowned
      refine EndsAs.of_error kept run fun e failed => unowned e ?_
      cases failed
      rfl

end Turnless

/-- What an activity makes of a fault leaves the errors of jobs known, unless it places one. -/
theorem handle_records {activity : Activity} {fault handled : Fault} {middle last : Machine}
    (handling : activity.handle fault middle = .ok handled last)
    (kept : (∀ e, fault = .script e → e.task = none) → middle.store.schedule.Records known)
    (unowned : ∀ e, handled = .script e → e.task = none) : last.store.schedule.Records known := by
  by_cases other : ∀ e, fault ≠ .script e
  · rw [(Activity.handle_other other handling).1]
    exact kept fun e same => absurd same (other e)
  · obtain ⟨e, rfl⟩ := not_forall_not.mp other
    cases node : activity.span? with
    | none =>
        obtain ⟨rfl, same⟩ := Activity.handle_plain node handling
        rw [same]
        exact kept unowned
    | some span =>
        obtain ⟨runner, located⟩ := Activity.handle_node node handling
        rcases locateFault_cases located with ⟨rfl, rfl, -⟩ | ⟨before, line, same, -, rfl, owner⟩
        · exact kept unowned
        · have task := unowned _ rfl
          rw [ScriptError.task_locate] at task
          rcases owner with ⟨-, rfl⟩ | ⟨number, named, -⟩
          · refine kept fun other found => ?_
            cases same.symm.trans found
            exact task
          · cases task.symm.trans named

/-! ## Turns -/

/-- What remains of the plan of a turn has nothing but the job as a part. -/
theorem rest_of_turn {room number : Nat} {machine middle : Machine} {rest : Plan Unit}
    (leads : Plan.Leads (Activity.planGiveTurn room number, machine) (rest, middle)) :
    (∃ steps, rest = .last steps) ∨ (∃ β steps next, rest = @Plan.own Unit β steps next) ∨
      ∃ job next, rest = .attempt (.callJob number room job) next ∧
        middle = endState (Activity.beginJob number machine) := by
  have last {steps : MachineM Unit} {before : Machine}
      (leads : Plan.Leads (.last steps, before) (rest, middle)) : ∃ steps, rest = .last steps := by
    cases leads.eq_of_last
    exact ⟨_, rfl⟩
  rcases leads.of_own with same | ⟨_, _, looked, leads⟩
  · cases same
    exact .inr (.inl ⟨_, _, _, rfl⟩)
  · cases looked
    split at leads
    · exact .inl (last leads)
    · rename_i job found
      split at leads
      · exact .inl (last leads)
      · rcases leads.of_own with same | ⟨_, _, begun, leads⟩
        · cases same
          exact .inr (.inl ⟨_, _, _, rfl⟩)
        · cases begun
          rcases leads.cases_head with same | ⟨_, step, leads⟩
          · cases same
            exact .inr (.inr ⟨job, _, rfl, rfl⟩)
          · cases step <;> exact .inl (last leads)
      · exact .inl (last leads)

/-- A turn begins nothing but the job. -/
theorem eq_of_turn {room number : Nat} {machine : Machine}
    (holds : Holds ⟨.giveTurn room number, machine⟩ inner) :
    ∃ job, inner = ⟨.callJob number room job, endState (Activity.beginJob number machine)⟩ := by
  obtain ⟨activity, middle⟩ := inner
  rcases holds with ⟨next, reached⟩ | ⟨next, reached⟩
  · rcases rest_of_turn reached with ⟨_, same⟩ | ⟨_, _, _, same⟩ | ⟨_, _, same, -⟩ <;> cases same
  · rcases rest_of_turn reached with ⟨_, same⟩ | ⟨_, _, _, same⟩ | ⟨job, _, same, rfl⟩ <;>
      cases same
    exact ⟨job, rfl⟩

theorem beginJob_records {number : Nat} {machine : Machine}
    (records : machine.store.schedule.Records known) :
    (endState (Activity.beginJob number machine)).store.schedule.Records known :=
  (records.setState (by rintro e ⟨⟩) : (machine.store.schedule.setState number
    (.running false)).Records known).of_jobs rfl

theorem endJob_records {number : Nat} {machine : Machine}
    (records : machine.store.schedule.Records known) {outcome : Except Fault Value}
    (failed : ∀ e, outcome = .error (.script e) → known number { e with task := some number }) :
    EndsAs (fun _ after => after.store.schedule.Records known)
      (Activity.endJob number outcome machine) :=
  (records.of_jobs rfl : { machine.store.schedule with
    active := machine.store.schedule.active - 1 }.Records known).settled failed

/-- After a turn the error of its job is known as well. -/
theorem keepsRecords_turn {room number : Nat} {machine : Machine}
    (records : machine.store.schedule.Records known)
    (job : ∀ inner, Holds ⟨.giveTurn room number, machine⟩ inner → inner.KeepsRecords known ∧
      ∀ e, inner.Fails e → e.task = none ∧ known number { e with task := some number }) :
    KeepsRecords ⟨.giveTurn room number, machine⟩ known := by
  have attempts {spawned : Job} (found : machine.store.schedule.job? number = some spawned)
      (waits : spawned.state = .waiting false) : Holds ⟨.giveTurn room number, machine⟩
        ⟨.callJob number room spawned, endState (Activity.beginJob number machine)⟩ := by
    refine .inr ⟨fun outcome => .last (Activity.endJob number outcome), ?_⟩
    refine .head (.own (rfl : (get : MachineM Machine) machine = .ok machine machine)) ?_
    rw [found]
    dsimp only
    rw [waits]
    exact .single (.own rfl)
  change EndsAs _ (startJob (callJob room) number machine)
  rw [Activity.giveTurn_eq]
  unfold Activity.planGiveTurn Plan.run
  rw [bind_of_ok (rfl : (get : MachineM Machine) machine = .ok machine machine)]
  dsimp only
  split
  · exact fun _ => records
  · rename_i spawned found
    split
    · exact fun _ => records.setState (by rintro e ⟨⟩)
    · rename_i waits
      obtain ⟨kept, failing⟩ := job _ (attempts found waits)
      have begun : Activity.beginJob number machine =
          .ok () (endState (Activity.beginJob number machine)) := rfl
      unfold Plan.run
      rw [bind_of_ok begun]
      unfold Plan.run
      cases run : Activity.steps (.callJob number room spawned)
          (endState (Activity.beginJob number machine)) with
      | ok value after =>
          have records := EndsAs.of_ok kept run (by rintro e ⟨⟩)
          exact (endJob_records records (by rintro e ⟨⟩)).mono fun _ _ records _ => records
      | error fault after =>
          have records := EndsAs.of_error kept run (by
            rintro e ⟨⟩
            exact (failing e ⟨after, run⟩).1)
          refine (endJob_records records ?_).mono fun _ _ records _ => records
          rintro e ⟨⟩
          exact (failing e ⟨after, run⟩).2
    · exact fun _ => records

/-! ## All activities -/

/-- The error is the recorded failure of a job that has been executed. -/
def Remembers (root : Occurrence) (number : Nat) (e : ScriptError) : Prop :=
  ∃ job error, root.Inside job ∧ job.InJob ∧
    (∃ room spawned, job.activity = .callJob number room spawned) ∧ job.Fails error ∧
    e = { error with task := some number }

theorem inJob_of_turn {room number : Nat} {machine : Machine}
    (begins : Promise.lasting.before (.giveTurn room number) machine)
    (holds : Holds ⟨.giveTurn room number, machine⟩ inner) : inner.InJob := by
  obtain ⟨running, batch, stage, staged⟩ :
      ∃ running batch, CodeStage running batch ∧
        inner.machine.store.schedule.Staged running batch := by
    have begins := lasting_kept.before_of_holds begins holds
    obtain ⟨job, rfl⟩ := eq_of_turn holds
    exact begins
  obtain ⟨job, rfl⟩ := eq_of_turn holds
  have active : (endState (Activity.beginJob number machine)).store.schedule.active =
      machine.store.schedule.active + 1 := rfl
  cases running with
  | none => cases active.symm.trans staged.counted
  | some number => exact ⟨rfl, number, batch, staged⟩

section Inside

variable (begins : Promise.lasting.before root.activity root.machine)

include begins

/-- Whatever is carried out inside of an activity leaves the errors of jobs known. -/
theorem keepsRecords (inside : root.Inside outer)
    (records : outer.machine.store.schedule.Records root.Remembers) :
    outer.KeepsRecords root.Remembers := by
  generalize size : outer.activity.weight = weight
  induction weight using Nat.strongRecOn generalizing outer with
  | ind weight lower =>
      subst size
      by_cases turn : ∃ room number, outer.activity = .giveTurn room number
      · obtain ⟨room, number, turn⟩ := turn
        obtain ⟨activity, machine⟩ := outer
        cases turn
        have begins := lasting_kept.before_of_inside begins inside
        refine keepsRecords_turn records fun inner holds => ⟨?_, fun e fails => ?_⟩
        · refine lower _ holds.allowed.1 (inside.tail holds) ?_ rfl
          obtain ⟨job, rfl⟩ := eq_of_turn holds
          exact beginJob_records records
        · have inJob := inJob_of_turn begins holds
          obtain ⟨job, same⟩ := eq_of_turn holds
          refine ⟨inJob.task_eq_none fails, inner, e, inside.tail holds, inJob, ?_, fails, rfl⟩
          exact ⟨room, job, congrArg Occurrence.activity same⟩
      · have turnless : outer.Turnless := fun room number same => turn ⟨room, number, same⟩
        have parts (part : Occurrence) (enters : outer.Enters part)
            (records : part.machine.store.schedule.Records root.Remembers) :
            part.KeepsRecords root.Remembers := by
          have holds : outer.Holds part := .inl enters
          exact lower _ holds.allowed.1 (inside.tail holds) records rfl
        obtain ⟨rest, machine, reached, ends⟩ :=
          Plan.exists_end outer.activity.plan (outer.activity.enter outer.machine)
        have ended := records_at_end turnless records parts reached ends
        unfold KeepsRecords outcome
        cases run : outer.activity.plan.run (outer.activity.enter outer.machine) with
        | ok value middle =>
            have same : (outer.activity.leave middle).store = middle.store := by
              cases outer.activity <;> rfl
            rw [Activity.steps_of_ok run]
            intro unowned
            rw [same]
            exact ended.of_ok run (by rintro e ⟨⟩)
        | error fault middle =>
            obtain ⟨handled, last, handling⟩ := outer.activity.handle_ok fault middle
            rw [Activity.steps_of_error run handling]
            intro unowned
            refine handle_records handling (fun task => ?_) fun e same => unowned e (by rw [same])
            refine ended.of_error run fun e same => ?_
            cases same
            exact task e rfl

theorem records_of_at (inside : root.Inside outer) (turnless : outer.Turnless)
    (records : outer.machine.store.schedule.Records root.Remembers)
    {rest : Plan outer.activity.Result} {machine : Machine} (reached : outer.At rest machine) :
    machine.store.schedule.Records root.Remembers :=
  records_at turnless records
    (fun _ enters => keepsRecords begins (inside.tail (.inl enters))) reached

/-- Whatever is carried out inside of an activity finds the errors of jobs known. -/
theorem records_of_inside (records : root.machine.store.schedule.Records root.Remembers)
    (inside : root.Inside inner) : inner.machine.store.schedule.Records root.Remembers := by
  induction inside with
  | refl => exact records
  | @tail outer inner inside holds records =>
      by_cases turn : ∃ room number, outer.activity = .giveTurn room number
      · obtain ⟨room, number, turn⟩ := turn
        obtain ⟨activity, machine⟩ := outer
        cases turn
        obtain ⟨job, rfl⟩ := eq_of_turn holds
        exact beginJob_records records
      · have turnless : outer.Turnless := fun room number same => turn ⟨room, number, same⟩
        rcases holds with ⟨next, reached⟩ | attempts
        · exact records_of_at begins inside turnless records reached
        · exact absurd attempts turnless.not_attempts

/-- What a join raises again is the failure of a job that has been executed. -/
theorem Rejoins.remembers (records : root.machine.store.schedule.Records root.Remembers)
    (inside : root.Inside inner) {number : Nat} {e : ScriptError}
    (rejoins : inner.Rejoins number e) :
    root.Remembers number e := by
  obtain ⟨⟨room, arguments, joins⟩, rest, machine, job, reached, found, failed⟩ := rejoins
  have turnless : inner.Turnless := by
    intro room number turn
    cases joins.symm.trans turn
  have records :=
    records_of_at begins inside turnless (records_of_inside begins records inside) reached
  exact records number job found e failed

end Inside

end Occurrence

end Scriptlet
