import Scriptlet.Proofs.Jobs.Draining

/-!
# Closing in turn

The schedule is closed in one step.  A host does it in several: it asks every job that has not ended
to be cancelled, lets the jobs have their turns, and forgets them all.  Outside of all rounds this
comes to the same, and no function is executed: a job that was asked to be cancelled ends when its
turn comes.  If all jobs have ended, the turns may be left out (`runRounds_of_unready`).
-/

namespace Scriptlet

namespace Schedule

/-- Asks every job that has not ended to be cancelled. -/
def requestAll (schedule : Schedule) : Schedule :=
  { schedule with
    jobs := schedule.jobs.map fun job => { job with state := requestCancel job.state } }

/-- Forgets all jobs, and is closed. -/
def forgetAll (schedule : Schedule) : Schedule :=
  { schedule with forgotten := schedule.jobs.size, isOpen := false }

/-- No job is ready any more. -/
def emptied (schedule : Schedule) : Schedule :=
  { schedule with ready := #[] }

/-- Jobs end by being cancelled. -/
def cancelEach (schedule : Schedule) (numbers : List Nat) : Schedule :=
  numbers.foldl (fun schedule number => schedule.setState number .cancelled) schedule

end Schedule

/-- Closes the schedule if it is open: asks all jobs to be cancelled, runs rounds and forgets the
jobs. -/
def closeInTurn (start : Nat → MachineM Unit) (rounds : Nat) : MachineM Unit := do
  if (← get).store.schedule.isOpen then
    Machine.onStore (changeSchedule Schedule.requestAll)
    runRounds start rounds
    Machine.onStore do
      changeSchedule Schedule.forgetAll
      noteJobs "task loop closed"

/-- The machine with another schedule. -/
def Machine.withSchedule (machine : Machine) (schedule : Schedule) : Machine :=
  { machine with store := { machine.store with schedule := schedule } }

/-! ## Turns of jobs that were asked to be cancelled -/

namespace Schedule

variable {schedule : Schedule}

theorem job?_requestAll (number : Nat) : schedule.requestAll.job? number =
    (schedule.job? number).map fun job => { job with state := requestCancel job.state } := by
  unfold requestAll job?
  split
  · rfl
  · exact Array.getElem?_map ..

theorem job?_cancelEach (numbers : List Nat) (number : Nat) :
    (schedule.cancelEach numbers).job? number =
      if number ∈ numbers then
        (schedule.job? number).map fun job => { job with state := .cancelled }
      else schedule.job? number := by
  induction numbers generalizing schedule with
  | nil => rfl
  | cons first rest ih =>
      change ((schedule.setState first .cancelled).cancelEach rest).job? number = _
      rw [ih, job?_setState]
      by_cases same : first = number
      · subst same
        rw [if_pos rfl, if_pos List.mem_cons_self]
        cases schedule.job? first <;> simp
      · simp [same, Ne.symm same]

theorem setState_eq_jobs (number : Nat) (state : JobState) :
    ∃ jobs, schedule.setState number state = { schedule with jobs := jobs } := by
  unfold setState
  split
  · exact ⟨schedule.jobs, rfl⟩
  · exact ⟨_, rfl⟩

/-- Ending jobs changes the jobs only, and not how many there are. -/
theorem cancelEach_eq_jobs (numbers : List Nat) :
    ∃ jobs, schedule.cancelEach numbers = { schedule with jobs := jobs } ∧
      jobs.size = schedule.jobs.size := by
  induction numbers generalizing schedule with
  | nil => exact ⟨schedule.jobs, rfl, rfl⟩
  | cons first rest ih =>
      obtain ⟨jobs, ended, size⟩ := @ih (schedule.setState first .cancelled)
      obtain ⟨middle, same⟩ := schedule.setState_eq_jobs first .cancelled
      refine ⟨jobs, ?_, size.trans (size_setState ..)⟩
      change (schedule.setState first .cancelled).cancelEach rest = _
      rw [ended, same]

theorem jobs_eq_of_job? {other : Schedule}
    (same : ∀ number, schedule.job? number = other.job? number) : schedule.jobs = other.jobs := by
  refine Array.ext_getElem? fun i => ?_
  simpa [job?] using same (i + 1)

/-- Outside of all rounds, exactly the jobs that are ready have not ended. -/
theorem Staged.mem_ready (staged : schedule.Staged none []) {number : Nat} {job : Job}
    (found : schedule.job? number = some job) :
    number ∈ schedule.ready.toList ↔ job.state.isWaiting = true := by
  obtain ⟨first, le, queue, waiting⟩ := staged.queued
  rw [waiting number job found, ← List.nil_append schedule.ready.toList, queue, List.mem_range'_1]
  have bounds := job?_bounds found
  omega

theorem Staged.nodup_ready (staged : schedule.Staged none []) : schedule.ready.toList.Nodup := by
  obtain ⟨first, le, queue, -⟩ := staged.queued
  rw [← List.nil_append schedule.ready.toList, queue]
  exact List.nodup_range'

theorem Staged.ready_bounds (staged : schedule.Staged none []) {number : Nat}
    (ready : number ∈ schedule.ready.toList) : ∃ job, schedule.job? number = some job := by
  obtain ⟨first, le, queue, -⟩ := staged.queued
  rw [← List.nil_append schedule.ready.toList, queue, List.mem_range'_1] at ready
  exact exists_job? (by omega) (by omega)

/-- A job that is asked to be cancelled and has its turn ends as when the schedule is closed. -/
theorem Staged.job?_turned (staged : schedule.Staged none []) (number : Nat) :
    (schedule.requestAll.emptied.cancelEach schedule.ready.toList).job? number =
      schedule.close.job? number := by
  rw [job?_cancelEach, job?_close]
  change (if _ then (schedule.requestAll.job? number).map _
    else schedule.requestAll.job? number) = _
  rw [job?_requestAll]
  cases found : schedule.job? number with
  | none => simp
  | some job =>
      cases waits : job.state.isWaiting with
      | true =>
          rw [if_pos ((staged.mem_ready found).mpr waits)]
          cases state : job.state <;> simp_all [JobState.isWaiting, abandoned]
      | false =>
          have unready : number ∉ schedule.ready.toList := by simp [staged.mem_ready found, waits]
          have done := staged.isDone_of_not_waiting found waits
          rw [if_neg unready]
          cases state : job.state <;> simp_all [JobState.isDone, requestCancel, abandoned]

/-- Requests, turns for all jobs that are ready and forgetting come to closing the schedule. -/
theorem Staged.close_eq (staged : schedule.Staged none []) :
    (schedule.requestAll.emptied.cancelEach schedule.ready.toList).forgetAll = schedule.close := by
  obtain ⟨jobs, ended, -⟩ := schedule.requestAll.emptied.cancelEach_eq_jobs schedule.ready.toList
  have jobs_eq : jobs = schedule.close.jobs := by
    refine @jobs_eq_of_job? { schedule.requestAll.emptied with jobs := jobs } _ fun number => ?_
    rw [← ended]
    exact staged.job?_turned number
  have size : schedule.close.jobs.size = schedule.jobs.size := Array.size_map ..
  rw [ended, jobs_eq]
  unfold forgetAll
  dsimp only
  rw [size]
  rfl

end Schedule

section Turns

variable {machine : Machine} (body : Job → MachineM Value)

theorem startJob_of_requested {number : Nat} {job : Job}
    (found : machine.store.schedule.job? number = some job)
    (requested : job.state = .waiting true) :
    startJob body number machine =
      .ok () (machine.withSchedule (machine.store.schedule.setState number .cancelled)) := by
  unfold startJob
  refine (bind_of_ok rfl).trans ?_
  rw [found]
  dsimp only
  rw [requested]
  rfl

/-- Jobs that were asked to be cancelled end in their turns, and nothing else happens. -/
theorem startAll_of_requested {numbers : List Nat} (distinct : numbers.Nodup)
    (requested : ∀ number ∈ numbers, ∃ job, machine.store.schedule.job? number = some job ∧
      job.state = .waiting true) :
    numbers.forM (startJob body) machine =
      .ok () (machine.withSchedule (machine.store.schedule.cancelEach numbers)) := by
  induction numbers generalizing machine with
  | nil => rfl
  | cons number rest ih =>
      obtain ⟨absent, distinct⟩ := List.nodup_cons.mp distinct
      obtain ⟨job, found, state⟩ := requested number List.mem_cons_self
      refine (bind_of_ok (startJob_of_requested body found state)).trans ?_
      refine ih distinct fun later inside => ?_
      obtain ⟨other, found, state⟩ := requested later (List.mem_cons_of_mem _ inside)
      refine ⟨other, ?_, state⟩
      change (machine.store.schedule.setState number .cancelled).job? later = _
      have different : number ≠ later := fun same => absent (same ▸ inside)
      rw [Schedule.job?_setState, if_neg different, found]

theorem runRound_run (start : Nat → MachineM Unit) : runRound start machine =
    machine.store.schedule.ready.toList.forM start
      (machine.withSchedule machine.store.schedule.emptied) :=
  rfl

/-- Rounds in which no job is ready do nothing. -/
theorem runRounds_of_unready (start : Nat → MachineM Unit)
    (unready : machine.store.schedule.ready = #[]) (rounds : Nat) :
    runRounds start rounds machine = .ok () machine := by
  have same : machine.store.schedule.emptied = machine.store.schedule := by
    unfold Schedule.emptied
    rw [← unready]
  induction rounds with
  | zero => rfl
  | succ rounds ih =>
      have round : runRound start machine = .ok () machine := by
        rw [runRound_run, same, unready]
        rfl
      exact (bind_of_ok round).trans ih

/-- After requests to all jobs, rounds execute nothing: the jobs end by being cancelled. -/
theorem runRounds_of_requested (idle : machine.Idle) (rounds : Nat) :
    runRounds (startJob body) (rounds + 1)
        (machine.withSchedule machine.store.schedule.requestAll) =
      .ok () (machine.withSchedule (machine.store.schedule.requestAll.emptied.cancelEach
        machine.store.schedule.ready.toList)) := by
  have requested : ∀ number ∈ machine.store.schedule.ready.toList, ∃ job,
      machine.store.schedule.requestAll.job? number = some job ∧ job.state = .waiting true := by
    intro number ready
    obtain ⟨job, found⟩ := idle.ready_bounds ready
    have waits := (idle.mem_ready found).mp ready
    refine ⟨{ job with state := Schedule.requestCancel job.state }, ?_, ?_⟩
    · rw [Schedule.job?_requestAll, found]
      rfl
    · cases state : job.state <;> simp_all [JobState.isWaiting, Schedule.requestCancel]
  have round : runRound (startJob body)
      (machine.withSchedule machine.store.schedule.requestAll) =
        .ok () (machine.withSchedule (machine.store.schedule.requestAll.emptied.cancelEach
          machine.store.schedule.ready.toList)) :=
    @startAll_of_requested (machine.withSchedule machine.store.schedule.requestAll.emptied) body _
      idle.nodup_ready requested
  refine (bind_of_ok round).trans (runRounds_of_unready _ ?_ rounds)
  obtain ⟨jobs, ended, -⟩ := machine.store.schedule.requestAll.emptied.cancelEach_eq_jobs
    machine.store.schedule.ready.toList
  exact congrArg Schedule.ready ended

/-- To close the schedule in turn, outside of all rounds, is to close it at once: whatever functions
the jobs have and however many rounds there are, no function is executed. -/
theorem closeInTurn_eq (idle : machine.Idle) (rounds : Nat) :
    closeInTurn (startJob body) (rounds + 1) machine = Machine.onStore closeSchedule machine := by
  unfold closeInTurn
  refine (bind_of_ok rfl).trans ?_
  cases isOpen : machine.store.schedule.isOpen with
  | false =>
      have closed : closeSchedule machine.store = .ok () machine.store := by
        unfold closeSchedule
        rw [bind_of_ok (rfl : (get : StoreM Store) machine.store = _), isOpen]
        rfl
      rw [onStore_of_ok closed]
      rfl
  | true =>
      have closed : closeSchedule machine.store =
          (do changeSchedule Schedule.close; noteJobs "task loop closed") machine.store := by
        unfold closeSchedule
        rw [bind_of_ok (rfl : (get : StoreM Store) machine.store = _), isOpen]
        rfl
      have asked : Machine.onStore closeSchedule machine = .ok () _ := onStore_of_ok closed
      rw [asked]
      dsimp only
      rw [← idle.close_eq]
      exact (bind_of_ok rfl).trans (bind_of_ok (runRounds_of_requested body idle rounds))

/-- Whatever was asked of a machine that had no jobs, its schedule can be closed in turn. -/
theorem serve_close_eq_closeInTurn (start : Machine) (fresh : start.store.schedule = {})
    (requests : List Request) (rounds : Nat) : (start.serveAll requests).serve .close =
      endState (closeInTurn (startJob body) (rounds + 1) (start.serveAll requests)) := by
  have idle := lasting_served.serveAll (Machine.idle_of_fresh fresh) requests
  rw [closeInTurn_eq body idle]
  rfl

end Turns

end Scriptlet
