import Scriptlet.Proofs.Store.Discipline

/-!
# The stages of jobs

Jobs wait for their turn in the order of their numbers, one at a time is executed, and one that has
ended stays as it is; only its failure gets a place later.
-/

namespace Scriptlet

/-! ## Single jobs -/

namespace JobState

def isWaiting : JobState → Bool
  | .waiting _ => true
  | _ => false

def isRunning : JobState → Bool
  | .running _ => true
  | _ => false

theorem isDone_iff {state : JobState} :
    state.isDone = true ↔ state.isWaiting = false ∧ state.isRunning = false := by
  cases state <;> simp [isDone, isWaiting, isRunning]

@[simp]
theorem isWaiting_requestCancel (state : JobState) :
    (Schedule.requestCancel state).isWaiting = state.isWaiting := by
  cases state <;> rfl

@[simp]
theorem isRunning_requestCancel (state : JobState) :
    (Schedule.requestCancel state).isRunning = state.isRunning := by
  cases state <;> rfl

/-- The same end of a job, whose failure may have got a place. -/
def SameEnd (before after : JobState) : Prop :=
  after = before ∨ ∃ e span line,
    before = .failed (.script e) ∧ after = .failed (.script (e.locate span line))

/-- A failure with a script error names the job. -/
def IsTagged (number : Nat) (state : JobState) : Prop :=
  ∀ e, state = .failed (.script e) → e.task = some number

end JobState

theorem ScriptError.locate_locate (e : ScriptError) (span other : Span)
    (line otherLine : Option String) :
    (e.locate span line).locate other otherLine = e.locate span line := by
  unfold ScriptError.locate
  cases place : e.span with
  | some => simp only [place]
  | none => rfl

theorem JobState.SameEnd.trans {first second third : JobState} (before : first.SameEnd second)
    (after : second.SameEnd third) : first.SameEnd third := by
  rcases after with rfl | ⟨e, span, line, rfl, rfl⟩
  · exact before
  · rcases before with same | ⟨old, place, text, rfl, same⟩
    · exact .inr ⟨e, span, line, same.symm, rfl⟩
    · cases same
      exact .inr ⟨old, place, text, rfl, by rw [ScriptError.locate_locate]⟩

theorem JobState.SameEnd.isDone {before after : JobState} (same : before.SameEnd after)
    (done : before.isDone = true) : after.isDone = true := by
  rcases same with rfl | ⟨e, span, line, rfl, rfl⟩
  · exact done
  · rfl

namespace Schedule

variable {schedule : Schedule}

/-! ## Jobs by their numbers -/

theorem job?_bounds {number : Nat} {job : Job} (found : schedule.job? number = some job) :
    0 < number ∧ number ≤ schedule.jobs.size := by
  unfold job? at found
  split at found
  · cases found
  · obtain ⟨inside, -⟩ := Array.getElem?_eq_some_iff.mp found
    omega

theorem exists_job? {number : Nat} (positive : 0 < number) (inside : number ≤ schedule.jobs.size) :
    ∃ job, schedule.job? number = some job := by
  unfold job?
  rw [if_neg (by omega)]
  exact ⟨_, Array.getElem?_eq_getElem (by omega)⟩

/-- Putting a job into a stage changes nothing else. -/
theorem job?_setState (number other : Nat) (state : JobState) :
    (schedule.setState number state).job? other =
      if number = other then (schedule.job? other).map fun job => { job with state := state }
      else schedule.job? other := by
  unfold setState job?
  by_cases zero : number = 0
  · subst zero
    by_cases same : other = 0
    · simp [same]
    · simp [Ne.symm same]
  · rw [if_neg zero]
    by_cases none : other = 0
    · simp [none, zero]
    · simp only [if_neg none, Array.getElem?_modify]
      by_cases same : number = other
      · simp [same]
      · rw [if_neg same, if_neg (by omega)]

theorem job?_add (function : Value) (arguments : List Value) (number : Nat) :
    (schedule.add function arguments).job? number =
      if number = schedule.jobs.size + 1 then some ⟨function, arguments, .waiting false⟩
      else schedule.job? number := by
  unfold add job?
  by_cases zero : number = 0
  · simp [zero]
  · simp only [if_neg zero, Array.getElem?_push]
    by_cases last : number = schedule.jobs.size + 1
    · simp [last]
    · rw [if_neg last, if_neg (by omega)]

theorem job?_close (number : Nat) :
    schedule.close.job? number =
      (schedule.job? number).map fun job => { job with state := abandoned job.state } := by
  unfold close job?
  split
  · rfl
  · exact Array.getElem?_map ..

@[simp]
theorem size_setState (number : Nat) (state : JobState) :
    (schedule.setState number state).jobs.size = schedule.jobs.size := by
  unfold setState
  split
  · rfl
  · exact Array.size_modify ..

@[simp]
theorem ready_setState (number : Nat) (state : JobState) :
    (schedule.setState number state).ready = schedule.ready := by
  unfold setState
  split <;> rfl

@[simp]
theorem active_setState (number : Nat) (state : JobState) :
    (schedule.setState number state).active = schedule.active := by
  unfold setState
  split <;> rfl

/-- What is true of the jobs after one of them has been put into a stage. -/
theorem forall_setState {number : Nat} {state : JobState} (holds : Nat → JobState → Prop)
    (here : holds number state)
    (others : ∀ other job, schedule.job? other = some job → other ≠ number →
      holds other job.state) :
    ∀ other job, (schedule.setState number state).job? other = some job →
      holds other job.state := by
  intro other job found
  rw [job?_setState] at found
  split at found
  · rename_i same
    subst same
    obtain ⟨old, -, rfl⟩ := Option.map_eq_some_iff.mp found
    exact here
  · rename_i different
    exact others other job found (Ne.symm different)

/-! ## What lasts -/

/-- Every job stays, and one that has ended keeps its end. -/
def Sustains (before after : Schedule) : Prop :=
  ∀ number job, before.job? number = some job → ∃ later, after.job? number = some later ∧
    later.function = job.function ∧ later.arguments = job.arguments ∧
    (job.state.isDone = true → job.state.SameEnd later.state)

namespace Sustains

variable {first second third : Schedule}

theorem refl (schedule : Schedule) : schedule.Sustains schedule :=
  fun _ job found => ⟨job, found, rfl, rfl, fun _ => .inl rfl⟩

theorem trans (before : first.Sustains second) (after : second.Sustains third) :
    first.Sustains third := by
  intro number job found
  obtain ⟨middle, found, function, arguments, ended⟩ := before number job found
  obtain ⟨later, found, function', arguments', ended'⟩ := after number middle found
  refine ⟨later, found, function'.trans function, arguments'.trans arguments, fun done => ?_⟩
  exact (ended done).trans (ended' ((ended done).isDone done))

/-- Only the jobs themselves matter. -/
theorem of_jobs (same : second.jobs = first.jobs) : first.Sustains second := by
  intro number job found
  refine ⟨job, ?_, rfl, rfl, fun _ => .inl rfl⟩
  unfold job?
  rw [same]
  exact found

theorem setState {number : Nat} {state : JobState}
    (ended : ∀ job, schedule.job? number = some job → job.state.isDone = true →
      job.state.SameEnd state) : schedule.Sustains (schedule.setState number state) := by
  intro other job found
  rw [job?_setState]
  split
  · rename_i same
    subst same
    exact ⟨{ job with state := state }, by rw [found]; rfl, rfl, rfl, ended job found⟩
  · exact ⟨job, found, rfl, rfl, fun _ => .inl rfl⟩

/-- A job that has not ended may be put into any stage. -/
theorem setState_of_undone {number : Nat} {job : Job} (found : schedule.job? number = some job)
    (undone : job.state.isDone = false) (state : JobState) :
    schedule.Sustains (schedule.setState number state) := by
  refine setState fun other present done => ?_
  rw [found] at present
  cases present
  rw [undone] at done
  cases done

theorem add (function : Value) (arguments : List Value) :
    schedule.Sustains (schedule.add function arguments) := by
  intro number job found
  have inside := job?_bounds found
  rw [job?_add, if_neg (by omega)]
  exact ⟨job, found, rfl, rfl, fun _ => .inl rfl⟩

theorem close (schedule : Schedule) : schedule.Sustains schedule.close := by
  intro number job found
  refine ⟨{ job with state := abandoned job.state }, ?_, rfl, rfl, fun done => ?_⟩
  · rw [job?_close, found]
    rfl
  · cases state : job.state with
    | waiting | running => simp [state, JobState.isDone] at done
    | _ => exact .inl rfl

end Sustains

/-- All jobs of the one schedule have ended in the other one. -/
def Drained (before after : Schedule) : Prop :=
  ∀ number job, before.job? number = some job →
    ∃ later, after.job? number = some later ∧ later.state.isDone = true

/-- What has been drained stays so. -/
theorem Drained.sustained {first second third : Schedule} (drained : first.Drained second)
    (sustains : second.Sustains third) : first.Drained third := by
  intro number job found
  obtain ⟨middle, found, done⟩ := drained number job found
  obtain ⟨later, found, -, -, ended⟩ := sustains number middle found
  exact ⟨later, found, (ended done).isDone done⟩

theorem Drained.of_sustains {first second third : Schedule} (sustains : first.Sustains second)
    (drained : second.Drained third) : first.Drained third := by
  intro number job found
  obtain ⟨middle, found, -⟩ := sustains number job found
  exact drained number middle found

/-! ## Turns -/

/-- At most one job is executed, the given ones have their turn in this round, and then come those
that are ready; all jobs after the first one that waits are waiting.  Failures name their jobs. -/
structure Staged (running : Option Nat) (batch : List Nat) (schedule : Schedule) : Prop where
  counted : schedule.active = running.toList.length
  queued : ∃ first, first ≤ schedule.jobs.size ∧
    batch ++ schedule.ready.toList = List.range' (first + 1) (schedule.jobs.size - first) ∧
    ∀ number job, schedule.job? number = some job →
      (job.state.isWaiting = true ↔ first < number)
  present : ∀ number, running = some number → number ≤ schedule.jobs.size
  executed : ∀ number job, schedule.job? number = some job →
    (job.state.isRunning = true ↔ running = some number)
  tagged : ∀ number job, schedule.job? number = some job → JobState.IsTagged number job.state

/-- A script error that belongs to a job is the recorded failure of the job. -/
def Blames (schedule : Schedule) (e : ScriptError) : Prop :=
  ∀ number, e.task = some number →
    ∃ job, schedule.job? number = some job ∧ job.state = .failed (.script e)

theorem job?_empty (number : Nat) : ({} : Schedule).job? number = none := by
  unfold job?
  split <;> rfl

namespace Staged

theorem empty : ({} : Schedule).Staged none [] where
  counted := rfl
  queued :=
    ⟨0, Nat.le_refl 0, rfl, fun number job found => by cases (job?_empty number).symm.trans found⟩
  present := nofun
  executed number job found := by cases (job?_empty number).symm.trans found
  tagged number job found := by cases (job?_empty number).symm.trans found

variable {running : Option Nat} {batch : List Nat} {number : Nat}

/-- Only the jobs, the queue and the number of executed jobs matter. -/
theorem similar (staged : schedule.Staged running batch) {other : Schedule}
    (jobs : other.jobs = schedule.jobs) (ready : other.ready = schedule.ready)
    (active : other.active = schedule.active) : other.Staged running batch := by
  have found (number : Nat) : other.job? number = schedule.job? number := by
    unfold job?
    rw [jobs]
  refine ⟨active.trans staged.counted, ?_, ?_, ?_, ?_⟩
  · simp only [jobs, ready, found]
    exact staged.queued
  · rw [jobs]
    exact staged.present
  · simp only [found]
    exact staged.executed
  · simp only [found]
    exact staged.tagged

theorem add (staged : schedule.Staged running batch) (function : Value) (arguments : List Value) :
    (schedule.add function arguments).Staged running batch := by
  have size : (schedule.add function arguments).jobs.size = schedule.jobs.size + 1 :=
    Array.size_push ..
  have old {number : Nat} {job : Job}
      (found : (schedule.add function arguments).job? number = some job) :
      schedule.job? number = some job ∨
        number = schedule.jobs.size + 1 ∧ job.state = .waiting false := by
    rw [job?_add] at found
    split at found
    · rename_i last
      cases found
      exact .inr ⟨last, rfl⟩
    · exact .inl found
  refine ⟨staged.counted, ?_, fun number same => ?_, fun number job found => ?_,
    fun number job found => ?_⟩
  · obtain ⟨first, inside, queue, waiting⟩ := staged.queued
    refine ⟨first, by omega, ?_, fun number job found => ?_⟩
    · rw [size, Schedule.add, Array.toList_push, ← List.append_assoc, queue, Nat.succ_sub inside,
        List.range'_1_concat]
      congr 2
      omega
    · rcases old found with found | ⟨rfl, state⟩
      · exact waiting number job found
      · have behind : first < schedule.jobs.size + 1 := by omega
        rw [state]
        exact ⟨fun _ => behind, fun _ => rfl⟩
  · have inside := staged.present number same
    omega
  · rcases old found with found | ⟨rfl, state⟩
    · exact staged.executed number job found
    · rw [state]
      refine ⟨nofun, fun same => ?_⟩
      have inside := staged.present _ same
      omega
  · rcases old found with found | ⟨rfl, state⟩
    · exact staged.tagged number job found
    · intro e failed
      rw [state] at failed
      cases failed

/-- A job may be put into a stage of the same kind. -/
theorem restate (staged : schedule.Staged running batch) {job : Job} {state : JobState}
    (found : schedule.job? number = some job)
    (waits : state.isWaiting = job.state.isWaiting) (runs : state.isRunning = job.state.isRunning)
    (tagged : JobState.IsTagged number state) :
    (schedule.setState number state).Staged running batch := by
  refine ⟨by simpa using staged.counted, ?_, by simpa using staged.present, ?_, ?_⟩
  · obtain ⟨first, inside, queue, waiting⟩ := staged.queued
    refine ⟨first, by simpa using inside, by simpa using queue, ?_⟩
    refine forall_setState (fun number state => state.isWaiting = true ↔ first < number) ?_ ?_
    · rw [waits]
      exact waiting number job found
    · exact fun other job found _ => waiting other job found
  · refine forall_setState (fun number state => state.isRunning = true ↔ running = some number)
      ?_ ?_
    · rw [runs]
      exact staged.executed number job found
    · exact fun other job found _ => staged.executed other job found
  · exact forall_setState JobState.IsTagged tagged fun other job found _ =>
      staged.tagged other job found

/-- The first job of a batch is the first one that waits. -/
theorem next (staged : schedule.Staged none (number :: batch)) :
    (∃ job, schedule.job? number = some job ∧ job.state.isWaiting = true) ∧
      batch ++ schedule.ready.toList =
        List.range' (number + 1) (schedule.jobs.size - number) ∧
      ∀ other job, schedule.job? other = some job →
        (job.state.isWaiting = true ↔ number ≤ other) := by
  obtain ⟨first, inside, queue, waiting⟩ := staged.queued
  obtain ⟨rest, size⟩ : ∃ rest, schedule.jobs.size - first = rest + 1 := by
    cases count : schedule.jobs.size - first with
    | zero =>
        rw [count] at queue
        cases queue
    | succ rest => exact ⟨rest, rfl⟩
  rw [size, List.range'_succ] at queue
  obtain ⟨rfl, after⟩ := List.cons.inj queue
  obtain ⟨job, found⟩ := schedule.exists_job? (Nat.succ_pos first) (by omega)
  refine ⟨⟨job, found, (waiting _ job found).mpr (Nat.lt_succ_self first)⟩, ?_, ?_⟩
  · rw [show schedule.jobs.size - (first + 1) = rest by omega]
    exact after
  · exact fun other job found => waiting other job found

/-- A round takes all jobs that are ready. -/
theorem take (staged : schedule.Staged none []) :
    { schedule with ready := #[] }.Staged none schedule.ready.toList where
  counted := staged.counted
  queued := by
    obtain ⟨first, inside, queue, waiting⟩ := staged.queued
    exact ⟨first, inside, by simpa using queue, waiting⟩
  present := staged.present
  executed := staged.executed
  tagged := staged.tagged

/-- The first job of a batch leaves the queue: it ends or is executed. -/
theorem turn (staged : schedule.Staged none (number :: batch)) {state : JobState}
    (left : state.isWaiting = false) (tagged : JobState.IsTagged number state)
    (runs : state.isRunning = true ↔ running = some number)
    (only : ∀ other, running = some other → other = number) {after : Schedule}
    (jobs : after.jobs = (schedule.setState number state).jobs)
    (ready : after.ready = schedule.ready) (active : after.active = running.toList.length) :
    after.Staged running batch := by
  obtain ⟨⟨job, found, -⟩, queue, waiting⟩ := staged.next
  have inside := job?_bounds found
  have size : after.jobs.size = schedule.jobs.size := by rw [jobs, size_setState]
  have same (other : Nat) : after.job? other = (schedule.setState number state).job? other := by
    unfold job?
    rw [jobs]
  refine ⟨active, ⟨number, by omega, by rw [size, ready]; exact queue, ?_⟩, ?_, ?_, ?_⟩
  · simp only [same]
    refine forall_setState (fun other state => state.isWaiting = true ↔ number < other) ?_ ?_
    · simp [left]
    · intro other job found different
      rw [waiting other job found]
      omega
  · rintro other chosen
    rw [only other chosen, size]
    exact inside.2
  · simp only [same]
    refine forall_setState
      (fun other state => state.isRunning = true ↔ running = some other) runs ?_
    intro other job found different
    rw [staged.executed other job found]
    exact ⟨nofun, fun chosen => absurd (only other chosen) different⟩
  · simp only [same]
    exact forall_setState JobState.IsTagged tagged fun other job found _ =>
      staged.tagged other job found

/-- The job that is executed ends. -/
theorem stop (staged : schedule.Staged (some number) batch) {state : JobState}
    (done : state.isDone = true) (tagged : JobState.IsTagged number state) {after : Schedule}
    (jobs : after.jobs = (schedule.setState number state).jobs)
    (ready : after.ready = schedule.ready) (active : after.active = 0) :
    after.Staged none batch := by
  obtain ⟨idle, stopped⟩ := JobState.isDone_iff.mp done
  have size : after.jobs.size = schedule.jobs.size := by rw [jobs, size_setState]
  have same (other : Nat) : after.job? other = (schedule.setState number state).job? other := by
    unfold job?
    rw [jobs]
  refine ⟨active, ?_, nofun, ?_, ?_⟩
  · obtain ⟨first, inside, queue, waiting⟩ := staged.queued
    refine ⟨first, by omega, by rw [size, ready]; exact queue, ?_⟩
    simp only [same]
    intro other job found
    rw [job?_setState] at found
    split at found
    · rename_i here
      subst here
      obtain ⟨old, present, rfl⟩ := Option.map_eq_some_iff.mp found
      -- It was executed, so it was not waiting.
      have executed := (staged.executed _ old present).mpr rfl
      rw [← waiting _ old present]
      cases old_state : old.state <;> simp_all [JobState.isRunning, JobState.isWaiting]
    · exact waiting other job found
  · simp only [same]
    refine forall_setState (fun other state => state.isRunning = true ↔ none = some other) ?_ ?_
    · simp [stopped]
    · intro other job found different
      rw [staged.executed other job found]
      simp [Ne.symm different]
  · simp only [same]
    exact forall_setState JobState.IsTagged tagged fun other job found _ =>
      staged.tagged other job found

/-- Closing a schedule outside of all rounds ends all jobs. -/
theorem close (staged : schedule.Staged none []) : schedule.close.Staged none [] := by
  have size : schedule.close.jobs.size = schedule.jobs.size := Array.size_map ..
  have old {number : Nat} {job : Job} (found : schedule.close.job? number = some job) :
      ∃ before, schedule.job? number = some before ∧ job.state = abandoned before.state := by
    rw [job?_close] at found
    obtain ⟨before, present, rfl⟩ := Option.map_eq_some_iff.mp found
    exact ⟨before, present, rfl⟩
  refine ⟨staged.counted, ⟨schedule.jobs.size, by omega, ?_, ?_⟩, nofun, ?_, ?_⟩
  · rw [size, Nat.sub_self]
    rfl
  · intro number job found
    obtain ⟨before, present, state⟩ := old found
    have inside := job?_bounds present
    have idle : job.state.isWaiting = false := by
      rw [state]
      cases before.state <;> rfl
    rw [idle]
    exact ⟨nofun, fun behind => absurd behind (by omega)⟩
  · intro number job found
    obtain ⟨before, -, state⟩ := old found
    have idle : job.state.isRunning = false := by
      rw [state]
      cases before.state <;> rfl
    rw [idle]
    exact ⟨nofun, nofun⟩
  · intro number job found e failed
    obtain ⟨before, present, state⟩ := old found
    rw [state] at failed
    refine staged.tagged number before present e ?_
    cases kept : before.state <;> rw [kept] at failed <;> simp_all [abandoned]

/-- Between the turns, a job that does not wait has ended. -/
theorem isDone_of_not_waiting (staged : schedule.Staged none batch) {job : Job}
    (found : schedule.job? number = some job) (left : job.state.isWaiting = false) :
    job.state.isDone = true := by
  refine JobState.isDone_iff.mpr ⟨left, ?_⟩
  have executed := staged.executed number job found
  simpa using executed

/-- Outside of all rounds, all jobs before one that has ended have ended. -/
theorem isDone_of_le (staged : schedule.Staged none []) {job other : Job} {earlier : Nat}
    (found : schedule.job? number = some job) (done : job.state.isDone = true)
    (present : schedule.job? earlier = some other) (le : earlier ≤ number) :
    other.state.isDone = true := by
  obtain ⟨first, -, -, waiting⟩ := staged.queued
  have left : ¬ job.state.isWaiting = true := by simp [JobState.isDone_iff.mp done]
  rw [waiting number job found] at left
  refine staged.isDone_of_not_waiting present (Bool.eq_false_iff.mpr fun waits => ?_)
  have := (waiting earlier other present).mp waits
  omega

end Staged

end Schedule

/-! ## What scripts can ask for -/

/-- Whatever scripts ask for, the jobs keep their stages. -/
def Agenda.staged (running : Option Nat) (batch : List Nat) : Agenda where
  holds schedule _ := schedule.Staged running batch
  opened staged := staged.similar rfl rfl rfl
  added function arguments staged := staged.add function arguments
  requested {_ _ number job} found undone staged := by
    refine staged.restate found (JobState.isWaiting_requestCancel _)
      (JobState.isRunning_requestCancel _) fun e failed => ?_
    cases state : job.state <;>
      simp [state, JobState.isDone, Schedule.requestCancel] at undone failed

/-- Whatever scripts ask for, jobs that have ended keep their ends. -/
def Agenda.since (start : Schedule) : Agenda where
  holds schedule _ := start.Sustains schedule
  opened sustains := sustains.trans (.of_jobs rfl)
  added function arguments sustains := sustains.trans (.add function arguments)
  requested found undone sustains := sustains.trans (.setState_of_undone found undone _)

end Scriptlet
