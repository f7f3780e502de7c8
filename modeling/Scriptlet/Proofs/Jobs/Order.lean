import Scriptlet.Proofs.Session.Standard

/-!
# The order of jobs

The entries about jobs in the journal are a history of events.  Whatever is asked of a machine, the
functions of its jobs are started in the order in which the jobs were spawned, each at most once,
and one has finished before the next is started.  Only a join, a sleep or a yield starts any, and
only outside of all jobs.
-/

namespace Scriptlet

/-! ## Histories -/

/-- What is reported of jobs. -/
inductive JobEvent where
  | opened
  | spawned (number : Nat)
  | requested
  | started (number : Nat)
  | finished (number : Nat)
  | closed
  deriving DecidableEq, Repr

namespace JobEvent

/-- The entry that reports an event. -/
def entry : JobEvent → Entry
  | .opened => jobEntry "task loop opened"
  | .spawned number => jobEntry s!"task {number} spawned"
  | .requested => jobEntry "task cancellation requested"
  | .started number => jobEntry s!"task {number} started"
  | .finished number => jobEntry s!"task {number} finished"
  | .closed => jobEntry "task loop closed"

def spawned? : JobEvent → Option Nat
  | .spawned number => some number
  | _ => none

def started? : JobEvent → Option Nat
  | .started number => some number
  | _ => none

/-- The jobs whose functions are being executed after an event. -/
def after (running : List Nat) : JobEvent → List Nat
  | .started number => number :: running
  | .finished number => running.erase number
  | _ => running

/-- Different events are reported by different entries. -/
theorem entry_injective {event other : JobEvent} (same : event.entry = other.entry) :
    event = other := by
  have number {m n : Nat} (digits : Nat.toDigits 10 m = Nat.toDigits 10 n) : m = n := by
    rw [← @Nat.ofDigitChars_ten_toDigits m, digits, Nat.ofDigitChars_ten_toDigits]
  -- The last letters of the messages tell the events apart.
  have texts : event.entry.message.toList.reverse = other.entry.message.toList.reverse := by
    rw [same]
  cases event <;> cases other <;> simp [entry, jobEntry, toString] at texts <;>
    first | rfl | rw [number texts]

end JobEvent

/-- The jobs that are spawned in a history. -/
def spawns (events : List JobEvent) : List Nat :=
  events.filterMap JobEvent.spawned?

/-- The jobs whose functions are started in a history. -/
def starts (events : List JobEvent) : List Nat :=
  events.filterMap JobEvent.started?

/-- The jobs whose functions are being executed at the end of a history. -/
def running (events : List JobEvent) : List Nat :=
  events.foldl JobEvent.after []

@[simp]
theorem spawns_concat (events : List JobEvent) (event : JobEvent) :
    spawns (events ++ [event]) = spawns events ++ event.spawned?.toList := by
  cases event <;> simp [spawns, JobEvent.spawned?]

@[simp]
theorem starts_concat (events : List JobEvent) (event : JobEvent) :
    starts (events ++ [event]) = starts events ++ event.started?.toList := by
  cases event <;> simp [starts, JobEvent.started?]

@[simp]
theorem running_concat (events : List JobEvent) (event : JobEvent) :
    running (events ++ [event]) = event.after (running events) := by
  simp [running]

/-- A history in which jobs are numbered as they are spawned and started in this order, one at a
time. -/
structure InOrder (events : List JobEvent) : Prop where
  numbered : spawns events = List.range' 1 (spawns events).length
  increasing : (starts events).Pairwise (· < ·)
  /-- At any time, the jobs that were started are some of those that were spawned, in their
  order. -/
  inTurn : ∀ earlier, earlier <+: events → (starts earlier).Sublist (spawns earlier)
  /-- At any time, at most one function is being executed. -/
  alone : ∀ earlier, earlier <+: events → (running earlier).length ≤ 1

/-- The entries after the old ones report a history of which something is true. -/
def Reported (old : List Entry) (described : List JobEvent → Prop) (entries : List Entry) : Prop :=
  ∃ events, entries = old ++ events.map JobEvent.entry ∧ described events

namespace Reported

variable {old entries : List Entry} {before after : List JobEvent → Prop}

theorem mono (reported : Reported old before entries)
    (follows : ∀ events, before events → after events) : Reported old after entries := by
  obtain ⟨events, entries, described⟩ := reported
  exact ⟨events, entries, follows events described⟩

/-- One more event is reported. -/
theorem concat (reported : Reported old before entries) (event : JobEvent)
    (follows : ∀ events, before events → after (events ++ [event])) :
    Reported old after (entries ++ [event.entry]) := by
  obtain ⟨events, rfl, described⟩ := reported
  refine ⟨events ++ [event], ?_, follows events described⟩
  rw [List.map_append, List.append_assoc, List.map_singleton]

/-- The entries report one history only, so whatever they report is as described. -/
theorem of_report (reported : Reported old before entries) {events : List JobEvent}
    (report : entries = old ++ events.map JobEvent.entry) : before events := by
  obtain ⟨others, same, described⟩ := reported
  have same := List.append_cancel_left (report.symm.trans same)
  rw [(List.map_inj_right fun _ _ => JobEvent.entry_injective).mp same]
  exact described

end Reported

/-! ## The timetable of ordered jobs -/

/-- The history so far, with the jobs that are being executed and those that still have their turn
in a round. -/
structure Progress (active batch : List Nat) (schedule : Schedule) (events : List JobEvent) :
    Prop where
  numbered : spawns events = List.range' 1 schedule.jobs.size
  queued : (starts events ++ (batch ++ schedule.ready.toList)).Sublist (spawns events)
  before : ∀ earlier, earlier <+: events →
    (starts earlier).Sublist (spawns earlier) ∧ (running earlier).length ≤ 1
  current : running events = active
  counted : schedule.active = active.length

namespace Progress

variable {active batch active' batch' : List Nat} {schedule schedule' : Schedule}
  {events : List JobEvent}

theorem single (progress : Progress active batch schedule events) : active.length ≤ 1 :=
  progress.current ▸ (progress.before events (List.prefix_refl events)).2

/-- Only the numbers of jobs, the queue and the count of active jobs matter. -/
theorem similar (progress : Progress active batch schedule events)
    (size : schedule'.jobs.size = schedule.jobs.size)
    (queue : (batch' ++ schedule'.ready.toList).Sublist (batch ++ schedule.ready.toList))
    (count : schedule'.active = schedule.active) : Progress active batch' schedule' events where
  numbered := by rw [progress.numbered, size]
  queued := ((List.Sublist.refl _).append queue).trans progress.queued
  before := progress.before
  current := progress.current
  counted := count.trans progress.counted

/-- One more event: a job that is spawned comes last in the queue, and one that is started is taken
from its front. -/
theorem concat (progress : Progress active batch schedule events) {event : JobEvent}
    (numbered : List.range' 1 schedule'.jobs.size =
      List.range' 1 schedule.jobs.size ++ event.spawned?.toList)
    (queued : (event.started?.toList ++ (batch' ++ schedule'.ready.toList)).Sublist
      (batch ++ schedule.ready.toList ++ event.spawned?.toList))
    (current : event.after active = active') (single : active'.length ≤ 1)
    (counted : schedule'.active = active'.length) :
    Progress active' batch' schedule' (events ++ [event]) := by
  have queued : (starts (events ++ [event]) ++ (batch' ++ schedule'.ready.toList)).Sublist
      (spawns (events ++ [event])) := by
    have later := progress.queued.append (List.Sublist.refl event.spawned?.toList)
    rw [List.append_assoc] at later
    rw [spawns_concat, starts_concat, List.append_assoc]
    exact ((List.Sublist.refl _).append queued).trans later
  have current : running (events ++ [event]) = active' := by
    rw [running_concat, progress.current, current]
  refine ⟨?_, queued, fun earlier found => ?_, current, counted⟩
  · rw [spawns_concat, progress.numbered, numbered]
  · rcases List.prefix_concat_iff.mp found with rfl | found
    · exact ⟨(List.sublist_append_left _ _).trans queued, current ▸ single⟩
    · exact progress.before earlier found

/-- An event that concerns the whole schedule changes nothing. -/
theorem concat_same (progress : Progress active batch schedule events) {event : JobEvent}
    (spawned : event.spawned? = none) (started : event.started? = none)
    (current : event.after active = active)
    (size : schedule'.jobs.size = schedule.jobs.size)
    (queue : schedule'.ready.toList.Sublist schedule.ready.toList)
    (count : schedule'.active = schedule.active) :
    Progress active batch schedule' (events ++ [event]) := by
  refine progress.concat ?_ ?_ current progress.single (count.trans progress.counted)
  · simp [spawned, size]
  · simpa [spawned, started] using queue

theorem inOrder (progress : Progress active batch schedule events) : InOrder events := by
  have inTurn := (List.sublist_append_left _ _).trans progress.queued
  rw [progress.numbered] at inTurn
  refine ⟨?_, ?_, fun earlier found => (progress.before earlier found).1,
    fun earlier found => (progress.before earlier found).2⟩
  · rw [progress.numbered, List.length_range']
  · exact (List.pairwise_lt_range' 1 Nat.one_pos).sublist inTurn

end Progress

/-- Putting a job into another stage leaves the numbers of jobs, the queue and the count of active
jobs. -/
theorem setState_counts (schedule : Schedule) (number : Nat) (state : JobState) :
    (schedule.setState number state).jobs.size = schedule.jobs.size ∧
      (schedule.setState number state).ready = schedule.ready ∧
      (schedule.setState number state).active = schedule.active := by
  unfold Schedule.setState
  split
  · exact ⟨rfl, rfl, rfl⟩
  · exact ⟨Array.size_modify .., rfl, rfl⟩

/-- The history is in progress. -/
def Agenda.ordered (old : List Entry) (active batch : List Nat) : Agenda where
  holds schedule := Reported old (Progress active batch schedule)
  opened reported := reported.concat .opened fun _ progress =>
    progress.concat_same rfl rfl rfl rfl (.refl _) rfl
  added function arguments reported := reported.concat (.spawned _) fun _ progress =>
    progress.concat (by simp [Schedule.add, JobEvent.spawned?, List.range'_1_concat, Nat.add_comm])
      (by simp [Schedule.add, JobEvent.spawned?, JobEvent.started?]) rfl progress.single
      progress.counted
  requested {_ _ number job} _ _ reported := reported.concat .requested fun _ progress => by
    obtain ⟨size, ready, active⟩ := setState_counts _ number (Schedule.requestCancel job.state)
    exact progress.concat_same rfl rfl rfl size (ready ▸ .refl _) active

theorem ordered_restates (old : List Entry) (active batch : List Nat) :
    (Agenda.ordered old active batch).Restates := by
  intro schedule entries number state reported
  refine Reported.mono reported fun _ progress => ?_
  obtain ⟨size, ready, active⟩ := setState_counts schedule number state
  exact progress.similar size (ready ▸ .refl _) active

/-- Code is executed outside of all jobs, or inside a job of a round. -/
inductive OrderStage where
  | outside
  | inside (number : Nat) (batch : List Nat)

/-- Rounds are asked for outside of all jobs. -/
def Timetable.ordered (drives : Prop) (old : List Entry) : Timetable drives where
  Stage := OrderStage
  agenda
    | .outside => .ordered old [] []
    | .inside number batch => .ordered old [number] batch
  restates
    | .outside => ordered_restates old [] []
    | .inside number batch => ordered_restates old [number] batch
  idle stage := stage = .outside
  turn
    | .outside, batch, schedule, entries => Reported old (Progress [] batch schedule) entries
    | .inside _ _, _, _, _ => False
  resting {stage schedule entries} reported inactive := by
    cases stage with
    | outside => rfl
    | inside number batch =>
        obtain ⟨events, -, progress⟩ := reported
        have counted := progress.counted
        rw [inactive] at counted
        cases counted
  entering := by
    rintro _ schedule entries _ rfl reported
    refine Reported.mono reported fun _ progress => progress.similar rfl ?_ rfl
    simp
  settling {stage _ _ _} number state reported := by
    cases stage with
    | outside =>
        exact ordered_restates old [] _ number state reported
    | inside => exact reported
  skipping {stage number batch _ _} reported := by
    cases stage with
    | outside =>
        refine Reported.mono reported fun _ progress => progress.similar rfl ?_ rfl
        exact List.sublist_cons_self number _
    | inside => exact reported
  starting {stage number batch _ _} reported := by
    cases stage with
    | outside =>
        refine ⟨.inside number batch, ?_, fun reported => ?_⟩
        · refine Reported.concat reported (.started number) fun _ progress => ?_
          refine progress.concat (by simp [JobEvent.spawned?]) ?_ rfl (Nat.le_refl 1) ?_
          · simp [JobEvent.spawned?, JobEvent.started?]
          · exact congrArg (· + 1) progress.counted
        · refine Reported.concat reported (.finished number) fun _ progress => ?_
          refine progress.concat (by simp [JobEvent.spawned?]) ?_ ?_ (Nat.zero_le 1) ?_
          · simp [JobEvent.spawned?, JobEvent.started?]
          · exact List.erase_cons_head number []
          · exact congrArg (· - 1) progress.counted
    | inside => exact reported.elim
  leaving {stage _ _} reported := by
    cases stage with
    | outside => exact reported
    | inside => exact reported.elim
  closed := by
    rintro _ schedule entries rfl reported
    refine Reported.concat reported .closed fun _ progress => ?_
    exact progress.concat_same rfl rfl rfl (Array.size_map ..) (List.nil_sublist _) rfl

/-! ## The timetable without rounds -/

/-- No function of a job is started. -/
def Agenda.quiet (old : List Entry) (active : Nat) : Agenda where
  holds schedule entries :=
    schedule.active = active ∧ Reported old (fun events => starts events = []) entries
  opened := fun ⟨same, reported⟩ => ⟨same, reported.concat .opened (by simp [JobEvent.started?])⟩
  added := fun _ _ ⟨same, reported⟩ =>
    ⟨same, reported.concat (.spawned _) (by simp [JobEvent.started?])⟩
  requested := fun _ _ ⟨same, reported⟩ => ⟨(setState_counts _ _ _).2.2.trans same,
    reported.concat .requested (by simp [JobEvent.started?])⟩

theorem quiet_closed {old : List Entry} {active : Nat} {schedule : Schedule} {entries : List Entry}
    (quiet : (Agenda.quiet old active).holds schedule entries) :
    (Agenda.quiet old active).holds schedule.close
      (entries ++ [jobEntry "task loop closed"]) :=
  ⟨quiet.1, quiet.2.concat .closed (by simp [JobEvent.started?])⟩

/-- No rounds are asked for: if anything lets the jobs run, it is used inside a job. -/
def Timetable.quiet {drives : Prop} (old : List Entry) (active : Nat)
    (inside : drives → 0 < active) : Timetable drives where
  Stage := Unit
  agenda _ := .quiet old active
  restates := fun _ _ _ number state ⟨same, reported⟩ =>
    ⟨(setState_counts _ number state).2.2.trans same, reported⟩
  idle _ := drives → active = 0
  turn _ _ _ _ := False
  resting := fun ⟨same, _⟩ inactive _ => same ▸ inactive
  entering := fun driven idle _ => by
    have none := idle driven
    have some := inside driven
    omega
  settling _ _ := id
  skipping := id
  starting := False.elim
  leaving := False.elim
  closed := fun _ => quiet_closed

/-! ## Requests -/

/-- What can be asked of a machine from outside: an operation, a call of a function, the run of a
program text, or the end of the schedule. -/
inductive Request where
  | perform (room : Nat) (action : Action) (arguments : List Value)
  | invoke (room : Nat) (job : Job)
  | call (callee : Value) (arguments : List Value)
  | run (moduleRoot : Option String) (scope : ScopeId) (source : String) (file : Option String)
  | close

/-- Whether a request runs no code: an operation on the store, or the end of the schedule. -/
def Request.isPlain : Request → Bool
  | .perform _ (.native _) _ | .close => true
  | _ => false

/-- The machine after a request, however it ends. -/
def Machine.serve (machine : Machine) : Request → Machine
  | .perform room action arguments => endState (perform room action arguments machine)
  | .invoke room job => endState (callJob room job machine)
  | .call callee arguments => endState (callFromHost callee arguments machine)
  | .run moduleRoot scope source file => endState (runSource moduleRoot scope source file machine)
  | .close => endState (Machine.onStore closeSchedule machine)

/-- The machine after some requests. -/
def Machine.serveAll (machine : Machine) (requests : List Request) : Machine :=
  requests.foldl Machine.serve machine

/-- What every request keeps is kept by all of them. -/
theorem serveAll_obeys {D : Discipline} {holds : Schedule → List Entry → Prop}
    {requests : List Request} (each : ∀ request ∈ requests, ∀ machine : Machine,
      machine.store.Obeys D holds → (machine.serve request).store.Obeys D holds)
    {machine : Machine} (start : machine.store.Obeys D holds) :
    (machine.serveAll requests).store.Obeys D holds := by
  induction requests generalizing machine with
  | nil => exact start
  | cons request rest ih =>
      refine ih (fun later found => each later (List.mem_cons_of_mem _ found)) ?_
      exact each request List.mem_cons_self machine start

section Requests

variable {drives : Prop} {T : Timetable drives} {stage : T.Stage} {machine : Machine}

/-- A request is served within the discipline. -/
theorem serve_obeys (request : Request) (closing : request = .close → T.idle stage)
    (allowed : ∀ room action arguments, request = .perform room action arguments →
      action.drives = true → drives)
    (obeys : machine.store.Obeys (.loose drives) (T.agenda stage).holds) :
    (machine.serve request).store.Obeys (.loose drives) (T.agenda stage).holds := by
  have code : (Discipline.loose drives).Code := .any (fun _ => trivial) fun _ => trivial
  cases request with
  | perform room action arguments =>
      have steady := (roomSteady code T room).perform stage (allowed room action arguments rfl)
      exact (steady arguments machine).endState obeys
  | invoke room job => exact ((roomSteady code T room).callJob stage job machine).endState obeys
  | call callee arguments =>
      exact (callFromHost_steady code callee arguments machine).endState obeys
  | run moduleRoot scope source file =>
      have keeps : Keeps (fun machine => machine.store.Obeys (.loose drives) (T.agenda stage).holds)
          _ _ (runSource moduleRoot scope source file) machine :=
        runSource_keeps code moduleRoot scope machine fun _ _ => trivial
      exact keeps.endState obeys
  | close =>
      have steady : SteadyRun (.loose drives) (T.agenda stage) (fun _ => True) _ :=
        closeSchedule_steady (T.closed (closing rfl))
      exact (steady machine).endState obeys

end Requests

/-- No host function of the store lets the jobs run. -/
def Store.Undriven (store : Store) : Prop :=
  ∀ object ∈ store.objects, ∀ name action, object.callable? = some (name, action) →
    action.drives = false

/-- The loose discipline asks nothing but that. -/
theorem obeys_loose {drives : Prop} {store : Store} {holds : Schedule → List Entry → Prop}
    (driven : drives ∨ store.Undriven) (jobs : holds store.schedule store.jobEntries) :
    store.Obeys (.loose drives) holds where
  closures _ _ := trivial
  objects object found := by
    have allowed {name : String} {action : Action}
        (called : object.callable? = some (name, action)) (driving : action.drives = true) :
        drives := by
      rcases driven with driven | undriven
      · exact driven
      · rw [undriven object found name action called] at driving
        cases driving
    cases object with
    | function => exact allowed rfl
    | factory => exact ⟨allowed rfl, fun _ _ => trivial⟩
    | group | scheduler => exact fun _ _ => trivial
    | record => exact fun _ _ _ => trivial
    | loaded => trivial
  methods method _ := Discipline.loose_method method
  failures _ _ _ _ := trivial
  jobs := jobs

/-! ## Inside a job -/

/-- Steps that agree after a first one agree with it. -/
theorem bind_agrees {σ α β : Type} {first : EStateM Fault σ α} {next other : α → EStateM Fault σ β}
    {state : σ} (agree : ∀ value middle, first state = .ok value middle →
      next value middle = other value middle) :
    (first >>= next) state = (first >>= other) state := by
  change EStateM.bind first next state = EStateM.bind first other state
  unfold EStateM.bind
  cases run : first state with
  | ok value middle => exact agree value middle run
  | error failure middle => rfl

theorem ofExcept_same {σ α : Type} {answer : Except Fault α} {value : α} {before after : σ}
    (run : (ofExcept answer : EStateM Fault σ α) before = .ok value after) : after = before := by
  cases answer <;> cases run
  rfl

theorem askStore_same {α : Type} {question : Store → Except Fault α} {value : α}
    {before after : Machine} (run : Machine.askStore question before = .ok value after) :
    after = before := by
  unfold Machine.askStore at run
  split at run <;> cases run
  rfl

/-- A join, a sleep or a yield does not depend on what would start a job. -/
def Machine.HoldsJobs (machine : Machine) : Prop :=
  ∀ (start other : Nat → MachineM Unit) (arguments : List Value),
    joinJob start arguments machine = joinJob other arguments machine ∧
      sleepFor start arguments machine = sleepFor other arguments machine ∧
      yieldTurn start arguments machine = yieldTurn other arguments machine

theorem holdsJobs_of_active {machine : Machine} (inside : 0 < machine.store.schedule.active) :
    machine.HoldsJobs := by
  intro start other arguments
  refine ⟨?_, ?_, ?_⟩
  · refine bind_agrees fun _ middle checked => ?_
    cases ofExcept_same checked
    refine bind_agrees fun number middle asked => ?_
    cases askStore_same asked
    refine bind_agrees fun _ middle looked => ?_
    cases looked
    dsimp only
    rw [if_pos inside, if_pos inside]
  · refine bind_agrees fun _ middle checked => ?_
    cases ofExcept_same checked
    cases arguments.headD .absent with
    | number x =>
        refine bind_agrees fun _ middle looked => ?_
        cases looked
        dsimp only
        rw [if_pos inside, if_pos inside]
    | _ => rfl
  · refine bind_agrees fun _ middle checked => ?_
    cases ofExcept_same checked
    refine bind_agrees fun _ middle looked => ?_
    cases looked
    dsimp only
    rw [if_neg (Nat.ne_of_gt inside), if_neg (Nat.ne_of_gt inside)]

/-! ## Results -/

/-- The requests start no function of a job, and execute as many as before. -/
def Machine.StartsNone (machine : Machine) (requests : List Request) : Prop :=
  (machine.serveAll requests).store.schedule.active = machine.store.schedule.active ∧
    Reported machine.store.jobEntries (fun events => starts events = [])
      (machine.serveAll requests).store.jobEntries

/-- No function of a job is started inside a job, or where nothing lets the jobs run. -/
theorem startsNone_of_quiet {drives : Prop} {machine : Machine} {requests : List Request}
    (driven : drives ∨ machine.store.Undriven)
    (inside : drives → 0 < machine.store.schedule.active ∧ .close ∉ requests)
    (allowed : ∀ room action arguments, .perform room action arguments ∈ requests →
      action.drives = true → drives) : machine.StartsNone requests := by
  let timetable : Timetable drives :=
    .quiet machine.store.jobEntries machine.store.schedule.active fun driven => (inside driven).1
  have start : machine.store.Obeys (.loose drives) (timetable.agenda ()).holds :=
    obeys_loose driven ⟨rfl, [], by simp, rfl⟩
  refine (serveAll_obeys (fun request found middle => serve_obeys request ?_ ?_) start).jobs
  · rintro rfl driven
    exact absurd found (inside driven).2
  · rintro room action arguments rfl
    exact allowed room action arguments found

/-- No function of a job is started by requests that run no code. -/
theorem startsNone_of_isPlain {machine : Machine} {requests : List Request}
    (plain : ∀ request ∈ requests, request.isPlain = true) : machine.StartsNone requests := by
  let agenda := Agenda.quiet machine.store.jobEntries machine.store.schedule.active
  have start : machine.store.Obeys (.loose True) agenda.holds :=
    obeys_loose (.inl trivial) ⟨rfl, [], by simp, rfl⟩
  refine (serveAll_obeys (fun request found middle obeys => ?_) start).jobs
  have plain := plain request found
  cases request with
  | close =>
      have steady : SteadyRun (.loose True) agenda (fun _ => True) _ :=
        closeSchedule_steady quiet_closed
      exact (steady middle).endState obeys
  | perform room action arguments =>
      cases action with
      | control => cases plain
      | native operation =>
          have allowed : (Discipline.loose True).action (.native operation) := nofun
          cases room with
          | zero => exact obeys
          | succ room =>
              have steady : Steady _ agenda _ _ _ := native_steady room allowed arguments
              exact (SteadyRun.onStore steady middle).endState obeys
  | _ => cases plain

/-- What any requests do to the jobs.  From a fresh schedule on, functions of jobs are started in
the order in which the jobs were spawned, one at a time, and all that were started have finished.
Inside a job no join, sleep or yield lets the jobs run, and nothing is started.  Outside, nothing is
started by operations on the store, nor by any code as long as no host function is a join, a sleep
or a yield. -/
theorem serveAll_jobs (machine : Machine) (requests : List Request) :
    (machine.store.schedule = {} → Reported machine.store.jobEntries
      (fun events => InOrder events ∧ running events = [])
      (machine.serveAll requests).store.jobEntries) ∧
    (0 < machine.store.schedule.active →
      machine.HoldsJobs ∧ (.close ∉ requests → machine.StartsNone requests)) ∧
    ((∀ request ∈ requests, request.isPlain = true) → machine.StartsNone requests) ∧
    (machine.store.Undriven → (∀ room action arguments,
      .perform room action arguments ∈ requests → action.drives = false) →
      machine.StartsNone requests) := by
  refine ⟨fun fresh => ?_, fun inside => ⟨holdsJobs_of_active inside, fun unclosed => ?_⟩,
    startsNone_of_isPlain, fun undriven allowed => ?_⟩
  · have start : machine.store.Obeys (.loose True)
        ((Timetable.ordered True machine.store.jobEntries).agenda .outside).holds := by
      refine obeys_loose (.inl trivial) ⟨[], by simp, ?_⟩
      rw [fresh]
      exact ⟨rfl, List.nil_sublist _, by simp [running, starts], rfl, rfl⟩
    have last : (machine.serveAll requests).store.Obeys _ _ := serveAll_obeys (fun request _ _ =>
      serve_obeys request (fun _ => rfl) fun _ _ _ _ _ => trivial) start
    exact Reported.mono last.jobs fun _ progress => ⟨progress.inOrder, progress.current⟩
  · exact startsNone_of_quiet (.inl trivial) (fun _ => ⟨inside, unclosed⟩) fun _ _ _ _ _ => trivial
  · refine startsNone_of_quiet (.inr undriven) False.elim
      fun room action arguments found drives => ?_
    rw [allowed room action arguments found] at drives
    cases drives

/-- Two jobs with the function of a program are started one after the other. -/
theorem serveAll_jobs_pair :
    let machine : Machine := .unused ((FileTree.directory []).disk "/") defaultDepthLimit 0.0
    let requests : List Request := [.run none 0 "(fn() \x7b \x7d)" none,
      .perform 9 (.native .spawn) [.closure 0], .perform 9 (.native .spawn) [.closure 0],
      .perform 9 (.control .yield) [], .close]
    let events : List JobEvent := [.opened, .spawned 1, .spawned 2, .started 1, .finished 1,
      .started 2, .finished 2, .closed]
    (machine.serveAll requests).store.jobEntries =
        machine.store.jobEntries ++ events.map JobEvent.entry ∧
      InOrder events ∧ running events = [] := by
  intro machine requests events
  have report : (machine.serveAll requests).store.jobEntries =
      machine.store.jobEntries ++ events.map JobEvent.entry := by
    decide +kernel
  have fresh : machine.store.schedule = {} := rfl
  exact ⟨report, ((serveAll_jobs machine requests).1 fresh).of_report report⟩

end Scriptlet
