import Scriptlet.Proofs.Machine.Keeping
import Scriptlet.Proofs.Fault.Answers
import Scriptlet.Evaluator

/-!
# Disciplines

A discipline says what host objects may hold and do, what the bodies of functions look like, and in
which ways code and host functions may fail.  An agenda says what is true of the jobs and of the
entries about them.  Both speak about single changes only; every operation then keeps a store as
they demand it, and fails only in the ways that are allowed.
-/

namespace Scriptlet

/-- Whether data has no parts and can be handled by scripts. -/
def Data.isAtom : Data → Bool
  | .list _ | .table _ | .foreign => false
  | _ => true

/-- Whether a host function lets the jobs run. -/
def Action.drives : Action → Bool
  | .control .join | .control .sleep | .control .yield => true
  | _ => false

/-- What an answer of the host holds is as described. -/
def Answer.Holds (data : Data → Prop) (raw : String → Data → Prop) : Answer → Prop
  | .data held => data held
  | .record typeName fields => ∀ field ∈ fields, raw typeName field.2

/-- How operations may fail, and what jobs have failed with. -/
structure Outcomes where
  /-- How code fails. -/
  fault : Fault → Prop
  /-- How host functions fail. -/
  failure : Fault → Prop
  /-- How jobs have failed. -/
  recorded : Fault → Prop
  cause : ∀ cause, fault (.ofCause cause)
  exhausted : fault .exhausted
  unfinished : fault .unfinished
  tooLarge : fault .tooLarge
  weaken : ∀ {cause}, fault cause → failure cause
  reported : ∀ {kind} (message : String), HostFailure.isReported kind = true →
    failure (.host kind message)

/-- What evaluation makes of faults is allowed too: errors get places, failures of host functions
are reported, and the failures of jobs are recorded and raised again. -/
class Outcomes.Open (outcomes : Outcomes) : Prop where
  script : ∀ error, outcomes.fault (.script error)
  report : ∀ {cause} (function : String), outcomes.failure cause →
    outcomes.fault (reportFailure function cause)
  record : ∀ {cause} (number : Nat), outcomes.failure cause →
    outcomes.recorded (failureOf number cause)
  relocate : ∀ error, outcomes.recorded (.script error)
  rejoin : ∀ {cause}, outcomes.recorded cause → outcomes.failure cause

/-- Nothing is known of the faults. -/
def Outcomes.any : Outcomes where
  fault := fun _ => True
  failure := fun _ => True
  recorded := fun _ => True
  cause := fun _ => trivial
  exhausted := trivial
  unfinished := trivial
  tooLarge := trivial
  weaken := id
  reported := fun _ _ => trivial

instance Outcomes.any_open : Outcomes.any.Open where
  script := fun _ => trivial
  report := fun _ _ => trivial
  record := fun _ _ => trivial
  relocate := fun _ => trivial
  rejoin := id

/-- What objects hold and do, and how code and host functions fail. -/
structure Discipline extends Outcomes where
  /-- The bodies of functions and modules. -/
  body : List Stmt → Prop
  /-- The data that the host holds. -/
  data : Data → Prop
  /-- The data in the fields of a record with a given type name. -/
  raw : String → Data → Prop
  /-- What host functions do. -/
  action : Action → Prop
  /-- Whether any host function may let the jobs run. -/
  drives : Prop
  atom : ∀ {held}, Data.isAtom held = true → data held
  list : ∀ {items}, data (.list items) ↔ ∀ item ∈ items, data item
  table : ∀ {fields}, data (.table fields) → ∀ field ∈ fields, data field.2
  foreign : data .foreign → fault .notExposable
  rawData : ∀ {typeName held}, raw typeName held → data held
  rawAtom : ∀ {typeName held}, Data.isAtom held = true → raw typeName held
  rawRecord : ∀ {held}, data held → raw "Record" held
  bound : ∀ method receiver, action (.native (.bound method receiver))
  boundCopy : ∀ {method receiver}, action (.native (.boundCopy method receiver)) ↔
    data receiver ∧ action (.native (.hosted method.implementation))
  isoAt : ∀ milliseconds, action (.native (.isoAt milliseconds))
  isDone : ∀ job, action (.native (.isDone job))
  isCancelled : ∀ job, action (.native (.isCancelled job))
  answers : ∀ {implementation : Implementation} {items}, action (.native (.hosted implementation)) →
    (∀ item ∈ items, data item) → ∀ {answer}, implementation.run items = .ok answer →
      answer.Holds data raw
  refuses : ∀ {implementation : Implementation} {items}, action (.native (.hosted implementation)) →
    (∀ item ∈ items, data item) → ∀ {refusal}, implementation.run items = .error refusal →
      failure refusal.fault
  module : ∀ {statements unit runner},
    action (.control (.runModule statements unit runner)) ↔ body statements
  driving : ∀ {what}, action what → what.drives = true → drives

theorem Answer.holds_anything (answer : Answer) :
    answer.Holds (fun _ => True) (fun _ _ => True) := by
  cases answer with
  | data held => trivial
  | record typeName fields => exact fun _ _ => trivial

/-- The discipline that says only whether host functions let the jobs run. -/
def Discipline.loose (drives : Prop) : Discipline :=
  { Outcomes.any with
    body := fun _ => True
    data := fun _ => True
    raw := fun _ _ => True
    action := fun action => action.drives = true → drives
    drives := drives
    atom := fun _ => trivial
    list := ⟨fun _ _ _ => trivial, fun _ => trivial⟩
    table := fun _ _ _ => trivial
    foreign := fun _ => trivial
    rawData := fun _ => trivial
    rawAtom := fun _ => trivial
    rawRecord := fun _ => trivial
    bound := nofun
    boundCopy := ⟨fun _ => ⟨trivial, nofun⟩, nofun⟩
    isoAt := nofun
    isDone := nofun
    isCancelled := nofun
    answers := fun _ _ _ _ => Answer.holds_anything _
    refuses := fun _ _ _ _ => trivial
    module := ⟨fun _ => trivial, nofun⟩
    driving := id }

instance Discipline.loose_open {drives : Prop} : (Discipline.loose drives).Open :=
  Outcomes.any_open

/-- An entry about jobs. -/
def jobEntry (message : String) : Entry :=
  ⟨.debug, .tasks, message⟩

/-- The entries about jobs in the journal. -/
def Store.jobEntries (store : Store) : List Entry :=
  store.journal.toList.filter fun entry => entry.origin = .tasks

/-- An entry about jobs comes after all others. -/
theorem Store.jobEntries_push (store : Store) (message : String) :
    (store.journal.push (jobEntry message)).toList.filter (fun entry => entry.origin = .tasks) =
      store.jobEntries ++ [jobEntry message] := by
  simp [Store.jobEntries, jobEntry]

/-- What is true of the jobs and of the entries about them while code runs. -/
structure Agenda where
  holds : Schedule → List Entry → Prop
  opened : ∀ {schedule entries}, holds schedule entries →
    holds { schedule with isOpen := true } (entries ++ [jobEntry "task loop opened"])
  added : ∀ {schedule entries} (function : Value) (arguments : List Value),
    holds schedule entries → holds (schedule.add function arguments)
      (entries ++ [jobEntry s!"task {schedule.jobs.size + 1} spawned"])
  requested : ∀ {schedule entries number job}, schedule.job? number = some job →
    job.state.isDone = false → holds schedule entries →
    holds (schedule.setState number (Schedule.requestCancel job.state))
      (entries ++ [jobEntry "task cancellation requested"])

/-- The stages of single jobs do not matter. -/
def Agenda.Restates (A : Agenda) : Prop :=
  ∀ {schedule entries} (number : Nat) (state : JobState),
    A.holds schedule entries → A.holds (schedule.setState number state) entries

/-- What is true of the jobs and of the entries about them in all stages of a run.  Code runs in a
stage, and a round of jobs takes turns between two pieces of code if anything lets the jobs run. -/
structure Timetable (drives : Prop) where
  Stage : Type
  agenda : Stage → Agenda
  restates : ∀ stage, (agenda stage).Restates
  /-- No job is being executed. -/
  idle : Stage → Prop
  /-- What is true while the given jobs still have their turn in a round. -/
  turn : Stage → List Nat → Schedule → List Entry → Prop
  resting : ∀ {stage schedule entries}, (agenda stage).holds schedule entries →
    schedule.active = 0 → idle stage
  entering : ∀ {stage schedule entries}, drives → idle stage →
    (agenda stage).holds schedule entries →
    turn stage schedule.ready.toList { schedule with ready := #[] } entries
  settling : ∀ {stage batch schedule entries} (number : Nat) (state : JobState),
    turn stage batch schedule entries → turn stage batch (schedule.setState number state) entries
  skipping : ∀ {stage number batch schedule entries},
    turn stage (number :: batch) schedule entries → turn stage batch schedule entries
  /-- The function of a job is executed in a stage of its own. -/
  starting : ∀ {stage number batch schedule entries},
    turn stage (number :: batch) schedule entries → ∃ inside,
      (agenda inside).holds { schedule with active := schedule.active + 1 }
        (entries ++ [jobEntry s!"task {number} started"]) ∧
      ∀ {schedule entries}, (agenda inside).holds schedule entries →
        turn stage batch { schedule with active := schedule.active - 1 }
          (entries ++ [jobEntry s!"task {number} finished"])
  leaving : ∀ {stage schedule entries}, turn stage [] schedule entries →
    (agenda stage).holds schedule entries
  closed : ∀ {stage schedule entries}, idle stage → (agenda stage).holds schedule entries →
    (agenda stage).holds schedule.close (entries ++ [jobEntry "task loop closed"])

/-- A host object as the discipline demands it. -/
def Discipline.object (D : Discipline) : HostObject → Prop
  | .function _ action => D.action action
  | .factory _ action members => D.action action ∧ ∀ member ∈ members, D.data member.2
  | .group _ members | .scheduler members => ∀ member ∈ members, D.data member.2
  | .record typeName fields => ∀ name held, (name, .raw held) ∈ fields → D.raw typeName held
  | .loaded _ _ => True

/-- A method as the discipline demands it. -/
def Discipline.method (D : Discipline) : MethodEntry → Prop
  | .standard _ => True
  | .hosted method => D.action (.native (.hosted method.implementation))

theorem Discipline.loose_method {drives : Prop} (method : MethodEntry) :
    (Discipline.loose drives).method method := by
  cases method with
  | standard => trivial
  | hosted => exact nofun

/-- A member as the discipline demands it. -/
def Discipline.member (D : Discipline) : Member → Prop
  | .value _ => True
  | .method method => D.method method

/-- The store is as a discipline demands it, and something is true of its jobs. -/
structure Store.Obeys (D : Discipline) (holds : Schedule → List Entry → Prop) (store : Store) :
    Prop where
  closures : ∀ closure ∈ store.closures, D.body closure.body
  objects : ∀ object ∈ store.objects, D.object object
  methods : ∀ method ∈ store.methods, D.method method
  failures : ∀ job ∈ store.schedule.jobs, ∀ fault, job.state = .failed fault → D.recorded fault
  jobs : holds store.schedule store.jobEntries

variable {D : Discipline} {A : Agenda} {holds : Schedule → List Entry → Prop} {store : Store}
  {α β : Type}

/-! ## Faults and objects -/

namespace Discipline

/-- How whole programs fail: they report the exhaustion of the stack as a script error. -/
def wholly (D : Discipline) (fault : Fault) : Prop :=
  D.fault fault ∧ fault ≠ .exhausted

theorem misuse (D : Discipline) (use : Misuse) : D.fault (.ofMisuse use) :=
  D.cause _

theorem data_of_rawFields {table : Assoc Data} (all : ∀ member ∈ table, D.data member.2)
    {name : String} {held : Data}
    (found : (name, Field.raw held) ∈ table.map fun (name, data) => (name, .raw data)) :
    D.data held := by
  obtain ⟨member, inTable, same⟩ := List.mem_map.mp found
  cases same
  exact all member inTable

/-- The data in the members of an object is allowed. -/
theorem object_members {object : HostObject} (allowed : D.object object) {fields : Assoc Field}
    (members : object.members? = some fields) {name : String} {held : Data}
    (found : (name, .raw held) ∈ fields) : D.data held := by
  cases object with
  | function => cases members
  | factory =>
      cases members
      exact data_of_rawFields allowed.2 found
  | group | scheduler =>
      cases members
      exact data_of_rawFields allowed found
  | record =>
      cases members
      exact D.rawData (allowed name held found)
  | loaded =>
      cases members
      apply D.atom
      rcases List.mem_cons.mp found with same | found
      · cases same
        rfl
      · cases List.mem_singleton.mp found
        rfl

/-- What a host object does when it is called is allowed. -/
theorem object_callable {object : HostObject} (allowed : D.object object) {name : String}
    {action : Action} (called : object.callable? = some (name, action)) : D.action action := by
  cases object with
  | function =>
      cases called
      exact allowed
  | factory =>
      cases called
      exact allowed.1
  | _ => cases called

theorem object_withField {object : HostObject} (allowed : D.object object) (field : String)
    (value : Value) : D.object (object.withField field value) := by
  cases object with
  | record typeName fields =>
      intro name held found
      refine allowed name held ?_
      clear allowed
      induction fields with
      | nil => simp [Assoc.put] at found
      | cons first rest ih =>
          obtain ⟨key, old⟩ := first
          rw [Assoc.put] at found
          split at found
          · rcases List.mem_cons.mp found with same | found
            · cases same
            · exact List.mem_cons_of_mem _ found
          · rcases List.mem_cons.mp found with same | found
            · exact same ▸ List.mem_cons_self
            · exact List.mem_cons_of_mem _ (ih found)
  | _ => exact allowed

/-- A record that is made of data has fields as the discipline demands them. -/
theorem object_newRecord {typeName : String} {fields : Assoc Data}
    (all : ∀ field ∈ fields, D.raw typeName field.2) :
    D.object (.record typeName (fields.map fun (name, data) => (name, .raw data))) := by
  intro name held found
  obtain ⟨field, inFields, same⟩ := List.mem_map.mp found
  cases same
  exact all field inFields

end Discipline

/-! ## Changes of a store -/

namespace Store.Obeys

variable (obeys : store.Obeys D holds)

include obeys

/-- Nothing but functions, objects, methods, jobs and the journal matters. -/
theorem similar {other : Store} (closures : other.closures = store.closures)
    (objects : other.objects = store.objects) (methods : other.methods = store.methods)
    (schedule : other.schedule = store.schedule) (journal : other.journal = store.journal) :
    other.Obeys D holds where
  closures := closures ▸ obeys.closures
  objects := objects ▸ obeys.objects
  methods := methods ▸ obeys.methods
  failures := schedule ▸ obeys.failures
  jobs := by
    rw [schedule, Store.jobEntries, journal]
    exact obeys.jobs

/-- Entries about other things than jobs do not matter. -/
theorem note {entry : Entry} (other : entry.origin ≠ .tasks) :
    { store with journal := store.journal.push entry }.Obeys D holds :=
  { obeys with
    jobs := by
      have same : ({ store with journal := store.journal.push entry } : Store).jobEntries =
          store.jobEntries := by
        simp [Store.jobEntries, other]
      rw [same]
      exact obeys.jobs }

theorem pushClosure {closure : Closure} (allowed : D.body closure.body) :
    { store with closures := store.closures.push closure }.Obeys D holds :=
  { obeys with
    closures := by
      intro other found
      rcases Array.mem_push.mp found with found | rfl
      · exact obeys.closures other found
      · exact allowed }

theorem pushObject {object : HostObject} (allowed : D.object object) :
    { store with objects := store.objects.push object }.Obeys D holds :=
  { obeys with
    objects := by
      intro other found
      rcases Array.mem_push.mp found with found | rfl
      · exact obeys.objects other found
      · exact allowed }

theorem setField (id : ObjectId) (name : String) (value : Value) :
    { store with objects := store.objects.modify id (·.withField name value) }.Obeys D holds :=
  { obeys with
    objects := by
      intro object found
      obtain ⟨index, found⟩ := Array.mem_iff_getElem?.mp found
      rw [Array.getElem?_modify] at found
      split at found
      · obtain ⟨old, present, rfl⟩ := Option.map_eq_some_iff.mp found
        exact D.object_withField (obeys.objects old (Array.mem_of_getElem? present)) name value
      · exact obeys.objects object (Array.mem_of_getElem? found) }

/-- Only what is done to the jobs and to the entries about them matters. -/
theorem reschedule {schedule : Schedule} {entries : List Entry} {journal : Array Entry}
    {next : Schedule → List Entry → Prop} (jobs : next schedule entries)
    (recorded : journal.toList.filter (fun entry => entry.origin = .tasks) = entries)
    (failures : ∀ job ∈ schedule.jobs, ∀ fault, job.state = .failed fault → D.recorded fault) :
    { store with schedule := schedule, journal := journal }.Obeys D next where
  closures := obeys.closures
  objects := obeys.objects
  methods := obeys.methods
  failures := failures
  jobs := by
    subst recorded
    exact jobs

end Store.Obeys

/-! ## Operations on a store -/

/-- The operation keeps every store as the discipline and the agenda demand it; its result and its
faults are as described. -/
def Steady (D : Discipline) (A : Agenda) (fault : Fault → Prop) (result : α → Prop)
    (operation : StoreM α) : Prop :=
  ∀ store, Keeps (Store.Obeys D A.holds) fault result operation store

namespace Steady

variable {fault : Fault → Prop} {result : α → Prop} {outcome : β → Prop}

theorem pure {value : α} (described : result value) : Steady D A fault result (pure value) :=
  fun _ => .pure described

theorem throw {failure : Fault} (described : fault failure) :
    Steady D A fault result (throw failure) :=
  fun _ => .throw described

theorem ofExcept {answer : Except Fault α} (good : ∀ value, answer = .ok value → result value)
    (bad : Fails fault answer) : Steady D A fault result (ofExcept answer) :=
  fun _ => .ofExcept good bad

theorem modify {change : Store → Store}
    (kept : ∀ store, store.Obeys D A.holds → (change store).Obeys D A.holds) :
    Steady D A fault (fun _ => True) (modify change) :=
  fun store => .modify (kept store)

theorem bind {first : StoreM α} {next : α → StoreM β} (before : Steady D A fault result first)
    (after : ∀ value, result value → Steady D A fault outcome (next value)) :
    Steady D A fault outcome (first >>= next) :=
  fun store => .bind (before store) fun value middle _ described => after value described middle

/-- What an operation does after looking at the store. -/
theorem looking {next : Store → StoreM β}
    (after : ∀ store, store.Obeys D A.holds → Steady D A fault outcome (next store)) :
    Steady D A fault outcome (get >>= next) :=
  fun store => .looking (.assuming fun obeys => after store obeys store)

/-- What an operation does after a check that may fail. -/
theorem checking {answer : Except Fault α} {next : α → StoreM β} (bad : Fails fault answer)
    (after : ∀ value, answer = .ok value → Steady D A fault outcome (next value)) :
    Steady D A fault outcome (MonadExcept.ofExcept answer >>= next) :=
  fun store => .checking bad fun value good => after value good store

theorem choosing {condition : Prop} [Decidable condition] {first second : StoreM α}
    (yes : Steady D A fault result first) (no : Steady D A fault result second) :
    Steady D A fault result (if condition then first else second) :=
  fun store => .choosing (fun _ => yes store) fun _ => no store

theorem foldlM {step : β → α → StoreM β}
    (each : ∀ value item, Steady D A fault (fun _ => True) (step value item)) (items : List α)
    (start : β) : Steady D A fault (fun _ => True) (items.foldlM step start) :=
  fun store => .foldlM each items start store

/-- Nothing needs to be known of the result. -/
theorem any {operation : StoreM α} (steady : Steady D A fault result operation) :
    Steady D A fault (fun _ => True) operation :=
  fun store => (steady store).weaken (fun _ => id) fun _ _ => trivial

/-- Whatever fails as code may fail also fails as host functions may. -/
theorem weaken {operation : StoreM α} (steady : Steady D A D.fault result operation) :
    Steady D A D.failure result operation :=
  fun store => (steady store).weaken (fun _ => D.weaken) fun _ described => described

end Steady

end Scriptlet
