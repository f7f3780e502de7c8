import Scriptlet.Proofs.Jobs.Draining

/-!
# Handles

The number of a job is never used again, and a handle never names another job, whatever scripts
do to its fields.  Closing the schedule executes nothing, and all handles of the time before
are refused afterwards.
-/

namespace Scriptlet

/-! ## Handles -/

/-- The object is a handle of the job with the given number: its number is as it was, or a script
has put some value there. -/
def HostObject.IsHandle (number : Nat) (object : HostObject) : Prop :=
  ∃ fields, object = .record "Task" fields ∧
    (fields.get? "id" = some (.raw (.int number)) ∨ ∃ value, fields.get? "id" = some (.value value))

/-- The value is a handle of the job with the given number. -/
def Store.Handles (store : Store) (handle : Value) (number : Nat) : Prop :=
  ∃ id object, handle = .host id ∧ store.objects[id]? = some object ∧ object.IsHandle number

theorem HostObject.IsHandle.withField {number : Nat} {object : HostObject}
    (named : object.IsHandle number) (name : String) (value : Value) :
    (object.withField name value).IsHandle number := by
  obtain ⟨fields, rfl, held⟩ := named
  refine ⟨fields.put name (.value value), rfl, ?_⟩
  by_cases same : name = "id"
  · subst same
    exact .inr ⟨value, Assoc.get?_put_self ..⟩
  · rw [Assoc.get?_put_of_ne _ _ same]
    exact held

section Persistence

variable {handle : Value} {number : Nat}

theorem Store.Handles.of_objects {before after : Store} (handles : before.Handles handle number)
    (same : after.objects = before.objects) : after.Handles handle number := by
  unfold Store.Handles
  rw [same]
  exact handles

theorem Store.Handles.push {store : Store} (handles : store.Handles handle number)
    (object : HostObject) :
    { store with objects := store.objects.push object }.Handles handle number := by
  obtain ⟨id, held, rfl, found, named⟩ := handles
  refine ⟨id, held, rfl, ?_, named⟩
  have inside := (Array.getElem?_eq_some_iff.mp found).1
  change (store.objects.push object)[id]? = _
  rw [Array.getElem?_push, if_neg (Nat.ne_of_lt inside)]
  exact found

/-- No change of a store makes a handle name another job. -/
theorem Store.Change.handles {before after : Store} (change : before.Change after)
    (handles : before.Handles handle number) : after.Handles handle number := by
  cases change with
  | newObject => exact handles.push _
  | field place name value =>
      obtain ⟨id, object, rfl, found, named⟩ := handles
      by_cases same : place = id
      · subst same
        refine ⟨place, object.withField name value, rfl, ?_, named.withField name value⟩
        rw [Array.getElem?_modify, if_pos rfl, found]
        rfl
      · refine ⟨id, object, rfl, ?_, named⟩
        rw [Array.getElem?_modify, if_neg same]
        exact found
  | _ => exact handles.of_objects rfl

theorem Machine.Course.handles {kind : List Stmt → Prop} {scope : ScopeId}
    {before after : Machine} (course : before.Course kind scope after)
    (handles : before.store.Handles handle number) : after.store.Handles handle number := by
  induction course with
  | trans _ _ first second => exact second (first handles)
  | store _ _ change => exact change.handles handles
  | newObject _ _ object => exact handles.push object
  | inside _ _ _ inner => exact inner handles
  | newClosure => exact handles.of_objects rfl
  | _ => exact handles

theorem handleNumber_host {store : Store} {operation : String} {id : ObjectId}
    {fields : Assoc Field}
    (found : store.objects[id]? = some (.record "Task" fields)) {held : Field}
    (holds : fields.get? "id" = some held) :
    handleNumber store operation (.host id) = match held with
      | .raw (.int number) => .ok number
      | _ => .error (.host .wrongType
          ("int() argument must be a string, a bytes-like object or a real number, " ++
            "not 'Value'")) := by
  simp only [handleNumber, found, holds]
  cases held with
  | value => rfl
  | raw data => cases data <;> rfl

/-- A handle names its own job or none. -/
theorem Store.Handles.jobOf_eq {store : Store} (handles : store.Handles handle number)
    {operation : String} {other : Nat} (known : jobOf store operation handle = .ok other) :
    other = number ∧ store.schedule.knows number = true := by
  obtain ⟨id, _, rfl, found, fields, rfl, held⟩ := handles
  unfold jobOf at known
  rcases held with raw | ⟨value, put⟩
  · rw [handleNumber_host found raw] at known
    change (if _ then _ else _) = _ at known
    split at known
    · rename_i inside
      cases known
      exact ⟨Int.toNat_natCast number, inside.2⟩
    · cases known
  · rw [handleNumber_host found put] at known
    cases known

end Persistence

/-! ## Numbers -/

/-- No number is taken back: jobs are added only, those that are forgotten stay so, and a closed
schedule has forgotten all jobs since it was closed. -/
structure Schedule.Onward (before after : Schedule) : Prop where
  size : before.jobs.size ≤ after.jobs.size
  forgotten : before.forgotten ≤ before.jobs.size →
    before.forgotten ≤ after.forgotten ∧ after.forgotten ≤ after.jobs.size
  closed : after.isOpen = false → after.forgotten = after.jobs.size ∨
    before.isOpen = false ∧ after.jobs.size = before.jobs.size ∧ after.forgotten = before.forgotten

namespace Schedule.Onward

variable {schedule first second third : Schedule}

/-- Only the number of jobs, the forgotten ones and whether the schedule is open matter. -/
theorem of_same (size : second.jobs.size = first.jobs.size)
    (forgotten : second.forgotten = first.forgotten) (isOpen : second.isOpen = first.isOpen) :
    first.Onward second where
  size := Nat.le_of_eq size.symm
  forgotten := by
    rw [size, forgotten]
    exact fun known => ⟨Nat.le_refl _, known⟩
  closed := by
    rw [isOpen]
    exact fun closed => .inr ⟨closed, size, forgotten⟩

theorem refl (schedule : Schedule) : schedule.Onward schedule :=
  of_same rfl rfl rfl

theorem trans (before : first.Onward second) (after : second.Onward third) :
    first.Onward third where
  size := Nat.le_trans before.size after.size
  forgotten known := by
    obtain ⟨first, middle⟩ := before.forgotten known
    obtain ⟨second, last⟩ := after.forgotten middle
    exact ⟨Nat.le_trans first second, last⟩
  closed isClosed := by
    rcases after.closed isClosed with all | ⟨isClosed, size, forgotten⟩
    · exact .inl all
    · rw [size, forgotten]
      exact before.closed isClosed

theorem setState (number : Nat) (state : JobState) :
    schedule.Onward (schedule.setState number state) := by
  refine of_same (size_setState number state) ?_ ?_ <;>
    (unfold Schedule.setState; split <;> rfl)

theorem settled (number : Nat) (outcome : Except Fault Value) :
    schedule.Onward (Activity.settled number outcome schedule) := by
  unfold Activity.settled
  split
  · split
    · exact .setState number _
    · exact .refl schedule
  · exact .setState number _

/-- Opening a schedule and adding jobs to it. -/
theorem of_open (size : first.jobs.size ≤ second.jobs.size)
    (forgotten : second.forgotten = first.forgotten) (isOpen : second.isOpen = true) :
    first.Onward second where
  size := size
  forgotten known := by
    rw [forgotten]
    exact ⟨Nat.le_refl _, Nat.le_trans known size⟩
  closed isClosed := by cases isOpen.symm.trans isClosed

theorem add (function : Value) (arguments : List Value) :
    schedule.Onward (schedule.add function arguments) :=
  of_open (Nat.le_trans (Nat.le_succ _) (Nat.le_of_eq (Array.size_push ..).symm)) rfl rfl

theorem close (schedule : Schedule) : schedule.Onward schedule.close where
  size := Nat.le_of_eq (Array.size_map ..).symm
  forgotten known := ⟨known, Nat.le_of_eq (Array.size_map ..).symm⟩
  closed _ := .inl (Array.size_map ..).symm

end Schedule.Onward

/-- Whatever scripts ask for, no number is taken back. -/
def Agenda.onward (start : Schedule) : Agenda where
  holds schedule _ := start.Onward schedule
  opened onward := onward.trans (.of_open (Nat.le_refl _) rfl rfl)
  added function arguments onward := onward.trans (.add function arguments)
  requested _ _ onward := onward.trans (.setState _ _)

/-! ## Whatever is carried out -/

/-- All handles stay handles of their jobs, and no number is taken back. -/
structure Machine.Onward (before after : Machine) : Prop where
  handles : ∀ handle number, before.store.Handles handle number → after.store.Handles handle number
  schedule : before.store.schedule.Onward after.store.schedule

namespace Machine.Onward

variable {first second third machine : Machine}

theorem trans (before : first.Onward second) (after : second.Onward third) : first.Onward third :=
  ⟨fun handle number handles => after.handles handle number (before.handles handle number handles),
    before.schedule.trans after.schedule⟩

/-- Only the objects and the schedule matter. -/
theorem of_objects (objects : second.store.objects = first.store.objects)
    (schedule : first.store.schedule.Onward second.store.schedule) : first.Onward second :=
  ⟨fun _ _ handles => handles.of_objects objects, schedule⟩

theorem refl (machine : Machine) : machine.Onward machine :=
  of_objects rfl (.refl _)

end Machine.Onward

theorem Modest.onward {α : Type} {steps : MachineM α} (modest : Modest steps) (machine : Machine) :
    machine.Onward (endState (steps machine)) := by
  obtain ⟨scope, follows⟩ := modest.follows machine
  have course := follows fun _ _ => trivial
  have steady := modest.steady (.onward machine.store.schedule) machine
    (obeys_bare.mpr (Schedule.Onward.refl _))
  refine ⟨fun _ _ handles => course.handles handles, ?_⟩
  revert steady
  generalize steps machine = result
  rintro (⟨kept, -⟩ | ⟨kept, -⟩) <;> exact obeys_bare.mp kept

/-- All own steps of activities lead onward. -/
theorem Activity.Owns.onward {activity : Activity} {β : Type} {steps : MachineM β}
    (owned : activity.Owns steps) (machine : Machine) :
    machine.Onward (endState (steps machine)) := by
  cases owned with
  | modest modest => exact modest.onward machine
  | fetch room arguments number =>
      rw [fetch_endState]
      exact .refl machine
  | take => exact .of_objects rfl (.of_same rfl rfl rfl)
  | cancel room number => exact .of_objects rfl (.setState number .cancelled)
  | start room number =>
      exact .of_objects rfl (.trans (.setState number (.running false)) (.of_same rfl rfl rfl))
  | finish room number outcome =>
      have stopped : machine.store.schedule.Onward
          { machine.store.schedule with active := machine.store.schedule.active - 1 } :=
        .of_same rfl rfl rfl
      exact .of_objects rfl (stopped.trans (.settled number outcome))

/-- Only jobs that were there have been forgotten. -/
def Machine.Remembers (machine : Machine) : Prop :=
  machine.store.schedule.forgotten ≤ machine.store.schedule.jobs.size

theorem Machine.Onward.remembers {before after : Machine} (onward : before.Onward after)
    (remembers : before.Remembers) : after.Remembers :=
  (onward.schedule.forgotten remembers).2

/-- Handles stay handles of their jobs, and no number is taken back. -/
def Promise.onward : Promise where
  before _ := Machine.Remembers
  after _ _ _ := Machine.Remembers
  along := Machine.Onward
  refl := .refl
  trans := .trans

theorem handle_onward {activity : Activity} {fault handled : Fault} {machine after : Machine}
    (handling : activity.handle fault machine = .ok handled after) : machine.Onward after := by
  have located {runner : RunnerId} {span : Span}
      (located : locateFault runner span fault machine = .ok handled after) :
      machine.Onward after := by
    rcases locateFault_cases located with ⟨rfl, -⟩ | ⟨e, line, -, -, -, ⟨-, rfl⟩ | ⟨number, -, rfl⟩⟩
    · exact .refl _
    · exact .refl _
    · exact .of_objects rfl (.setState number _)
  cases activity with
  | evaluate | execute => exact located handling
  | runBody =>
      cases fault <;> cases handling <;> exact .refl _
  | _ =>
      cases handling
      exact .of_objects rfl (.refl _)

theorem enter_onward (activity : Activity) (machine : Machine) :
    machine.Onward (activity.enter machine) := by
  cases activity <;> exact .of_objects rfl (.refl _)

theorem leave_onward (activity : Activity) (machine : Machine) :
    machine.Onward (activity.leave machine) := by
  cases activity <;> exact .of_objects rfl (.refl _)

/-- Steps that lead onward meet the promise together. -/
theorem onward_meets {α : Type} {plan : Plan α} {own : {β : Type} → MachineM β → Prop}
    {part : Activity → Prop} (each : plan.Each own part)
    (steps : ∀ {β : Type} {steps : MachineM β}, own steps → ∀ machine,
      Machine.Onward machine (endState (steps machine)))
    {ending : Except Fault α → Machine → Prop}
    (ends : ∀ outcome machine, machine.Remembers → ending outcome machine) {machine : Machine}
    (remembers : machine.Remembers) : plan.Meets .onward ending machine := by
  refine Promise.meets_of_each each Machine.Remembers (fun _ _ => True) ?_ ?_ ?_ remembers
  · intro β first owned machine remembers
    have way := steps owned machine
    revert way
    cases first machine <;>
      exact fun way => ⟨way, way.remembers remembers, fun _ _ => trivial⟩
  · exact fun _ _ _ remembers => ⟨remembers, fun _ _ _ kept => ⟨kept, fun _ _ => trivial⟩⟩
  · exact fun outcome machine remembers _ => ends outcome machine remembers

theorem onward_kept : Promise.onward.Kept := by
  intro activity machine remembers
  have entered := enter_onward activity machine
  refine ⟨entered, onward_meets activity.plan_each (fun owned machine => owned.onward machine) ?_
    (entered.remembers remembers)⟩
  intro outcome machine remembers
  cases outcome with
  | ok value =>
      have left := leave_onward activity machine
      exact ⟨left, left.remembers remembers⟩
  | error fault =>
      intro handled after handling
      have way := handle_onward handling
      exact ⟨way, way.remembers remembers⟩

/-- Closing the schedule takes no number back either. -/
theorem Request.Owns.onward {β : Type} {steps : MachineM β} (owned : Request.Owns steps)
    (machine : Machine) : machine.Onward (endState (steps machine)) := by
  cases owned with
  | modest modest => exact modest.onward machine
  | newRunner => exact .of_objects rfl (.refl _)
  | read =>
      rw [Request.readProgram_endState]
      exact .refl machine
  | close =>
      obtain ⟨after, run, objects, schedule⟩ := closeSchedule_eq machine.store
      rw [onStore_of_ok run]
      refine .of_objects objects ?_
      change machine.store.schedule.Onward after.schedule
      rw [schedule]
      split
      · exact .close _
      · exact .refl _

theorem onward_served : Promise.onward.Served Machine.Remembers where
  kept := onward_kept
  meets request _ remembers :=
    onward_meets request.plan_each (fun owned machine => owned.onward machine)
      (fun _ _ remembers => remembers) remembers

/-! ## Spawning -/

theorem spawnJob_ok {arguments : List Value} {store after : Store} {handle : Value}
    (returned : spawnJob arguments store = .ok handle after) :
    ∃ function rest, arguments = function :: rest ∧
      enlist function rest store = .ok handle after := by
  cases arguments with
  | nil => cases returned
  | cons function rest =>
      refine ⟨function, rest, rfl, ?_⟩
      cases function with
      | closure | host => exact returned
      | _ => cases returned

/-- A spawn adds a job with a new number and gives a handle of it. -/
theorem enlist_ok {function : Value} {arguments : List Value} {store after : Store} {handle : Value}
    (returned : enlist function arguments store = .ok handle after) :
    after.schedule = { store.schedule with isOpen := true }.add function arguments ∧
      ∃ id fields, handle = .host id ∧ after.objects[id]? = some (.record "Task" fields) ∧
        fields.get? "id" = some (.raw (.int (store.schedule.jobs.size + 1 : Nat))) := by
  obtain ⟨opened, run, schedule, -⟩ := openSchedule_eq store
  unfold enlist at returned
  rw [bind_of_ok run] at returned
  cases returned
  have size :
      (opened.schedule.add function arguments).jobs.size = store.schedule.jobs.size + 1 := by
    rw [schedule]
    exact Array.size_push ..
  have added := congrArg (Schedule.add · function arguments) schedule
  exact ⟨added, _, _, rfl, Array.getElem?_push_size,
    congrArg (fun number : Nat => some (Field.raw (.int number))) size⟩

theorem perform_spawn {room : Nat} {arguments : List Value} {machine after : Machine}
    {handle : Value}
    (returned : perform room (.native .spawn) arguments machine = .ok handle after) :
    ∃ function rest, arguments = function :: rest ∧
      enlist function rest machine.store = .ok handle after.store := by
  match room with
  | 0 => cases returned
  | room + 1 => exact spawnJob_ok (onStore_ok returned)

/-! ## Joining and cancelling -/

/-- A cancellation acts on the job with the given number: one that has not ended is asked to end. -/
structure Machine.Cancels (machine : Machine) (number : Nat) (value : Value) (after : Machine) :
    Prop where
  target : ∃ job, machine.store.schedule.job? number = some job ∧
    value = .bool (!job.state.isDone) ∧ after.store.schedule = if job.state.isDone then
      machine.store.schedule
    else machine.store.schedule.setState number (Schedule.requestCancel job.state)
  others : ∀ other, other ≠ number →
    after.store.schedule.job? other = machine.store.schedule.job? other

/-- What a cancellation does with a handle. -/
theorem cancelJob_eq (handle : Value) (store : Store) :
    cancelJob [handle] store = (do
      let number ← ofExcept (jobOf store "cancel" handle)
      match store.schedule.job? number with
      | none => return .bool false
      | some job =>
          if job.state.isDone then return .bool false
          else
            noteJobs "task cancellation requested"
            changeSchedule fun schedule =>
              schedule.setState number (Schedule.requestCancel job.state)
            return .bool true : StoreM Value) store :=
  rfl

/-- A cancellation by a handle is refused or acts on the job of the handle. -/
theorem cancelJob_handle {store : Store} {handle : Value} {number : Nat}
    (handles : store.Handles handle number) :
    (∃ fault, cancelJob [handle] store = .error fault store) ∨
      ∃ job after, store.schedule.job? number = some job ∧
        cancelJob [handle] store = .ok (.bool (!job.state.isDone)) after ∧
        after.schedule = if job.state.isDone then store.schedule
          else store.schedule.setState number (Schedule.requestCancel job.state) := by
  rw [cancelJob_eq]
  cases known : jobOf store "cancel" handle with
  | error fault => exact .inl ⟨fault, rfl⟩
  | ok other =>
      obtain ⟨job, found⟩ := jobOf_found known
      obtain ⟨rfl, -⟩ := handles.jobOf_eq known
      refine .inr ⟨job, ?_⟩
      rw [bind_of_ok (rfl : (ofExcept (.ok other) : StoreM Nat) store = .ok other store), found]
      dsimp only
      cases job.state.isDone with
      | true => exact ⟨store, rfl, rfl, rfl⟩
      | false => exact ⟨_, rfl, rfl, rfl⟩

section Using

variable {machine : Machine} {handle : Value} {number : Nat}

theorem perform_cancel (handles : machine.store.Handles handle number) (room : Nat) :
    (∃ fault, perform room (.native .cancel) [handle] machine = .error fault machine) ∨
      ∃ value after, perform room (.native .cancel) [handle] machine = .ok value after ∧
        machine.Cancels number value after := by
  match room with
  | 0 => exact .inl ⟨.exhausted, rfl⟩
  | room + 1 =>
      rcases cancelJob_handle handles with ⟨fault, run⟩ | ⟨job, after, found, run, schedule⟩
      · exact .inl ⟨fault, onStore_of_error run⟩
      · refine .inr
          ⟨_, { machine with store := after }, onStore_of_ok run, ⟨job, found, rfl, schedule⟩, ?_⟩
        intro other different
        change after.schedule.job? other = _
        rw [schedule]
        split
        · rfl
        · rw [Schedule.job?_setState, if_neg (Ne.symm different)]

theorem perform_cancel_refused {fault : Fault}
    (refused : jobOf machine.store "cancel" handle = .error fault) (room : Nat) :
    ∃ fault, perform room (.native .cancel) [handle] machine = .error fault machine := by
  match room with
  | 0 => exact ⟨.exhausted, rfl⟩
  | room + 1 =>
      have run : cancelJob [handle] machine.store = .error fault machine.store := by
        rw [cancelJob_eq, refused]
        rfl
      exact ⟨fault, onStore_of_error run⟩

/-- A join looks for its job at first. -/
theorem perform_join_eq (room : Nat) (handle : Value) (machine : Machine) :
    perform (room + 1) (.control .join) [handle] machine =
      ((Machine.askStore fun store => jobOf store "join" handle) >>= fun number => do
        let schedule := (← get).store.schedule
        if 0 < schedule.active then throw (.ofCause (.task .joinInsideTask))
        else match schedule.job? number with
          | none => throw (.ofCause (.task (.unknown (toString number))))
          | some job =>
              if job.state.isCancelled then throw (.ofCause (.task .joinCancelled))
              else
                Machine.onStore openSchedule
                runRounds (startJob (callJob room)) (if job.state.isDone then 1 else 2)
                match (← get).store.schedule.job? number with
                | some job => resultOf job.state
                | none => throw (.ofCause (.task .joinCancelled))) machine :=
  rfl

theorem perform_join_refused {fault : Fault}
    (refused : jobOf machine.store "join" handle = .error fault)
    (room : Nat) : perform (room + 1) (.control .join) [handle] machine = .error fault machine := by
  have asked : (Machine.askStore fun store => jobOf store "join" handle) machine =
      .error fault machine := by
    unfold Machine.askStore
    dsimp only
    rw [refused]
  rw [perform_join_eq, bind_of_error asked]

theorem perform_join_forgotten {fault : Fault}
    (refused : jobOf machine.store "join" handle = .error fault) (room : Nat) :
    ∃ fault, perform room (.control .join) [handle] machine = .error fault machine := by
  cases room with
  | zero => exact ⟨.exhausted, rfl⟩
  | succ room => exact ⟨fault, perform_join_refused refused room⟩

theorem perform_join_inside {other : Nat} (known : jobOf machine.store "join" handle = .ok other)
    (inside : 0 < machine.store.schedule.active) (room : Nat) :
    perform (room + 1) (.control .join) [handle] machine =
      .error (.ofCause (.task .joinInsideTask)) machine := by
  have asked : (Machine.askStore fun store => jobOf store "join" handle) machine =
      .ok other machine := by
    unfold Machine.askStore
    dsimp only
    rw [known]
  rw [perform_join_eq, bind_of_ok asked,
    bind_of_ok (rfl : (get : MachineM Machine) machine = .ok machine machine), if_pos inside]
  rfl

/-- A join by a handle is refused or waits for the job of the handle. -/
theorem perform_join {start : Machine} (rested : start.Idle)
    (handles : machine.store.Handles handle number) {room : Nat}
    (carried : start.Carries ⟨.perform room (.control .join) [handle], machine⟩) :
    (∃ fault, perform room (.control .join) [handle] machine = .error fault machine) ∨
      (endState (perform room (.control .join) [handle] machine)).HasEnded number
        (answerOf (perform room (.control .join) [handle] machine)) := by
  match room with
  | 0 => exact .inl ⟨.exhausted, rfl⟩
  | room + 1 =>
      cases known : jobOf machine.store "join" handle with
      | error fault => exact .inl ⟨fault, perform_join_refused known room⟩
      | ok other =>
          by_cases inside : 0 < machine.store.schedule.active
          · exact .inl ⟨_, perform_join_inside known inside room⟩
          · obtain ⟨rfl, -⟩ := handles.jobOf_eq known
            have joins : start.Joins room handle other machine :=
              ⟨carried, Nat.eq_zero_of_not_pos inside, known⟩
            exact .inr (join_ends (joins.idle rested) known).2.2

/-- A handle of a job that has been forgotten is refused. -/
theorem jobOf_forgotten (handles : machine.store.Handles handle number)
    (forgotten : number ≤ machine.store.schedule.forgotten) (operation : String) :
    ∃ fault, jobOf machine.store operation handle = .error fault := by
  cases known : jobOf machine.store operation handle with
  | error fault => exact ⟨fault, rfl⟩
  | ok other =>
      have knows := (handles.jobOf_eq known).2
      simp only [Schedule.knows, Bool.and_eq_true, decide_eq_true_eq] at knows
      omega

end Using

/-! ## Closing -/

/-- How closing the schedule ends. -/
structure Machine.ClosesJobs (machine : Machine) : Prop where
  /-- Nothing is begun. -/
  idle : ∀ root, ¬ machine.Begins .close root
  /-- All known jobs that have not ended are cancelled. -/
  cancelled : ∀ number job, machine.store.schedule.knows number = true →
    machine.store.schedule.job? number = some job → job.state.isDone = false →
    (machine.serve .close).store.schedule.job? number = some { job with state := .cancelled }
  pending : (machine.serve .close).store.schedule.pending = 0
  shut : (machine.serve .close).store.schedule.isOpen = false
  /-- Closing it once more changes nothing. -/
  again : (machine.serve .close).serve .close = machine.serve .close

/-- A machine whose schedule is closed only if it has forgotten all jobs. -/
def Machine.ForgetsClosed (machine : Machine) : Prop :=
  machine.store.schedule.isOpen = false →
    machine.store.schedule.forgotten = machine.store.schedule.jobs.size

theorem pending_eq_zero {schedule : Schedule}
    (forgotten : schedule.forgotten = schedule.jobs.size) :
    schedule.pending = 0 := by
  unfold Schedule.pending
  rw [forgotten, ← Array.length_toList, List.drop_length]
  rfl

theorem serve_close (machine : Machine) :
    (machine.serve .close).store.schedule = if machine.store.schedule.isOpen then
      machine.store.schedule.close else machine.store.schedule := by
  obtain ⟨after, run, -, schedule⟩ := closeSchedule_eq machine.store
  change (endState (Machine.onStore closeSchedule machine)).store.schedule = _
  rw [onStore_of_ok run]
  exact schedule

/-- Closing a schedule that is closed changes nothing. -/
theorem serve_close_of_closed {machine : Machine}
    (isClosed : machine.store.schedule.isOpen = false) :
    machine.serve .close = machine := by
  have run : closeSchedule machine.store = .ok () machine.store := by
    unfold closeSchedule
    rw [bind_of_ok (rfl : (get : StoreM Store) machine.store = .ok machine.store machine.store),
      isClosed]
    rfl
  change endState (Machine.onStore closeSchedule machine) = machine
  rw [onStore_of_ok run]
  rfl

theorem serve_close_isOpen (machine : Machine) :
    (machine.serve .close).store.schedule.isOpen = false := by
  rw [serve_close]
  split
  · rfl
  · exact Bool.eq_false_iff.mpr ‹_›

/-- After the schedule has been closed, all jobs are forgotten. -/
theorem Machine.ForgetsClosed.serve_close {machine : Machine} (forgets : machine.ForgetsClosed) :
    (machine.serve .close).store.schedule.forgotten =
      (machine.serve .close).store.schedule.jobs.size := by
  rw [Scriptlet.serve_close]
  split
  · exact (Array.size_map ..).symm
  · exact forgets (Bool.eq_false_iff.mpr ‹_›)

theorem Machine.ForgetsClosed.closesJobs {machine : Machine} (forgets : machine.ForgetsClosed) :
    machine.ClosesJobs where
  idle root := by
    rintro ⟨next, leads⟩
    rcases leads.cases_head with same | ⟨_, step, _⟩
    · cases same
    · cases step
  cancelled number job known found undone := by
    rw [Scriptlet.serve_close]
    split
    · rw [Schedule.job?_close, found]
      refine congrArg (fun state => some { job with state := state }) ?_
      cases state : job.state <;> simp_all [JobState.isDone, Schedule.abandoned]
    · have all := forgets (Bool.eq_false_iff.mpr ‹_›)
      simp only [Schedule.knows, Bool.and_eq_true, decide_eq_true_eq] at known
      omega
  pending := pending_eq_zero forgets.serve_close
  shut := serve_close_isOpen machine
  again := serve_close_of_closed (serve_close_isOpen machine)

/-! ## Handles and their jobs -/

/-- The number of the job that is spawned next. -/
def Machine.nextNumber (machine : Machine) : Nat :=
  machine.store.schedule.jobs.size + 1

/-- A spawn is carried out and gives a handle. -/
def Machine.Spawns (start : Machine) (handle : Value) (machine after : Machine) : Prop :=
  ∃ room arguments, start.Carries ⟨.perform room (.native .spawn) arguments, machine⟩ ∧
    perform room (.native .spawn) arguments machine = .ok handle after

/-- What handles name while requests are served. -/
structure Machine.KeepsHandles (start : Machine) : Prop where
  /-- A spawn makes a new job, and its handle names this job. -/
  spawned : ∀ handle machine after, start.Spawns handle machine after →
    machine.store.schedule.job? machine.nextNumber = none ∧
    (∃ function arguments, after.store.schedule.job? machine.nextNumber =
      some ⟨function, arguments, .waiting false⟩) ∧
    ∀ operation, jobOf after.store operation handle = .ok machine.nextNumber
  /-- No number is used twice. -/
  distinct : ∀ handle machine after other second last, start.Spawns handle machine after →
    start.Spawns other second last → start.Passes after second →
    machine.nextNumber ≠ second.nextNumber
  /-- A join by the handle of a spawn is refused or gives what the spawned job has ended with. -/
  joined : ∀ handle machine after later room, start.Spawns handle machine after →
    start.Passes after later →
    start.Carries ⟨.perform room (.control .join) [handle], later⟩ →
    (∃ fault, perform room (.control .join) [handle] later = .error fault later) ∨
      (endState (perform room (.control .join) [handle] later)).HasEnded machine.nextNumber
        (answerOf (perform room (.control .join) [handle] later))
  /-- A cancellation by the handle of a spawn is refused or acts on the spawned job alone. -/
  cancelled : ∀ handle machine after later room, start.Spawns handle machine after →
    start.Passes after later →
    (∃ fault, perform room (.native .cancel) [handle] later = .error fault later) ∨
      ∃ value ended, perform room (.native .cancel) [handle] later = .ok value ended ∧
        later.Cancels machine.nextNumber value ended
  /-- Closing the schedule executes nothing and cancels what has not ended. -/
  closed : ∀ requests, (start.serveAll requests).ClosesJobs
  /-- Once the schedule has been closed, the handles of the time before are refused for good. -/
  refused : ∀ handle machine after requests later room, start.Spawns handle machine after →
    start.Passes after (start.serveAll requests) →
    start.Passes ((start.serveAll requests).serve .close) later →
    (∃ fault, perform room (.control .join) [handle] later = .error fault later) ∧
      ∃ fault, perform room (.native .cancel) [handle] later = .error fault later

/-- What a spawn leaves behind. -/
theorem Machine.Spawns.ends {start : Machine} {handle : Value} {machine after : Machine}
    (spawns : start.Spawns handle machine after) :
    (∃ function rest, after.store.schedule =
      { machine.store.schedule with isOpen := true }.add function rest) ∧
    ∃ id fields, handle = .host id ∧ after.store.objects[id]? = some (.record "Task" fields) ∧
      fields.get? "id" = some (.raw (.int machine.nextNumber)) := by
  obtain ⟨room, arguments, -, returned⟩ := spawns
  obtain ⟨function, rest, -, enlisted⟩ := perform_spawn returned
  obtain ⟨schedule, handled⟩ := enlist_ok enlisted
  exact ⟨⟨function, rest, schedule⟩, handled⟩

theorem Machine.Spawns.handles {start : Machine} {handle : Value} {machine after : Machine}
    (spawns : start.Spawns handle machine after) :
    after.store.Handles handle machine.nextNumber := by
  obtain ⟨id, fields, rfl, found, named⟩ := spawns.ends.2
  exact ⟨id, _, rfl, found, fields, rfl, .inl named⟩

theorem Machine.Spawns.size {start : Machine} {handle : Value} {machine after : Machine}
    (spawns : start.Spawns handle machine after) :
    after.store.schedule.jobs.size = machine.nextNumber := by
  obtain ⟨function, rest, schedule⟩ := spawns.ends.1
  rw [schedule]
  exact Array.size_push ..

theorem Machine.remembers_of_fresh {machine : Machine} (fresh : machine.store.schedule = {}) :
    machine.Remembers := by
  unfold Machine.Remembers
  rw [fresh]
  exact Nat.le_refl 0

/-- A machine that has begun without jobs has forgotten all jobs when its schedule is closed. -/
theorem serveAll_forgetsClosed {start : Machine} (fresh : start.store.schedule = {})
    (requests : List Request) : (start.serveAll requests).ForgetsClosed := by
  intro isClosed
  have onward := onward_served.along_serveAll (Machine.remembers_of_fresh fresh) requests
  rcases onward.schedule.closed isClosed with all | ⟨-, size, forgotten⟩
  · exact all
  · rw [size, forgotten, fresh]
    rfl

/-- Whatever is asked of a machine without jobs, and whatever scripts put into the fields of
handles: every spawn gets a number of its own, a handle names the job of its spawn or none, and
closing the schedule cancels what has not ended and makes all earlier handles useless. -/
theorem serveAll_keepsHandles (start : Machine) (fresh : start.store.schedule = {}) :
    start.KeepsHandles := by
  have rested : start.Idle := Machine.idle_of_fresh fresh
  have remembers : start.Remembers := Machine.remembers_of_fresh fresh
  have onward {first second : Machine} (passes : start.Passes first second) :
      first.Onward second := onward_served.along remembers passes
  refine ⟨?_, ?_, ?_, ?_, fun requests => (serveAll_forgetsClosed fresh requests).closesJobs, ?_⟩
  · intro handle machine after spawns
    have size := spawns.size
    obtain ⟨⟨function, rest, schedule⟩, id, fields, rfl, found, named⟩ := spawns.ends
    obtain ⟨room, arguments, carried, returned⟩ := spawns
    refine ⟨?_, ⟨function, rest, ?_⟩, fun operation => ?_⟩
    · cases present : machine.store.schedule.job? machine.nextNumber with
      | none => rfl
      | some job => exact absurd (Schedule.job?_bounds present).2 (Nat.not_succ_le_self _)
    · rw [schedule, Schedule.job?_add]
      exact if_pos rfl
    · have known : after.store.schedule.knows machine.nextNumber = true := by
        have below : machine.Remembers := onward_served.before remembers carried
        have forgotten : after.store.schedule.forgotten = machine.store.schedule.forgotten := by
          rw [schedule]
          rfl
        simp only [Schedule.knows, Bool.and_eq_true, decide_eq_true_eq]
        unfold Machine.Remembers at below
        unfold Machine.nextNumber at size ⊢
        omega
      unfold jobOf
      rw [handleNumber_host found named]
      exact if_pos ⟨Int.natCast_nonneg _, known⟩
  · intro handle machine after other second last spawns respawns passes
    have le := (onward passes).schedule.size
    rw [spawns.size] at le
    exact Nat.ne_of_lt (Nat.lt_succ_of_le le)
  · intro handle machine after later room spawns passes carried
    exact perform_join rested ((onward passes).handles _ _ spawns.handles) carried
  · intro handle machine after later room spawns passes
    exact perform_cancel ((onward passes).handles _ _ spawns.handles) room
  · intro handle machine after requests later room spawns before passes
    have closing := Request.Owns.onward .close (start.serveAll requests)
    have way := ((onward before).trans closing).trans (onward passes)
    have handles := way.handles _ _ spawns.handles
    have forgotten : machine.nextNumber ≤ later.store.schedule.forgotten := by
      have all := (serveAll_forgetsClosed fresh requests).serve_close
      calc machine.nextNumber = after.store.schedule.jobs.size := spawns.size.symm
        _ ≤ ((start.serveAll requests).serve .close).store.schedule.jobs.size :=
            ((onward before).trans closing).schedule.size
        _ = ((start.serveAll requests).serve .close).store.schedule.forgotten := all.symm
        _ ≤ later.store.schedule.forgotten :=
            ((onward passes).schedule.forgotten (Nat.le_of_eq all)).1
    obtain ⟨fault, refused⟩ := jobOf_forgotten handles forgotten "cancel"
    refine ⟨?_, perform_cancel_refused refused room⟩
    obtain ⟨fault, refused⟩ := jobOf_forgotten handles forgotten "join"
    exact perform_join_forgotten refused room

/-- A function is spawned and the schedule is closed: the handle is refused afterwards. -/
theorem serveAll_keepsHandles_closed :
    let start : Machine := .unused ((FileTree.directory []).disk "/") 1 0.0
    let spawned := start.serve (.perform 9 (.native .spawn) [.host 0])
    start.store.schedule = {} ∧ spawned.store.schedule.pending = 1 ∧
      ∃ fault, perform 9 (.control .join) [.host 2] (spawned.serve .close) =
        .error fault (spawned.serve .close) := by
  intro start spawned
  let request : Request := .perform 9 (.native .spawn) [.host 0]
  have refused (handle : Value) (after : Machine)
      (returned : perform 9 (.native .spawn) [.host 0] start = .ok handle after)
      (served : start.serve request = after) :
      ∃ fault, perform 9 (.control .join) [handle] (after.serve .close) =
        .error fault (after.serve .close) := by
    subst served
    let root : Occurrence := ⟨.perform 9 (.native .spawn) [.host 0], start⟩
    have spawns : start.Spawns handle start (start.serve request) :=
      ⟨9, [.host 0], ⟨[], request, root, ⟨_, .refl⟩, .refl⟩, returned⟩
    exact ((serveAll_keepsHandles start rfl).refused handle start _ [request] _ 9 spawns
      (.between start [request]) (.between start [request, .close])).1
  have returned : perform 9 (.native .spawn) [.host 0] start = .ok (.host 2) spawned := rfl
  exact ⟨rfl, by decide +kernel, refused _ _ returned rfl⟩

end Scriptlet
