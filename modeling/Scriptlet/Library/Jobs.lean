import Scriptlet.Library.Signature
import Scriptlet.Value.Convert

/-!
# Jobs

A function that is spawned becomes a job, which waits for its turn until the program lets the jobs
run. The script gets a handle, a record with the number of the job. Closing the schedule cancels the
jobs that have not ended and forgets all jobs; their numbers are not used again.
-/

namespace Scriptlet
namespace Schedule

/-- The job with a given number. -/
def job? (schedule : Schedule) (number : Nat) : Option Job :=
  if number = 0 then none else schedule.jobs[number - 1]?

/-- Puts a job into another stage. -/
def setState (schedule : Schedule) (number : Nat) (state : JobState) : Schedule :=
  if number = 0 then schedule
  else { schedule with
    jobs := schedule.jobs.modify (number - 1) fun job => { job with state := state } }

/-- Whether a job can be joined and cancelled. -/
def knows (schedule : Schedule) (number : Nat) : Bool :=
  schedule.forgotten < number && number ≤ schedule.jobs.size

/-- How many of the known jobs have not ended. -/
def pending (schedule : Schedule) : Nat :=
  ((schedule.jobs.toList.drop schedule.forgotten).filter fun job => !job.state.isDone).length

/-- Adds a job at the end of the queue. -/
def add (schedule : Schedule) (function : Value) (arguments : List Value) : Schedule :=
  { schedule with
    jobs := schedule.jobs.push ⟨function, arguments, .waiting false⟩
    ready := schedule.ready.push (schedule.jobs.size + 1)
    isOpen := true }

/-- The stage of a job after a request to cancel it. -/
def requestCancel : JobState → JobState
  | .waiting _ => .waiting true
  | .running _ => .running true
  | ended => ended

/-- The stage of a job after the schedule has been closed. -/
def abandoned : JobState → JobState
  | .waiting _ | .running _ => .cancelled
  | ended => ended

/-- Closes the schedule. -/
def close (schedule : Schedule) : Schedule :=
  { schedule with
    jobs := schedule.jobs.map fun job => { job with state := abandoned job.state }
    forgotten := schedule.jobs.size
    ready := #[]
    isOpen := false }

end Schedule

/-- Writes an entry about jobs to the journal. -/
def noteJobs (message : String) : StoreM Unit :=
  Store.note .debug .tasks message

/-- Changes the schedule. -/
def changeSchedule (change : Schedule → Schedule) : StoreM Unit :=
  modify fun store => { store with schedule := change store.schedule }

/-- Opens the schedule if it is closed. -/
def openSchedule : StoreM Unit := do
  if !(← get).schedule.isOpen then
    changeSchedule fun schedule => { schedule with isOpen := true }
    noteJobs "task loop opened"

/-- Closes the schedule if it is open. -/
def closeSchedule : StoreM Unit := do
  if (← get).schedule.isOpen then
    changeSchedule Schedule.close
    noteJobs "task loop closed"

/-- Spawns a function with arguments and gives a handle of the job. -/
def spawnJob : List Value → StoreM Value
  | function :: arguments => do
      match function with
      | .closure _ | .host _ =>
          openSchedule
          changeSchedule fun schedule => schedule.add function arguments
          let number := (← get).schedule.jobs.size
          noteJobs s!"task {number} spawned"
          let done ← Store.addNative "done" (.isDone number)
          let cancelled ← Store.addNative "cancelled" (.isCancelled number)
          return .host (← Data.newRecord "Task"
            [("id", .int number), ("done", .host done), ("cancelled", .host cancelled)])
      | other => throw (.ofMisuse (.taskFunction other.kind))
  | [] => throw (.ofMisuse (.taskFunction .absent))

/-- The number in the handle of a job. -/
def handleNumber (store : Store) (operation : String) (handle : Value) : Except Fault Int :=
  let refuse : Except Fault Int := .error (.ofMisuse (.taskHandle operation handle.kind))
  match handle with
  | .host id =>
      match store.objects[id]? with
      | some (.record "Task" fields) =>
          match fields.get? "id" with
          | some (.raw (.int number)) => .ok number
          | _ =>
              .error (.host .wrongType
                ("int() argument must be a string, a bytes-like object or a real number, " ++
                  "not 'Value'"))
      | _ => refuse
  | _ => refuse

/-- The job that a handle names. -/
def jobOf (store : Store) (operation : String) (handle : Value) : Except Fault Nat := do
  let number ← handleNumber store operation handle
  if 0 ≤ number ∧ store.schedule.knows number.toNat then return number.toNat
  else throw (.ofCause (.task (.unknown (toString number))))

/-- Requests that a job is cancelled; gives whether the job had not ended. -/
def cancelJob (arguments : List Value) : StoreM Value := do
  ofExcept (Signature.check ⟨"TaskScheduler.cancel", ["self"], 1, false⟩ (arguments.length + 1))
  let store ← get
  let number ← ofExcept (jobOf store "cancel" (arguments.headD .absent))
  match store.schedule.job? number with
  | none => return .bool false
  | some job =>
      if job.state.isDone then return .bool false
      else
        noteJobs "task cancellation requested"
        changeSchedule fun schedule =>
          schedule.setState number (Schedule.requestCancel job.state)
        return .bool true

/-- Asks something about the stage of a job. -/
def askJob (question : JobState → Bool) (number : Nat) : StoreM Data := do
  return .bool (((← get).schedule.job? number).any fun job => question job.state)

end Scriptlet
