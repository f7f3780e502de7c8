import Scriptlet.Proofs.Activity.Forms

/-!
# Occurrences

An activity occurs at the machine at which it begins.  It occurs inside the activities whose plans
have led to it, which are on the stack at that time.
-/

namespace Scriptlet

/-- To locate a fault is at most to note in the store how a job has failed. -/
theorem locateFault_store (runner : RunnerId) (span : Span) (fault : Fault) (machine : Machine) :
    ∃ located store,
      locateFault runner span fault machine = .ok located { machine with store := store } := by
  cases fault with
  | script e =>
      unfold locateFault
      dsimp only
      cases e.span with
      | some => exact ⟨_, _, rfl⟩
      | none => cases e.task <;> exact ⟨_, _, rfl⟩
  | _ => exact ⟨_, _, rfl⟩

namespace Activity

/-- The room that an activity has, with a little more for those that hand all of it on. -/
def weight : Activity → Nat
  | .evaluate _ room _ | .construct _ room _ _ | .execute _ room _ | .callValue _ room _ _
  | .callClosure _ room _ _ | .perform room _ _ | .runModule room _ _ _ _ | .callBack room _ _
  | .callJob _ room _ => 3 * room
  | .callHost _ room _ _ | .activate _ room _ | .runBody _ room _ | .giveTurn room _ => 3 * room + 1
  | .runRound room => 3 * room + 2

/-- The machine at which the plan of an activity is begun. -/
def enter : Activity → Machine → Machine
  | .activate context _ _, machine => endState (countIn context.runner machine)
  | _, machine => machine

/-- The machine after an activity whose plan has succeeded. -/
def leave : Activity → Machine → Machine
  | .activate context _ _, machine => endState (countOut context.runner machine)
  | _, machine => machine

/-- What becomes of the fault with which the plan of an activity has ended. -/
def handle : Activity → Fault → MachineM Fault
  | .evaluate context _ expression => locateFault context.runner expression.span
  | .execute context _ statement => locateFault context.runner statement.span
  | .callHost name _ _ _ => fun fault => return reportFailure name fault
  | .activate context _ _ => fun fault => do
      countOut context.runner
      return fault
  | .runBody .. => fun
      | .exhausted => do return .ofCause (.tooDeep (← get).depthLimit)
      | fault => return fault
  | _ => fun fault => return fault

/-- Handling a fault does not fail. -/
theorem handle_ok (activity : Activity) (fault : Fault) (machine : Machine) :
    ∃ handled after, activity.handle fault machine = .ok handled after := by
  cases activity with
  | evaluate | execute =>
      obtain ⟨located, store, run⟩ := locateFault_store _ _ fault machine
      exact ⟨located, _, run⟩
  | runBody => cases fault <;> exact ⟨_, _, rfl⟩
  | _ => exact ⟨_, _, rfl⟩

theorem countIn_ok (context : Context) (room : Nat) (body : List Stmt) (machine : Machine) :
    countIn context.runner machine = .ok () ((activate context room body).enter machine) :=
  rfl

variable {activity : Activity} {machine middle : Machine}

theorem steps_of_ok {value : activity.Result}
    (run : activity.plan.run (activity.enter machine) = .ok value middle) :
    activity.steps machine = .ok value (activity.leave middle) := by
  rw [steps_eq]
  cases activity with
  | evaluate | execute | runBody => exact mapFault_ok_iff.mpr run
  | callHost name room action arguments =>
      exact (mapFault_ok_iff : callingHost name _ machine = .ok value middle ↔ _).mpr run
  | activate context room body =>
      rw [frame, bind_of_ok (countIn_ok context room body machine)]
      unfold Machine.andFinally
      rw [run]
      rfl
  | _ => exact run

theorem steps_of_error {fault handled : Fault} {after : Machine}
    (run : activity.plan.run (activity.enter machine) = .error fault middle)
    (handling : activity.handle fault middle = .ok handled after) :
    activity.steps machine = .error handled after := by
  have mapped {α : Type} {change : Fault → MachineM Fault} {steps : MachineM α}
      (run : steps machine = .error fault middle)
      (changed : change fault middle = .ok handled after) :
      Machine.mapFault change steps machine = .error handled after := by
    unfold Machine.mapFault
    rw [run]
    dsimp only
    rw [changed]
  rw [steps_eq]
  cases activity with
  | evaluate | execute | callHost | runBody => exact mapped run handling
  | activate context room body =>
      cases handling
      rw [frame, bind_of_ok (countIn_ok context room body machine)]
      unfold Machine.andFinally
      rw [run]
      rfl
  | _ =>
      cases handling
      exact run

end Activity

/-! ## Occurrences inside occurrences -/

/-- An activity that begins at a machine. -/
structure Occurrence where
  activity : Activity
  machine : Machine

namespace Occurrence

/-- How the activity ends. -/
def outcome (occurrence : Occurrence) : EStateM.Result Fault Machine occurrence.activity.Result :=
  occurrence.activity.steps occurrence.machine

/-- The machine at which the activity has ended. -/
def last (occurrence : Occurrence) : Machine :=
  endState occurrence.outcome

/-- The activity has come to what remains of its plan. -/
def At (occurrence : Occurrence) (rest : Plan occurrence.activity.Result) (machine : Machine) :
    Prop :=
  Plan.Leads (occurrence.activity.plan, occurrence.activity.enter occurrence.machine)
    (rest, machine)

/-- An activity begins a part of it, whose failure ends it. -/
def Enters (outer inner : Occurrence) : Prop :=
  ∃ next, outer.At (.part inner.activity next) inner.machine

/-- An activity begins a part of it that may fail. -/
def Attempts (outer inner : Occurrence) : Prop :=
  ∃ next, outer.At (.attempt inner.activity next) inner.machine

def Holds (outer inner : Occurrence) : Prop :=
  outer.Enters inner ∨ outer.Attempts inner

/-- An activity is carried out as a part of another one, at any depth. -/
def Inside : Occurrence → Occurrence → Prop :=
  Relation.ReflTransGen Holds

/-- What an activity passes through, from the one machine to the other one. -/
inductive Passes (root : Occurrence) : Machine → Machine → Prop
  | enter {occurrence : Occurrence} (inside : root.Inside occurrence) :
      Passes root occurrence.machine (occurrence.activity.enter occurrence.machine)
  | follow {occurrence : Occurrence} (inside : root.Inside occurrence)
      {before after : Plan occurrence.activity.Result × Machine}
      (reached : occurrence.At before.1 before.2)
      (leads : Plan.Leads before after) : Passes root before.2 after.2
  | leave {occurrence : Occurrence} (inside : root.Inside occurrence)
      {rest : Plan occurrence.activity.Result}
      {machine : Machine} (reached : occurrence.At rest machine) :
      Passes root machine occurrence.last
  | trans {first second third : Machine} (before : Passes root first second)
      (after : Passes root second third) : Passes root first third

/-- What remains of the plan decides how the activity ends. -/
theorem At.run_eq {occurrence : Occurrence} {rest : Plan occurrence.activity.Result}
    {machine : Machine} (reached : occurrence.At rest machine) :
    occurrence.activity.plan.run (occurrence.activity.enter occurrence.machine) =
      rest.run machine :=
  Plan.run_of_leads reached

end Occurrence

/-! ## Parts and own steps of a plan -/

/-- Whether an activity executes a job. -/
def Activity.isJob : Activity → Bool
  | .callJob .. => true
  | _ => false

namespace Plan

variable {α : Type}

/-- All own steps and all parts of a plan are as described; only jobs may fail. -/
def Each (own : {β : Type} → MachineM β → Prop) (part : Activity → Prop) : Plan α → Prop
  | .last steps => own steps
  | .own steps next => own steps ∧ ∀ value, (next value).Each own part
  | .part activity next => part activity ∧ ∀ value, (next value).Each own part
  | .attempt activity next =>
      (activity.isJob = true ∧ part activity) ∧ ∀ outcome, (next outcome).Each own part

namespace Each

variable {own : {β : Type} → MachineM β → Prop} {part : Activity → Prop}

theorem of_leads {before after : Plan α × Machine} (each : before.1.Each own part)
    (leads : Leads before after) : after.1.Each own part := by
  induction leads with
  | refl => exact each
  | tail _ step ih => cases step <;> exact ih.2 _

theorem evaluateAll {context : Context} {room : Nat} (parts : ∀ expression,
    part (.evaluate context room expression)) (expressions : List Expr)
    {next : List Value → Plan α} (after : ∀ values, (next values).Each own part) :
    (Plan.evaluateAll context room expressions next).Each own part := by
  induction expressions generalizing next with
  | nil => exact after []
  | cons expression rest ih =>
      exact ⟨parts expression, fun value => ih fun values => after (value :: values)⟩

theorem executeAll {context : Context} {room : Nat} (parts : ∀ statement,
    part (.execute context room statement)) {next : Completion → Plan α}
    (after : ∀ completion, (next completion).Each own part) (statements : List Stmt)
    (before : Value) : (Plan.executeAll context room next statements before).Each own part := by
  induction statements generalizing before with
  | nil => exact after _
  | cons statement rest ih =>
      refine ⟨parts statement, fun completion => ?_⟩
      cases completion with
      | normal value => exact ih value
      | result | leave | proceed => exact after _

theorem runRounds {room : Nat} (round : part (.runRound room)) {next : Plan α}
    (after : next.Each own part) (count : Nat) :
    (Plan.runRounds room next count).Each own part := by
  induction count with
  | zero => exact after
  | succ count ih => exact ⟨round, fun _ => ih⟩

theorem drain {room : Nat} (looking : own (get : MachineM Machine)) (round : part (.runRound room))
    {next : Plan α} (after : next.Each own part) (bound : Nat) :
    (Plan.drain room next bound).Each own part := by
  induction bound with
  | zero => exact after
  | succ bound ih =>
      refine ⟨looking, fun machine => ?_⟩
      dsimp only
      split
      · exact after
      · exact ⟨round, fun _ => ih⟩

theorem giveTurns {room : Nat} (done : own (pure () : MachineM Unit))
    (turn : ∀ number, part (.giveTurn room number)) (numbers : List Nat) :
    (Plan.giveTurns room numbers).Each own part := by
  induction numbers with
  | nil => exact done
  | cons number rest ih => exact ⟨turn number, fun _ => ih⟩

end Each

end Plan

end Scriptlet
