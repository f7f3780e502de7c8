import Mathlib.Logic.Relation
import Scriptlet.Proofs.Machine.Course
import Scriptlet.Evaluator

/-!
# Activities and plans

Everything that is evaluated, executed or called is an activity.  A plan says what an activity
consists of: steps of its own, and further activities that are carried out as parts of it.  Where
a plan stands at a machine tells which parts have been begun.
-/

namespace Scriptlet

/-! ## Activities -/

/-- Something that is carried out with some room on the stack. -/
inductive Activity where
  | evaluate (context : Context) (room : Nat) (expression : Expr)
  | construct (context : Context) (room : Nat) (className : String) (arguments : List Expr)
  | execute (context : Context) (room : Nat) (statement : Stmt)
  | callValue (runner : RunnerId) (room : Nat) (callee : Value) (arguments : List Value)
  | callHost (name : String) (room : Nat) (action : Action) (arguments : List Value)
  | callClosure (runner : RunnerId) (room : Nat) (id : ClosureId) (arguments : List Value)
  /-- The body of a function is active. -/
  | activate (context : Context) (room : Nat) (body : List Stmt)
  | perform (room : Nat) (action : Action) (arguments : List Value)
  | runModule (room : Nat) (body : List Stmt) (unit : UnitId) (runner : RunnerId)
      (arguments : List Value)
  /-- Runs the body of a program or a module. -/
  | runBody (context : Context) (room : Nat) (body : List Stmt)
  | callBack (room : Nat) (id : ClosureId) (arguments : List Value)
  | runRound (room : Nat)
  | giveTurn (room : Nat) (number : Nat)
  | callJob (number : Nat) (room : Nat) (job : Job)

namespace Activity

/-- What an activity gives. -/
@[reducible]
def Result : Activity → Type
  | .execute .. | .activate .. | .runBody .. => Completion
  | .runRound .. | .giveTurn .. => Unit
  | _ => Value

/-- Counts a call of a function that begins. -/
def countIn (runner : RunnerId) : MachineM Unit :=
  Machine.changeRunner runner fun current => { current with depth := current.depth + 1 }

/-- Counts a call of a function that ends. -/
def countOut (runner : RunnerId) : MachineM Unit :=
  Machine.changeRunner runner fun current => { current with depth := current.depth - 1 }

/-- What it is to carry out an activity. -/
def steps : (activity : Activity) → MachineM activity.Result
  | .evaluate context room expression => Scriptlet.evaluate context room expression
  | .construct context room className arguments =>
      Scriptlet.construct context room className arguments
  | .execute context room statement => Scriptlet.execute context room statement
  | .callValue runner room callee arguments => Scriptlet.callValue runner room callee arguments
  | .callHost name room action arguments =>
      callingHost name (Scriptlet.perform room action arguments)
  | .callClosure runner room id arguments => Scriptlet.callClosure runner room id arguments
  | .activate context room body => do
      countIn context.runner
      Machine.andFinally (sequence (Scriptlet.execute context room) body .absent)
        (countOut context.runner)
  | .perform room action arguments => Scriptlet.perform room action arguments
  | .runModule room body unit runner arguments =>
      Scriptlet.runModule room body unit runner arguments
  | .runBody context room body => guarded (sequence (Scriptlet.execute context room) body .absent)
  | .callBack room id arguments => Scriptlet.callBack room id arguments
  | .runRound room => Scriptlet.runRound (startJob (Scriptlet.callJob room))
  | .giveTurn room number => startJob (Scriptlet.callJob room) number
  | .callJob _ room job => Scriptlet.callJob room job

/-- What is done around the plan of an activity: a node locates errors, the call of a host function
reports failures, the body of a function is counted while it is active, and the body of a program or
a module is guarded. -/
def frame : (activity : Activity) → MachineM activity.Result → MachineM activity.Result
  | .evaluate context _ expression, inner => locating context.runner expression.span inner
  | .execute context _ statement, inner => locating context.runner statement.span inner
  | .callHost name _ _ _, inner => callingHost name inner
  | .activate context _ _, inner => do
      countIn context.runner
      Machine.andFinally inner (countOut context.runner)
  | .runBody .., inner => guarded inner
  | _, inner => inner

end Activity

/-! ## Plans -/

/-- What an activity consists of. -/
inductive Plan (α : Type) : Type 1 where
  /-- The last steps. -/
  | last (steps : MachineM α)
  | own {β : Type} (steps : MachineM β) (next : β → Plan α)
  /-- A part, whose failure ends the activity. -/
  | part (activity : Activity) (next : activity.Result → Plan α)
  /-- A part that may fail. -/
  | attempt (activity : Activity) (next : Except Fault activity.Result → Plan α)

namespace Plan

variable {α : Type}

/-- Follows a plan. -/
def run : Plan α → MachineM α
  | .last steps => steps
  | .own steps next => steps >>= fun value => (next value).run
  | .part activity next => activity.steps >>= fun value => (next value).run
  | .attempt activity next => fun machine => match activity.steps machine with
    | .ok value machine => (next (.ok value)).run machine
    | .error fault machine => (next (.error fault)).run machine

/-- One step along a plan. -/
inductive Step : Plan α × Machine → Plan α × Machine → Prop
  | own {β : Type} {steps : MachineM β} {next : β → Plan α} {value : β} {machine after : Machine}
      (run : steps machine = .ok value after) : Step (.own steps next, machine) (next value, after)
  | part {activity : Activity} {next : activity.Result → Plan α} {value : activity.Result}
      {machine after : Machine} (run : activity.steps machine = .ok value after) :
      Step (.part activity next, machine) (next value, after)
  | returned {activity : Activity} {next : Except Fault activity.Result → Plan α}
      {value : activity.Result} {machine after : Machine}
      (run : activity.steps machine = .ok value after) :
      Step (.attempt activity next, machine) (next (.ok value), after)
  | failed {activity : Activity} {next : Except Fault activity.Result → Plan α} {fault : Fault}
      {machine after : Machine} (run : activity.steps machine = .error fault after) :
      Step (.attempt activity next, machine) (next (.error fault), after)

/-- A plan that has been begun at a machine leads to what remains of it at another one. -/
def Leads : Plan α × Machine → Plan α × Machine → Prop :=
  Relation.ReflTransGen Step

theorem run_of_step {before after : Plan α × Machine} (step : Step before after) :
    before.1.run before.2 = after.1.run after.2 := by
  cases step with
  | own run | part run => exact bind_of_ok run
  | returned run | failed run => simp only [Plan.run, run]

/-- What remains of a plan decides how it ends. -/
theorem run_of_leads {before after : Plan α × Machine} (leads : Leads before after) :
    before.1.run before.2 = after.1.run after.2 := by
  induction leads with
  | refl => rfl
  | tail _ step ih => exact ih.trans (run_of_step step)

theorem Leads.eq_of_last {steps : MachineM α} {machine : Machine} {after : Plan α × Machine}
    (leads : Leads (.last steps, machine) after) : after = (.last steps, machine) := by
  rcases leads.cases_head with same | ⟨_, step, _⟩
  · exact same.symm
  · cases step

/-- A plan that begins with own steps is still there, or its rest is followed after them. -/
theorem Leads.of_own {β : Type} {steps : MachineM β} {next : β → Plan α} {machine : Machine}
    {after : Plan α × Machine} (leads : Leads (.own steps next, machine) after) :
    after = (.own steps next, machine) ∨
      ∃ value middle, steps machine = .ok value middle ∧ Leads (next value, middle) after := by
  rcases leads.cases_head with same | ⟨_, step, leads⟩
  · exact .inl same.symm
  · cases step with
    | own run => exact .inr ⟨_, _, run, leads⟩

/-! ## Plans in turn -/

/-- Evaluates expressions in turn. -/
def evaluateAll (context : Context) (room : Nat) : List Expr → (List Value → Plan α) → Plan α
  | [], next => next []
  | expression :: rest, next =>
      .part (.evaluate context room expression) fun value =>
        evaluateAll context room rest fun values => next (value :: values)

/-- Executes statements in turn until one does not end normally. -/
def executeAll (context : Context) (room : Nat) (next : Completion → Plan α) :
    List Stmt → (before : Value) → Plan α
  | [], before => next (.normal before)
  | statement :: rest, _ =>
      .part (.execute context room statement) fun completion => match completion with
        | .normal value => executeAll context room next rest value
        | .result value => next (.result value)
        | .leave => next .leave
        | .proceed => next .proceed

/-- Executes the body of a loop while its condition holds. -/
def executeWhile (context : Context) (room : Nat) (condition : Expr) (body : Stmt) :
    (bound : Nat) → Plan Completion
  | 0 => .last (throw .unfinished)
  | bound + 1 =>
      .part (.evaluate context room condition) fun value =>
      .own (Machine.isTruthy value) fun holds =>
        if holds then
          .part (.execute context room body) fun completion => match completion with
            | .leave => .last (pure (.normal .absent))
            | .result value => .last (pure (.result value))
            | .normal _ | .proceed => executeWhile context room condition body bound
        else .last (pure (.normal .absent))

/-- Gives jobs their turns. -/
def giveTurns (room : Nat) : List Nat → Plan Unit
  | [] => .last (pure ())
  | number :: rest => .part (.giveTurn room number) fun _ => giveTurns room rest

/-- Runs a number of rounds of jobs. -/
def runRounds (room : Nat) (next : Plan α) : Nat → Plan α
  | 0 => next
  | count + 1 => .part (.runRound room) fun _ => runRounds room next count

/-- Runs rounds of jobs until no job is ready. -/
def drain (room : Nat) (next : Plan α) : (bound : Nat) → Plan α
  | 0 => next
  | bound + 1 => .own get fun machine =>
      if machine.store.schedule.ready.isEmpty then next
      else .part (.runRound room) fun _ => drain room next bound

theorem run_evaluateAll (context : Context) (room : Nat) (expressions : List Expr)
    (next : List Value → Plan α) :
    (evaluateAll context room expressions next).run =
      expressions.mapM (evaluate context room) >>= fun values => (next values).run := by
  induction expressions generalizing next with
  | nil => rfl
  | cons expression rest ih =>
      simp only [evaluateAll, run, ih, List.mapM_cons, bind_assoc, pure_bind]
      rfl

theorem run_executeAll (context : Context) (room : Nat) (next : Completion → Plan α)
    (statements : List Stmt) (before : Value) :
    (executeAll context room next statements before).run =
      sequence (execute context room) statements before >>= fun completion =>
        (next completion).run := by
  induction statements generalizing before with
  | nil => rfl
  | cons statement rest ih =>
      simp only [executeAll, run, sequence, bind_assoc]
      refine bind_congr fun completion => ?_
      cases completion with
      | normal value => exact ih value
      | result | leave | proceed => rfl

theorem run_executeWhile (context : Context) (room : Nat) (condition : Expr) (body : Stmt)
    (bound : Nat) :
    (executeWhile context room condition body bound).run =
      repeatWhile (do Machine.isTruthy (← evaluate context room condition))
        (execute context room body) bound := by
  induction bound with
  | zero => rfl
  | succ bound ih =>
      simp only [executeWhile, run, repeatWhile, bind_assoc]
      refine bind_congr fun value => bind_congr fun holds => ?_
      cases holds with
      | false => rfl
      | true =>
          refine bind_congr fun completion => ?_
          cases completion with
          | normal | proceed => exact ih
          | leave | result => rfl

theorem run_giveTurns (room : Nat) (numbers : List Nat) :
    (giveTurns room numbers).run = numbers.forM (startJob (callJob room)) := by
  induction numbers with
  | nil => rfl
  | cons number rest ih =>
      simp only [giveTurns, run, ih]
      rfl

theorem run_runRounds (room : Nat) (next : Plan α) (count : Nat) :
    (runRounds room next count).run =
      Scriptlet.runRounds (startJob (callJob room)) count >>= fun _ => next.run := by
  induction count with
  | zero => rfl
  | succ count ih =>
      simp only [runRounds, run, ih, Scriptlet.runRounds, bind_assoc]
      rfl

theorem run_drain (room : Nat) (next : Plan α) (bound : Nat) :
    (drain room next bound).run =
      Scriptlet.drain (startJob (callJob room)) bound >>= fun _ => next.run := by
  induction bound with
  | zero => rfl
  | succ bound ih =>
      simp only [drain, run, Scriptlet.drain, bind_assoc]
      refine bind_congr fun machine => ?_
      split
      · rfl
      · simp only [run, ih, bind_assoc]
        rfl

end Plan

end Scriptlet
