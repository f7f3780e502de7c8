import Scriptlet.Proofs.Activity.Steps

/-!
# Marks of `new` statements

A machine marks the `new` statements that have bound the name of their class.  Of all that
activities do themselves, only the last step of such a statement makes a mark.
-/

namespace Scriptlet

/-! ## Steps without marks -/

/-- The steps mark no statement. -/
structure Markless {α : Type} (steps : MachineM α) : Prop where
  constructed : ∀ machine, (endState (steps machine)).constructed = machine.constructed

namespace Markless

variable {α β : Type}

theorem pure (value : α) : Markless (pure value) :=
  ⟨fun _ => rfl⟩

theorem throw (fault : Fault) : Markless (throw fault : MachineM α) :=
  ⟨fun _ => rfl⟩

theorem get : Markless (get : MachineM Machine) :=
  ⟨fun _ => rfl⟩

theorem ofExcept (answer : Except Fault α) : Markless (ofExcept answer : MachineM α) :=
  ⟨fun _ => by cases answer <;> rfl⟩

theorem asking (question : Store → Except Fault α) : Markless (Machine.askStore question) := by
  refine ⟨fun machine => ?_⟩
  unfold Machine.askStore
  split <;> rfl

theorem onStore (operation : StoreM α) : Markless (Machine.onStore operation) := by
  refine ⟨fun machine => ?_⟩
  unfold Machine.onStore
  dsimp only
  split <;> rfl

theorem isTruthy (value : Value) : Markless (Machine.isTruthy value) :=
  ⟨fun _ => rfl⟩

theorem define (scope : ScopeId) (name : String) (value : Value) :
    Markless (Machine.define scope name value) :=
  ⟨fun _ => rfl⟩

theorem assign (scope : ScopeId) (name : String) (value : Value) :
    Markless (Machine.assign scope name value) :=
  ⟨fun _ => rfl⟩

theorem openScope (name : String) (parent : ScopeId) (bindings : Assoc Value) :
    Markless (Machine.openScope name parent bindings) :=
  ⟨fun _ => rfl⟩

theorem changeRunner (runner : RunnerId) (change : Runner → Runner) :
    Markless (Machine.changeRunner runner change) :=
  ⟨fun _ => rfl⟩

theorem bind {first : MachineM α} {next : α → MachineM β} (before : Markless first)
    (after : ∀ value, Markless (next value)) : Markless (first >>= next) := by
  refine ⟨fun machine => ?_⟩
  have begun := before.constructed machine
  change (endState (EStateM.bind first next machine)).constructed = _
  unfold EStateM.bind
  cases run : first machine with
  | ok value middle =>
      rw [run] at begun
      exact ((after value).constructed middle).trans begun
  | error fault middle =>
      rw [run] at begun
      exact begun

theorem choosing {condition : Prop} [Decidable condition] {first second : MachineM α}
    (yes : Markless first) (no : Markless second) :
    Markless (if condition then first else second) := by
  split
  · exact yes
  · exact no

theorem mapFault {change : Fault → MachineM Fault} {steps : MachineM α} (before : Markless steps)
    (after : ∀ fault, Markless (change fault)) : Markless (Machine.mapFault change steps) := by
  refine ⟨fun machine => ?_⟩
  have begun := before.constructed machine
  unfold Machine.mapFault
  cases run : steps machine with
  | ok value middle =>
      rw [run] at begun
      exact begun
  | error fault middle =>
      rw [run] at begun
      have changed := ((after fault).constructed middle).trans begun
      dsimp only
      cases handled : change fault middle <;>
        · rw [handled] at changed
          exact changed

end Markless

theorem lookupName_markless (room : Nat) (start : ScopeId) (levels : Nat) (name : String) :
    Markless (lookupName room start levels name) := by
  induction levels generalizing name with
  | zero => exact .throw _
  | succ levels ih =>
      refine .bind .get fun machine => ?_
      split
      · exact .pure _
      · split
        · exact .bind (ih _) fun _ => .asking _
        · split
          · exact .bind (ih _) fun _ => .onStore _
          · exact .throw _

theorem resolve_markless (room : Nat) (scope : ScopeId) (name : String) :
    Markless (resolve room scope name) :=
  lookupName_markless room scope 3 name

theorem checkConstructible_markless (room : Nat) (className : String) (callee : Value) :
    Markless (checkConstructible room className callee) :=
  .bind .get fun _ => .choosing (.pure ()) (.bind (.asking _) fun _ => .throw _)

theorem refuseCall_markless {α : Type} (room : Nat) (callee : Value) :
    Markless (refuseCall room callee : MachineM α) :=
  .bind (.asking _) fun _ => .throw _

theorem checkModulePath_markless (value : Value) : Markless (checkModulePath value) := by
  cases value <;> exact ⟨fun _ => rfl⟩

theorem loadModule_markless (room : Nat) (runner : RunnerId) (path : String) :
    Markless (loadModule room runner path) := by
  refine ⟨fun machine => ?_⟩
  rw [loadModule_run]
  dsimp only
  split
  · rfl
  · split
    · rfl
    · split <;> rfl

theorem callingHost_markless {α : Type} (name : String) {steps : MachineM α}
    (before : Markless steps) : Markless (callingHost name steps) :=
  .mapFault before fun _ => .pure _

theorem locateFault_markless (runner : RunnerId) (span : Span) (fault : Fault) :
    Markless (locateFault runner span fault) := by
  refine ⟨fun machine => ?_⟩
  obtain ⟨located, store, run⟩ := locateFault_store runner span fault machine
  rw [run]
  rfl

theorem handle_markless (activity : Activity) (fault : Fault) :
    Markless (activity.handle fault) := by
  cases activity with
  | evaluate | execute => exact locateFault_markless ..
  | activate => exact .bind (.changeRunner _ _) fun _ => .pure _
  | runBody =>
      cases fault with
      | exhausted => exact .bind .get fun _ => .pure _
      | _ => exact .pure _
  | _ => exact .pure _

@[simp]
theorem Activity.enter_constructed (activity : Activity) (machine : Machine) :
    (activity.enter machine).constructed = machine.constructed := by
  cases activity <;> rfl

@[simp]
theorem Activity.leave_constructed (activity : Activity) (machine : Machine) :
    (activity.leave machine).constructed = machine.constructed := by
  cases activity <;> rfl

/-! ## Plans without marks -/

/-- All own steps of a plan mark no statement. -/
def Plan.Markless {α : Type} (plan : Plan α) : Prop :=
  plan.Each Scriptlet.Markless fun _ => True

namespace Activity

/-- Whether an activity executes a `new` statement. -/
def isConstruction : Activity → Bool
  | .execute _ _ (.construct ..) => true
  | _ => false

section Forms

variable {α β : Type}

theorem markless_last {steps : MachineM α} (markless : Markless steps) :
    (Plan.last steps).Markless :=
  markless

theorem markless_own {steps : MachineM β} (markless : Markless steps) {next : β → Plan α}
    (after : ∀ value, (next value).Markless) : (Plan.own steps next).Markless :=
  ⟨markless, after⟩

theorem markless_part {activity : Activity} {next : activity.Result → Plan α}
    (after : ∀ value, (next value).Markless) : (Plan.part activity next).Markless :=
  ⟨trivial, after⟩

theorem markless_pass (activity : Activity) : (pass activity).Markless :=
  markless_part fun _ => markless_last (.pure _)

theorem markless_evaluateAll (context : Context) (room : Nat) (expressions : List Expr)
    {next : List Value → Plan α} (after : ∀ values, (next values).Markless) :
    (Plan.evaluateAll context room expressions next).Markless :=
  .evaluateAll (fun _ => trivial) expressions after

theorem markless_executeAll (context : Context) (room : Nat) {next : Completion → Plan α}
    (after : ∀ completion, (next completion).Markless) (statements : List Stmt) (before : Value) :
    (Plan.executeAll context room next statements before).Markless :=
  .executeAll (fun _ => trivial) after statements before

theorem markless_executeWhile (context : Context) (room : Nat) (condition : Expr) (body : Stmt)
    (bound : Nat) : (Plan.executeWhile context room condition body bound).Markless := by
  induction bound with
  | zero => exact markless_last (.throw _)
  | succ bound ih =>
      refine markless_part fun value => markless_own (.isTruthy value) fun holds => ?_
      split
      · refine markless_part fun completion => ?_
        cases completion with
        | normal | proceed => exact ih
        | leave | result => exact markless_last (.pure _)
      · exact markless_last (.pure _)

theorem markless_evaluate (context : Context) (room : Nat) (expression : Expr) :
    (planEvaluate context room expression).Markless := by
  match room with
  | 0 | 1 | 2 | 3 | 4 => exact markless_last (.throw _)
  | room + 5 =>
      cases expression with
      | number | text | bool => exact markless_last (.pure _)
      | name => exact markless_last (resolve_markless ..)
      | binary span left operator right =>
          refine markless_part fun first => ?_
          split
          · exact markless_part fun second => markless_last (.onStore _)
          · refine markless_own (.isTruthy first) fun truth => ?_
            split
            · exact markless_last (.pure _)
            · exact markless_part fun second =>
                markless_own (.isTruthy second) fun _ => markless_last (.pure _)
      | unary span operator operand =>
          refine markless_part fun value => ?_
          cases operator with
          | negate => exact markless_last (.ofExcept _)
          | not => exact markless_own (.isTruthy value) fun _ => markless_last (.pure _)
      | assign span target value =>
          cases target with
          | name place id =>
              exact markless_part fun value =>
                markless_own (.assign _ id value) fun _ => markless_last (.pure _)
          | member place object field =>
              exact markless_part fun receiver => markless_part fun value =>
                markless_own (.onStore _) fun _ => markless_last (.pure _)
      | call span callee arguments =>
          cases callee with
          | member place object field =>
              refine markless_part fun receiver => markless_own (.onStore _) fun callee => ?_
              refine markless_evaluateAll _ _ arguments fun values => ?_
              cases callee with
              | value callee => exact markless_pass _
              | method method => exact markless_last (callingHost_markless _ (.onStore _))
          | _ =>
              exact markless_part fun callee =>
                markless_evaluateAll _ _ arguments fun values => markless_pass _
      | member span object field => exact markless_part fun receiver => markless_last (.onStore _)
      | index span object index =>
          exact markless_part fun receiver => markless_part fun place => markless_last (.onStore _)
      | array span elements =>
          exact markless_evaluateAll _ _ elements fun items => markless_last (.onStore _)
      | function => exact markless_last (.onStore _)
      | load span path =>
          refine markless_part fun value => ?_
          refine markless_own (checkModulePath_markless value) fun path => ?_
          exact markless_own (loadModule_markless ..) fun loaded => markless_last (.onStore _)
      | construct => exact markless_pass _

theorem markless_construct (context : Context) (room : Nat) (className : String)
    (arguments : List Expr) : (planConstruct context room className arguments).Markless := by
  match room with
  | 0 | 1 => exact markless_last (.throw _)
  | room + 2 =>
      refine markless_own (resolve_markless ..) fun callee => ?_
      refine markless_own (checkConstructible_markless ..) fun _ => ?_
      exact markless_evaluateAll _ _ arguments fun values => markless_pass _

theorem markless_execute (context : Context) (room : Nat) {statement : Stmt}
    (other : isConstruction (.execute context room statement) = false) :
    (planExecute context room statement).Markless := by
  match room with
  | 0 | 1 | 2 | 3 | 4 => exact markless_last (.throw _)
  | room + 5 =>
      cases statement with
      | declare span id initial =>
          cases initial with
          | none => exact markless_own (.define ..) fun _ => markless_last (.pure _)
          | some initial =>
              exact markless_part fun value =>
                markless_own (.define ..) fun _ => markless_last (.pure _)
      | expression => exact markless_part fun _ => markless_last (.pure _)
      | block span statements =>
          refine markless_own (.openScope ..) fun scope => ?_
          exact markless_executeAll _ _ (fun _ => markless_last (.pure _)) statements .absent
      | conditional span condition consequent alternate =>
          refine markless_part fun value => markless_own (.isTruthy value) fun truth => ?_
          split
          · exact markless_pass _
          · cases alternate with
            | none => exact markless_last (.pure _)
            | some alternate => exact markless_pass _
      | loop span condition body => exact markless_executeWhile ..
      | function span name params body =>
          refine markless_own (.onStore _) fun closure => ?_
          cases name with
          | none => exact markless_last (.pure _)
          | some id => exact markless_own (.define ..) fun _ => markless_last (.pure _)
      | result span value =>
          cases value with
          | none => exact markless_last (.pure _)
          | some value => exact markless_part fun _ => markless_last (.pure _)
      | leave | proceed => exact markless_last (.pure _)
      | construct => cases other
      | load span path =>
          refine markless_part fun value => ?_
          refine markless_own (checkModulePath_markless value) fun path => ?_
          refine markless_own (loadModule_markless ..) fun loaded => ?_
          exact markless_executeAll _ _ (fun _ => markless_last (.pure _)) _ .absent

theorem markless_callValue (runner : RunnerId) (room : Nat) (callee : Value)
    (arguments : List Value) : (planCallValue runner room callee arguments).Markless := by
  match room with
  | 0 | 1 => exact markless_last (.throw _)
  | room + 2 =>
      cases callee with
      | closure id => exact markless_pass _
      | host id =>
          refine markless_own .get fun machine => ?_
          split
          · exact markless_pass _
          · exact markless_last (refuseCall_markless ..)
      | _ => exact markless_last (refuseCall_markless ..)

theorem markless_callClosure (runner : RunnerId) (room : Nat) (id : ClosureId)
    (arguments : List Value) : (planCallClosure runner room id arguments).Markless := by
  match room with
  | 0 => exact markless_last (.throw _)
  | room + 1 =>
      refine markless_own .get fun machine => ?_
      unfold planCalled
      split
      · split
        · exact markless_last (.throw _)
        · exact markless_own (.openScope ..) fun scope =>
            markless_part fun _ => markless_last (.pure _)
      · exact markless_last (refuseCall_markless ..)

theorem markless_runRounds (room : Nat) {next : Plan α} (after : next.Markless) (count : Nat) :
    (Plan.runRounds room next count).Markless :=
  .runRounds trivial after count

theorem markless_control (room : Nat) (operation : Control) (arguments : List Value) :
    (planPerform (room + 1) (.control operation) arguments).Markless := by
  cases operation with
  | join =>
      refine markless_own (.ofExcept _) fun _ => markless_own (.asking _) fun number => ?_
      refine markless_own .get fun machine => ?_
      split
      · exact markless_last (.throw _)
      · split
        · exact markless_last (.throw _)
        · split
          · exact markless_last (.throw _)
          · refine markless_own (.onStore _) fun _ => markless_runRounds _ (markless_last ?_) _
            refine .bind .get fun machine => ?_
            split
            · unfold resultOf
              split
              · exact .pure _
              · exact .throw _
              · exact .throw _
            · exact .throw _
  | sleep =>
      refine markless_own (.ofExcept _) fun _ => ?_
      dsimp only
      split
      · refine markless_own .get fun machine => ?_
        split
        · exact markless_own (.onStore _) fun _ => markless_last (.pure _)
        · refine markless_own (.onStore _) fun _ => ?_
          split
          · refine .drain .get trivial ?_ drainBound
            exact markless_own (.onStore _) fun _ => markless_last (.pure _)
          · exact markless_runRounds _ (markless_last (.pure _)) 3
      · exact markless_last (.throw _)
  | yield =>
      refine markless_own (.ofExcept _) fun _ => markless_own .get fun machine => ?_
      split
      · exact markless_own (.onStore _) fun _ =>
          markless_runRounds _ (markless_last (.pure _)) 3
      · exact markless_last (.pure _)
  | apply =>
      refine markless_own (.asking _) fun data => markless_own (.ofExcept _) fun _ => ?_
      split
      · refine markless_own (.onStore _) fun values => markless_part fun result => ?_
        exact markless_own (.asking _) fun data => markless_last (.onStore _)
      · exact markless_own .get fun _ => markless_last (.throw _)
  | runModule => exact markless_pass _

theorem markless_perform (room : Nat) (action : Action) (arguments : List Value) :
    (planPerform room action arguments).Markless := by
  match room with
  | 0 => cases action <;> exact markless_last (.throw _)
  | room + 1 =>
      cases action with
      | native operation => exact markless_last (.onStore _)
      | control operation => exact markless_control room operation arguments

theorem markless_runModule (room : Nat) (body : List Stmt) (unit : UnitId) (runner : RunnerId)
    (arguments : List Value) : (planRunModule room body unit runner arguments).Markless := by
  match room with
  | 0 | 1 | 2 => exact markless_last (.throw _)
  | room + 3 =>
      refine markless_own (.ofExcept _) fun _ => markless_own .get fun machine => ?_
      exact markless_own (.openScope ..) fun scope => markless_part fun _ => markless_last (.pure _)

theorem markless_callBack (room : Nat) (id : ClosureId) (arguments : List Value) :
    (planCallBack room id arguments).Markless := by
  match room with
  | 0 => exact markless_last (.throw _)
  | room + 1 =>
      refine markless_own .get fun machine => ?_
      split
      · exact markless_pass _
      · exact markless_last (refuseCall_markless ..)

theorem markless_callJob (room : Nat) (job : Job) : (planCallJob room job).Markless := by
  match room with
  | 0 => exact markless_last (.throw _)
  | room + 1 =>
      unfold planCallJob
      dsimp only
      split
      · exact markless_pass _
      · refine markless_own .get fun machine => ?_
        split
        · exact markless_pass _
        · exact markless_last (.throw _)
      · exact markless_last (.throw _)

theorem markless_giveTurn (room number : Nat) : (planGiveTurn room number).Markless := by
  refine markless_own .get fun machine => ?_
  split
  · exact markless_last (.pure _)
  · split
    · exact markless_last (.onStore _)
    · refine markless_own (.onStore _) fun _ => ⟨⟨rfl, trivial⟩, fun outcome => ?_⟩
      exact markless_last (.bind (.onStore _) fun _ => .onStore _)
    · exact markless_last (.pure _)

end Forms

/-- Only the execution of a `new` statement marks a statement itself. -/
theorem plan_markless (activity : Activity) (other : activity.isConstruction = false) :
    activity.plan.Markless := by
  cases activity with
  | evaluate => exact markless_evaluate ..
  | construct => exact markless_construct ..
  | execute => exact markless_execute _ _ other
  | callValue => exact markless_callValue ..
  | callHost => exact markless_pass _
  | callClosure => exact markless_callClosure ..
  | activate | runBody => exact markless_executeAll _ _ (fun _ => markless_last (.pure _)) _ .absent
  | perform => exact markless_perform ..
  | runModule => exact markless_runModule ..
  | callBack => exact markless_callBack ..
  | runRound =>
      refine markless_own (.onStore _) fun numbers => ?_
      exact .giveTurns (.pure _) (fun _ => trivial) numbers
  | giveTurn => exact markless_giveTurn ..
  | callJob => exact markless_callJob ..

end Activity

end Scriptlet
