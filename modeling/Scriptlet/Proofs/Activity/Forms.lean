import Scriptlet.Proofs.Activity.Plan

/-!
# The plans of activities

Every activity has a plan, and to carry out the activity is to follow its plan.
-/

namespace Scriptlet

namespace Activity

/-- Takes over what a part gives. -/
def pass (activity : Activity) : Plan activity.Result :=
  .part activity fun value => .last (pure value)

def planEvaluate (context : Context) : (room : Nat) → Expr → Plan Value
  | room + 5, expression => match expression with
      | .number _ x => .last (pure (.number x))
      | .text _ text => .last (pure (.text text))
      | .bool _ truth => .last (pure (.bool truth))
      | .name _ id => .last (resolve (room + 3) context.scope id)
      | .binary _ left operator right =>
          .part (.evaluate context (room + 2) left) fun first =>
          match operator.operation? with
          | some operation =>
              .part (.evaluate context (room + 2) right) fun second =>
              .last (Machine.onStore
                (Store.operate (room + 2) operator.text operation first second))
          | none =>
              let decisive : Bool := operator = .either
              .own (Machine.isTruthy first) fun truth =>
                if truth = decisive then .last (pure (.bool decisive))
                else
                  .part (.evaluate context (room + 2) right) fun second =>
                  .own (Machine.isTruthy second) fun truth => .last (pure (.bool truth))
      | .unary _ operator operand =>
          .part (.evaluate context (room + 2) operand) fun value =>
          match operator with
          | .negate => .last (ofExcept (Store.negate value))
          | .not => .own (Machine.isTruthy value) fun truth => .last (pure (.bool !truth))
      | .assign _ (.name _ id) value =>
          .part (.evaluate context (room + 2) value) fun value =>
          .own (Machine.assign context.scope id value) fun _ => .last (pure value)
      | .assign _ (.member _ object field) value =>
          .part (.evaluate context (room + 2) object) fun receiver =>
          .part (.evaluate context (room + 2) value) fun value =>
          .own (Machine.onStore (Store.writeMember (room + 2) receiver field value)) fun _ =>
          .last (pure value)
      | .call _ (.member _ object field) arguments =>
          .part (.evaluate context (room + 2) object) fun receiver =>
          .own (Machine.onStore (Store.readMember (room + 2) receiver field)) fun callee =>
          .evaluateAll context (room + 1) arguments fun values =>
          match callee with
          | .value callee => pass (.callValue context.runner (room + 2) callee values)
          | .method method => .last
              (callingHost method.name (Machine.onStore (method.perform room receiver values)))
      | .call _ callee arguments =>
          .part (.evaluate context (room + 2) callee) fun callee =>
          .evaluateAll context (room + 1) arguments fun values =>
          pass (.callValue context.runner (room + 2) callee values)
      | .member _ object field =>
          .part (.evaluate context (room + 3) object) fun receiver =>
          .last (Machine.onStore do
            let member ← Store.readMember (room + 2) receiver field
            Store.memberValue (room + 2) receiver member)
      | .index _ object index =>
          .part (.evaluate context (room + 2) object) fun receiver =>
          .part (.evaluate context (room + 2) index) fun index =>
          .last (Machine.onStore (Store.readIndex (room + 2) receiver index))
      | .array _ elements =>
          .evaluateAll context (room + 2) elements fun items =>
          .last (Machine.onStore (Store.addArray items.toArray))
      | .function _ params body =>
          .last (Machine.onStore (Store.addClosure
            ⟨none, params, body, context.scope, context.unit, context.runner⟩))
      | .load _ path =>
          .part (.evaluate context (room + 2) path) fun value =>
          .own (checkModulePath value) fun path =>
          .own (loadModule (room + 2) context.runner path) fun (program, unit) =>
          .last (Machine.onStore (newModule path program.body unit context.runner))
      | .construct _ className arguments =>
          pass (.construct context (room + 3) className arguments)
  | _, _ => .last (throw .exhausted)

def planConstruct (context : Context) : (room : Nat) → String → List Expr → Plan Value
  | room + 2, className, arguments =>
      .own (resolve room context.scope className) fun callee =>
      .own (checkConstructible room className callee) fun _ =>
      .evaluateAll context room arguments fun values =>
      pass (.callValue context.runner (room + 1) callee values)
  | _, _, _ => .last (throw .exhausted)

def planExecute (context : Context) : (room : Nat) → Stmt → Plan Completion
  | room + 5, statement => match statement with
      | .declare _ id none =>
          .own (Machine.define context.scope id .absent) fun _ => .last (pure (.normal .absent))
      | .declare _ id (some initial) =>
          .part (.evaluate context (room + 2) initial) fun value =>
          .own (Machine.define context.scope id value) fun _ => .last (pure (.normal value))
      | .expression _ expression =>
          .part (.evaluate context (room + 3) expression) fun value => .last (pure (.normal value))
      | .block _ statements =>
          .own (Machine.openScope "block" context.scope) fun scope =>
          .executeAll { context with scope := scope } (room + 2) (fun completion =>
            .last (pure completion)) statements .absent
      | .conditional _ condition consequent alternate =>
          .part (.evaluate context (room + 2) condition) fun value =>
          .own (Machine.isTruthy value) fun truth =>
            if truth then pass (.execute context (room + 2) consequent)
            else match alternate with
              | some statement => pass (.execute context (room + 2) statement)
              | none => .last (pure (.normal .absent))
      | .loop _ condition body => .executeWhile context (room + 2) condition body loopBound
      | .function _ name params body =>
          .own (Machine.onStore (Store.addClosure
            ⟨name, params, body, context.scope, context.unit, context.runner⟩)) fun closure =>
          match name with
          | some id =>
              .own (Machine.define context.scope id closure) fun _ => .last (pure (.normal closure))
          | none => .last (pure (.normal closure))
      | .result _ none => .last (pure (.result .absent))
      | .result _ (some value) =>
          .part (.evaluate context (room + 3) value) fun value => .last (pure (.result value))
      | .leave _ => .last (pure .leave)
      | .proceed _ => .last (pure .proceed)
      | .construct span className arguments =>
          .part (.construct context (room + 2) className arguments) fun instanceValue =>
          .own (bindInstance context span className instanceValue) fun _ =>
          .last (pure (.normal instanceValue))
      | .load _ path =>
          .part (.evaluate context (room + 1) path) fun value =>
          .own (checkModulePath value) fun path =>
          .own (loadModule (room + 2) context.runner path) fun (program, unit) =>
          .executeAll { context with unit := unit } (room + 1) (fun completion =>
            .last (pure (.normal completion.value))) program.body .absent
  | _, _ => .last (throw .exhausted)

def planCallValue (runner : RunnerId) : (room : Nat) → Value → List Value → Plan Value
  | room + 2, callee, arguments => match callee with
      | .closure id => pass (.callClosure runner (room + 1) id arguments)
      | .host id => .own get fun machine =>
          match machine.store.objects[id]?.bind HostObject.callable? with
          | some (name, action) => pass (.callHost name (room + 1) action arguments)
          | none => .last (refuseCall room callee)
      | _ => .last (refuseCall room callee)
  | _, _, _ => .last (throw .exhausted)

/-- What the call of a function consists of after a look at the machine. -/
def planCalled (runner : RunnerId) (room : Nat) (id : ClosureId) (arguments : List Value)
    (machine : Machine) : Plan Value :=
  match machine.runners[runner]?, machine.store.closures[id]? with
  | some current, some closure =>
      if machine.depthLimit ≤ current.depth then
        .last (throw (.ofCause (.tooDeep machine.depthLimit)))
      else
        .own (Machine.openScope ("fn " ++ closure.name.getD "anonymous") closure.scope
          (bindArguments closure.params arguments [])) fun scope =>
        .part (.activate ⟨runner, closure.unit, scope⟩ room closure.body) fun completion =>
        .last (pure completion.returned)
  | _, _ => .last (refuseCall room (.closure id))

def planCallClosure (runner : RunnerId) : (room : Nat) → ClosureId → List Value → Plan Value
  | room + 1, id, arguments => .own get (planCalled runner room id arguments)
  | 0, _, _ => .last (throw .exhausted)

/-- The result of a job that has been waited for. -/
def fetch (number : Nat) : MachineM Value := do
  match (← get).store.schedule.job? number with
  | some job => resultOf job.state
  | none => throw (.ofCause (.task .joinCancelled))

def planJoin (room : Nat) (arguments : List Value) : Plan Value :=
  .own (ofExcept (Signature.check ⟨"TaskScheduler.join", ["self"], 1, false⟩
    (arguments.length + 1))) fun _ =>
  .own (Machine.askStore fun store => jobOf store "join" (arguments.headD .absent)) fun number =>
  .own get fun machine =>
    if 0 < machine.store.schedule.active then .last (throw (.ofCause (.task .joinInsideTask)))
    else match machine.store.schedule.job? number with
      | none => .last (throw (.ofCause (.task (.unknown (toString number)))))
      | some job =>
          if job.state.isCancelled then .last (throw (.ofCause (.task .joinCancelled)))
          else
            .own (Machine.onStore openSchedule) fun _ =>
            .runRounds room (.last (fetch number)) (if job.state.isDone then 1 else 2)

def planSleep (room : Nat) (arguments : List Value) : Plan Value :=
  .own (ofExcept (Signature.check ⟨"TaskScheduler.sleep", ["self"], 1, false⟩
    (arguments.length + 1))) fun _ =>
  match arguments.headD .absent with
  | .number x =>
      let milliseconds := if 0.0 < x then x else 0.0
      .own get fun machine =>
        if 0 < machine.store.schedule.active then
          .own (Machine.onStore (sleepInside milliseconds)) fun _ => .last (pure .absent)
        else
          .own (Machine.onStore openSchedule) fun _ =>
            if 0.0 < milliseconds then
              .drain room (.own (Machine.onStore (Store.advanceClock milliseconds)) fun _ =>
                .last (pure .absent)) drainBound
            else .runRounds room (.last (pure .absent)) 3
  | other => .last (throw (.ofMisuse (.sleepTime other.kind)))

def planYield (room : Nat) (arguments : List Value) : Plan Value :=
  .own (ofExcept (Signature.check ⟨"TaskScheduler.yield_", ["self"], 0, false⟩
    (arguments.length + 1))) fun _ =>
  .own get fun machine =>
    if machine.store.schedule.active = 0 then
      .own (Machine.onStore openSchedule) fun _ => .runRounds room (.last (pure .absent)) 3
    else .last (pure .absent)

def planApply (room : Nat) (arguments : List Value) : Plan Value :=
  .own (Machine.askStore fun store => arguments.mapM (store.unwrap room)) fun data =>
  .own (ofExcept (Signature.check ⟨"apply", ["f"], 0, true⟩ data.length)) fun _ =>
  match data with
  | .closure id :: rest =>
      .own (Machine.onStore (Data.wrapAll rest)) fun values =>
      .part (.callBack room id values) fun result =>
      .own (Machine.askStore fun store => store.unwrap room result) fun data =>
      .last (Machine.onStore data.wrap)
  | other => .own get fun machine =>
      .last (throw (.host .wrongType
        ("'" ++ hostTypeName machine.store (other.headD .null) ++ "' object is not callable")))

def planPerform : (room : Nat) → Action → List Value → Plan Value
  | room + 1, .native operation, arguments =>
      .last (Machine.onStore (operation.perform room arguments))
  | room + 1, .control operation, arguments => match operation with
      | .join => planJoin room arguments
      | .sleep => planSleep room arguments
      | .yield => planYield room arguments
      | .apply => planApply room arguments
      | .runModule body unit runner => pass (.runModule room body unit runner arguments)
  | 0, _, _ => .last (throw .exhausted)

def planRunModule : (room : Nat) → List Stmt → UnitId → RunnerId → List Value → Plan Value
  | room + 3, body, unit, runner, arguments =>
      .own (ofExcept (Signature.check ⟨"LoadedModule.__init__.<locals>.<lambda>", [], 0, false⟩
        arguments.length)) fun _ =>
      .own get fun machine =>
      .own (Machine.openScope "module"
        (machine.scopes.root (((machine.runner? runner).map Runner.globals).getD 0))) fun scope =>
      .part (.runBody ⟨runner, unit, scope⟩ room body) fun completion =>
      .last (pure completion.value)
  | _, _, _, _, _ => .last (throw .exhausted)

def planCallBack : (room : Nat) → ClosureId → List Value → Plan Value
  | room + 1, id, arguments => .own get fun machine =>
      match machine.store.closures[id]? with
      | some closure => pass (.callClosure closure.runner room id arguments)
      | none => .last (refuseCall room (.closure id))
  | 0, _, _ => .last (throw .exhausted)

def planCallJob : (room : Nat) → Job → Plan Value
  | room + 1, job => match job.function with
      | .closure id => pass (.callBack room id job.arguments)
      | .host id => .own get fun machine =>
          match machine.store.objects[id]?.bind HostObject.callable? with
          | some (_, action) => pass (.perform room action job.arguments)
          | none => .last (throw (.ofMisuse (.taskFunction .host)))
      | other => .last (throw (.ofMisuse (.taskFunction other.kind)))
  | 0, _ => .last (throw .exhausted)

/-- A job begins to be executed. -/
def beginJob (number : Nat) : MachineM Unit :=
  Machine.onStore do
    noteJobs s!"task {number} started"
    changeSchedule fun schedule =>
      { schedule.setState number (.running false) with active := schedule.active + 1 }

/-- The jobs after one of them has been executed. -/
def settled (number : Nat) (outcome : Except Fault Value) (schedule : Schedule) : Schedule :=
  match outcome with
  | .ok value => match schedule.job? number with
    | some job => schedule.setState number (endedNormally value job.state)
    | none => schedule
  | .error fault => schedule.setState number (.failed (failureOf number fault))

/-- A job has been executed, and how it has ended is kept. -/
def endJob (number : Nat) (outcome : Except Fault Value) : MachineM Unit := do
  Machine.onStore do
    changeSchedule fun schedule => { schedule with active := schedule.active - 1 }
    noteJobs s!"task {number} finished"
  Machine.onStore (changeSchedule (settled number outcome))

def planGiveTurn (room number : Nat) : Plan Unit :=
  .own get fun machine => match machine.store.schedule.job? number with
    | none => .last (pure ())
    | some job => match job.state with
      | .waiting true => .last
          (Machine.onStore (changeSchedule fun schedule => schedule.setState number .cancelled))
      | .waiting false =>
          .own (beginJob number) fun _ =>
          .attempt (.callJob number room job) fun outcome => .last (endJob number outcome)
      | _ => .last (pure ())

/-- What an activity consists of. -/
def plan : (activity : Activity) → Plan activity.Result
  | .evaluate context room expression => planEvaluate context room expression
  | .construct context room className arguments => planConstruct context room className arguments
  | .execute context room statement => planExecute context room statement
  | .callValue runner room callee arguments => planCallValue runner room callee arguments
  | .callHost _ room action arguments => pass (.perform room action arguments)
  | .callClosure runner room id arguments => planCallClosure runner room id arguments
  | .activate context room body | .runBody context room body =>
      .executeAll context room (fun completion => .last (pure completion)) body .absent
  | .perform room action arguments => planPerform room action arguments
  | .runModule room body unit runner arguments => planRunModule room body unit runner arguments
  | .callBack room id arguments => planCallBack room id arguments
  | .runRound room => .own (Machine.onStore takeReady) fun numbers => .giveTurns room numbers
  | .giveTurn room number => planGiveTurn room number
  | .callJob _ room job => planCallJob room job

/-! ## Following the plans -/

theorem run_pass (activity : Activity) : (pass activity).run = activity.steps :=
  bind_pure activity.steps

theorem evaluate_eq (context : Context) (room : Nat) (expression : Expr) :
    Scriptlet.evaluate context room expression =
      locating context.runner expression.span (planEvaluate context room expression).run := by
  match room with
  | 0 | 1 | 2 | 3 | 4 => rfl
  | room + 5 =>
      refine congrArg (locating context.runner expression.span) ?_
      cases expression with
      | number | text | bool | name | function => rfl
      | binary span left operator right =>
          refine bind_congr fun first => ?_
          cases operator.operation? with
          | some operation => rfl
          | none =>
              refine bind_congr fun truth => ?_
              dsimp only
              split <;> rfl
      | unary span operator operand =>
          refine bind_congr fun value => ?_
          cases operator <;> rfl
      | assign span target value => cases target <;> rfl
      | call span callee arguments =>
          cases callee with
          | member place object field =>
              refine bind_congr fun receiver => bind_congr fun callee => ?_
              simp only [Plan.run_evaluateAll]
              refine bind_congr fun values => ?_
              cases callee with
              | value callee =>
                  exact (run_pass (.callValue context.runner (room + 2) callee values)).symm
              | method => rfl
          | _ =>
              refine bind_congr fun callee => ?_
              simp only [Plan.run_evaluateAll]
              refine bind_congr fun values => ?_
              exact (run_pass (.callValue context.runner (room + 2) callee values)).symm
      | member | index | load => rfl
      | array span elements =>
          simp only [planEvaluate, Plan.run_evaluateAll]
          rfl
      | construct span className arguments =>
          exact (run_pass (.construct context (room + 3) className arguments)).symm

theorem execute_eq (context : Context) (room : Nat) (statement : Stmt) :
    Scriptlet.execute context room statement =
      locating context.runner statement.span (planExecute context room statement).run := by
  match room with
  | 0 | 1 | 2 | 3 | 4 => rfl
  | room + 5 =>
      refine congrArg (locating context.runner statement.span) ?_
      cases statement with
      | declare span id initial => cases initial <;> rfl
      | expression | leave | proceed | construct => rfl
      | block span statements =>
          refine bind_congr fun scope => ?_
          simp only [Plan.run_executeAll]
          exact (bind_pure _).symm
      | conditional span condition consequent alternate =>
          simp only [planExecute, Plan.run]
          refine bind_congr fun value => bind_congr fun truth => ?_
          cases truth with
          | true => exact (run_pass (.execute context (room + 2) consequent)).symm
          | false =>
              cases alternate with
              | some statement => exact (run_pass (.execute context (room + 2) statement)).symm
              | none => rfl
      | loop span condition body => exact (Plan.run_executeWhile ..).symm
      | function span name params body =>
          refine bind_congr fun closure => ?_
          cases name <;> rfl
      | result span value => cases value <;> rfl
      | load span path =>
          refine bind_congr fun value => bind_congr fun path => bind_congr fun loaded => ?_
          exact (Plan.run_executeAll { context with unit := loaded.2 } (room + 1)
            (fun completion => .last (pure (Completion.normal completion.value))) loaded.1.body
              .absent).symm

theorem construct_eq (context : Context) (room : Nat) (className : String)
    (arguments : List Expr) :
    Scriptlet.construct context room className arguments =
      (planConstruct context room className arguments).run := by
  match room with
  | 0 | 1 => rfl
  | room + 2 =>
      refine bind_congr fun callee => bind_congr fun _ => ?_
      simp only [Plan.run_evaluateAll]
      refine bind_congr fun values => ?_
      exact (run_pass (.callValue context.runner (room + 1) callee values)).symm

theorem callValue_eq (runner : RunnerId) (room : Nat) (callee : Value) (arguments : List Value) :
    Scriptlet.callValue runner room callee arguments =
      (planCallValue runner room callee arguments).run := by
  match room with
  | 0 | 1 => rfl
  | room + 2 =>
      cases callee with
      | closure id => exact (run_pass (.callClosure runner (room + 1) id arguments)).symm
      | host id =>
          refine bind_congr fun machine => ?_
          dsimp only
          cases machine.store.objects[id]?.bind HostObject.callable? with
          | some called =>
              exact (run_pass (.callHost called.1 (room + 1) called.2 arguments)).symm
          | none => rfl
      | _ => rfl

theorem callClosure_eq (runner : RunnerId) (room : Nat) (id : ClosureId)
    (arguments : List Value) :
    Scriptlet.callClosure runner room id arguments =
      (planCallClosure runner room id arguments).run := by
  match room with
  | 0 => rfl
  | room + 1 =>
      refine bind_congr fun machine => ?_
      unfold planCalled
      cases machine.runners[runner]? with
      | none => rfl
      | some current =>
          cases machine.store.closures[id]? with
          | none => rfl
          | some closure =>
              dsimp only
              split <;> rfl

theorem join_eq (room : Nat) (arguments : List Value) :
    joinJob (startJob (Scriptlet.callJob room)) arguments = (planJoin room arguments).run := by
  refine bind_congr fun _ => bind_congr fun number => bind_congr fun machine => ?_
  dsimp only
  split
  · rfl
  · cases machine.store.schedule.job? number with
    | none => rfl
    | some job =>
        dsimp only
        split
        · rfl
        · exact bind_congr fun _ => (Plan.run_runRounds room (.last (fetch number)) _).symm

theorem sleep_eq (room : Nat) (arguments : List Value) :
    sleepFor (startJob (Scriptlet.callJob room)) arguments = (planSleep room arguments).run := by
  refine bind_congr fun _ => ?_
  cases arguments.headD .absent with
  | number x =>
      refine bind_congr fun machine => ?_
      dsimp only
      split
      · rfl
      · refine bind_congr fun _ => ?_
        dsimp only
        split
        · exact (Plan.run_drain room (.own (Machine.onStore (Store.advanceClock _)) fun _ =>
            .last (pure Value.absent)) drainBound).symm
        · exact (Plan.run_runRounds room (.last (pure Value.absent)) 3).symm
  | _ => rfl

theorem yield_eq (room : Nat) (arguments : List Value) :
    yieldTurn (startJob (Scriptlet.callJob room)) arguments = (planYield room arguments).run := by
  refine bind_congr fun _ => bind_congr fun machine => ?_
  dsimp only
  split
  · exact bind_congr fun _ => (Plan.run_runRounds room (.last (pure Value.absent)) 3).symm
  · rfl

theorem apply_eq (room : Nat) (arguments : List Value) :
    applyData room (Scriptlet.callBack room) arguments = (planApply room arguments).run := by
  refine bind_congr fun data => bind_congr fun _ => ?_
  match data with
  | .closure id :: rest => rfl
  | [] => rfl
  | .null :: _ | .bool _ :: _ | .int _ :: _ | .float _ :: _ | .text _ :: _ | .list _ :: _
  | .table _ :: _ | .host _ :: _ | .foreign :: _ => rfl

theorem perform_eq (room : Nat) (action : Action) (arguments : List Value) :
    Scriptlet.perform room action arguments = (planPerform room action arguments).run := by
  match room with
  | 0 => cases action <;> rfl
  | room + 1 =>
      cases action with
      | native operation => rfl
      | control operation =>
          cases operation with
          | join => exact join_eq room arguments
          | sleep => exact sleep_eq room arguments
          | yield => exact yield_eq room arguments
          | apply => exact apply_eq room arguments
          | runModule body unit runner =>
              exact (run_pass (.runModule room body unit runner arguments)).symm

theorem runModule_eq (room : Nat) (body : List Stmt) (unit : UnitId) (runner : RunnerId)
    (arguments : List Value) :
    Scriptlet.runModule room body unit runner arguments =
      (planRunModule room body unit runner arguments).run := by
  match room with
  | 0 | 1 | 2 | room + 3 => rfl

theorem callBack_eq (room : Nat) (id : ClosureId) (arguments : List Value) :
    Scriptlet.callBack room id arguments = (planCallBack room id arguments).run := by
  match room with
  | 0 => rfl
  | room + 1 =>
      refine bind_congr fun machine => ?_
      dsimp only
      cases machine.store.closures[id]? with
      | some closure => exact (run_pass (.callClosure closure.runner room id arguments)).symm
      | none => rfl

theorem callJob_eq (room : Nat) (job : Job) :
    Scriptlet.callJob room job = (planCallJob room job).run := by
  match room with
  | 0 => rfl
  | room + 1 =>
      obtain ⟨function, arguments, state⟩ := job
      cases function with
      | closure id => exact (run_pass (.callBack room id arguments)).symm
      | host id =>
          refine bind_congr fun machine => ?_
          dsimp only
          cases machine.store.objects[id]?.bind HostObject.callable? with
          | some called => exact (run_pass (.perform room called.2 arguments)).symm
          | none => rfl
      | _ => rfl

theorem giveTurn_eq (room number : Nat) :
    startJob (Scriptlet.callJob room) number = (planGiveTurn room number).run := by
  refine bind_congr fun machine => ?_
  dsimp only
  cases machine.store.schedule.job? number with
  | none => rfl
  | some job =>
      dsimp only
      cases job.state with
      | waiting requested =>
          cases requested with
          | true => rfl
          | false =>
              refine bind_congr fun _ => ?_
              funext machine
              simp only [Plan.run, steps, endJob]
              cases Scriptlet.callJob room job machine <;> rfl
      | _ => rfl

theorem run_body (context : Context) (room : Nat) (body : List Stmt) :
    (Plan.executeAll context room (fun completion => .last (pure completion)) body .absent).run =
      sequence (Scriptlet.execute context room) body .absent :=
  (Plan.run_executeAll ..).trans (bind_pure _)

/-- To carry out an activity is to follow its plan. -/
theorem steps_eq (activity : Activity) : activity.steps = activity.frame activity.plan.run := by
  cases activity with
  | evaluate => exact evaluate_eq ..
  | construct => exact construct_eq ..
  | execute => exact execute_eq ..
  | callValue => exact callValue_eq ..
  | callHost name room action arguments =>
      exact congrArg (callingHost name) (run_pass (.perform room action arguments)).symm
  | callClosure => exact callClosure_eq ..
  | activate context room body =>
      simp only [frame, plan, run_body, steps]
  | perform => exact perform_eq ..
  | runModule => exact runModule_eq ..
  | runBody context room body => exact congrArg guarded (run_body context room body).symm
  | callBack => exact callBack_eq ..
  | runRound room => exact bind_congr fun numbers => (Plan.run_giveTurns room numbers).symm
  | giveTurn => exact giveTurn_eq ..
  | callJob => exact callJob_eq ..

end Activity

end Scriptlet
