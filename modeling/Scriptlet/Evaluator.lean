import Scriptlet.Library.Native
import Scriptlet.Loading
import Scriptlet.Operator
import Scriptlet.Scope.Lookup

/-!
# Evaluation

Expressions evaluate to values and statements end with a completion, which says whether the next
statement follows, a loop is left or taken up again, or a function returns. Every node that is being
evaluated locates the errors that have no place yet, so an error is reported at the innermost node.

All functions recurse on the room that is left on the stack. A node takes as much of it as its
nested steps need, and a run that has no room left is exhausted.
-/

namespace Scriptlet

/-- How a statement ends. -/
inductive Completion where
  /-- The next statement follows. -/
  | normal (value : Value)
  /-- The function, module or program ends. -/
  | result (value : Value)
  /-- The loop ends. -/
  | leave
  /-- The round of the loop ends. -/
  | proceed
  deriving Repr, Inhabited

namespace Completion

/-- The value of a completion. -/
def value : Completion → Value
  | .normal value | .result value => value
  | .leave | .proceed => .absent

/-- The value that a function returns when its body ends this way. -/
def returned : Completion → Value
  | .result value => value
  | _ => .absent

end Completion

/-- Where code runs: which runner executes it, which unit it belongs to and in which scope. -/
structure Context where
  runner : RunnerId
  unit : UnitId
  scope : ScopeId
  deriving Repr

/-- How many rounds a loop can have. -/
def loopBound : Nat := Nat.pow 2 62

/-- How many rounds of jobs can pass while the program sleeps. -/
def drainBound : Nat := 1000000

/-! ## Errors -/

/-- Gives a script error a place unless it has one. The failure of a job gets its place for good. -/
def locateFault (runner : RunnerId) (span : Span) : Fault → MachineM Fault
  | .script e =>
      match e.span with
      | some _ => return .script e
      | none => do
          let line := ((← get).runner? runner).bind (·.quotedLine span)
          let located := e.locate span line
          match e.task with
          | some number =>
              Machine.onStore
                (changeSchedule fun schedule =>
                  schedule.setState number (.failed (.script located)))
          | none => pure ()
          return .script located
  | fault => return fault

/-- Locates the errors of steps at a span. -/
@[inline]
def locating {α : Type} (runner : RunnerId) (span : Span) (steps : MachineM α) : MachineM α :=
  Machine.mapFault (locateFault runner span) steps

/-- Reports the exhaustion of the stack as too deep a nesting of calls. -/
def guarded {α : Type} (steps : MachineM α) : MachineM α :=
  Machine.mapFault
    (fun
      | .exhausted => do return .ofCause (.tooDeep (← get).depthLimit)
      | fault => return fault)
    steps

/-- Reports a failure of a host function as a misuse of that function. -/
def reportFailure (function : String) : Fault → Fault
  | .host failure message =>
      if failure.isReported then .ofMisuse (.hostCall function message) else .host failure message
  | fault => fault

/-- Performs steps of a host function. -/
@[inline]
def callingHost {α : Type} (function : String) (steps : MachineM α) : MachineM α :=
  Machine.mapFault (fun fault => return reportFailure function fault) steps

/-! ## Sequences and loops -/

/-- Executes statements in turn until one does not end normally; `last` is the value of the
statement before. -/
def sequence (step : Stmt → MachineM Completion) : List Stmt → (last : Value) →
    MachineM Completion
  | [], last => return .normal last
  | statement :: rest, _ => do
      match ← step statement with
      | .normal value => sequence step rest value
      | .result value => return .result value
      | .leave => return .leave
      | .proceed => return .proceed

/-- Executes the body of a loop while its condition holds. -/
def repeatWhile (condition : MachineM Bool) (body : MachineM Completion) : (bound : Nat) →
    MachineM Completion
  | 0 => throw .unfinished
  | bound + 1 => do
      if ← condition then
        match ← body with
        | .leave => return .normal .absent
        | .result value => return .result value
        | .normal _ | .proceed => repeatWhile condition body bound
      else return .normal .absent

/-! ## Calls -/

/-- The first bindings of the scope of a call: missing arguments are undefined, and further ones are
ignored. -/
def bindArguments : List String → List Value → Assoc Value → Assoc Value
  | [], _, bindings => bindings
  | param :: params, arguments, bindings =>
      bindArguments params (arguments.drop 1) (bindings.put param (arguments.headD .absent))

/-- Refuses to call a value. -/
def refuseCall {α : Type} (room : Nat) (callee : Value) : MachineM α := do
  throw (.ofCause (.notCallable (← Machine.askStore fun store => store.describe room callee)))

/-- What a host object does when it is called, with its name. -/
def HostObject.callable? : HostObject → Option (String × Action)
  | .function name action => some (name, action)
  | .factory name action _ => some (name, action)
  | _ => none

/-- The class that a `new` calls must be a function. -/
def checkConstructible (room : Nat) (className : String) (callee : Value) : MachineM Unit := do
  let store := (← get).store
  let isFunction := match callee with
    | .closure _ => true
    | .host id => (store.objects[id]?.map HostObject.isFunction).getD false
    | _ => false
  if isFunction then return ()
  else
    let described ← Machine.askStore fun store => store.describe room callee
    throw (.ofCause (.notConstructible (className ++ " (" ++ described ++ ")")))

/-- The path of a module must be a text. -/
def checkModulePath : Value → MachineM String
  | .text path => return path
  | other => throw (.ofMisuse (.requirePath other.kind))

/-- Binds the first instance that a `new` statement makes to the name of its class. -/
def bindInstance (context : Context) (span : Span) (className : String) (instanceValue : Value) :
    MachineM Unit := do
  let mark := (context.unit, span.start.offset)
  if !(← get).constructed.contains mark then
    Machine.define context.scope className instanceValue
    modify fun machine => { machine with constructed := mark :: machine.constructed }

/-- A new handle of a module. -/
def newModule (path : String) (body : List Stmt) (unit : UnitId) (runner : RunnerId) :
    StoreM Value := do
  let run ← Store.addObject (.function "run" (.control (.runModule body unit runner)))
  return .host (← Store.addObject (.loaded path run))

/-! ## Rounds of jobs -/

/-- Takes the jobs whose turn it is. -/
def takeReady : StoreM (List Nat) :=
  modifyGet fun store =>
    (store.schedule.ready.toList, { store with schedule := { store.schedule with ready := #[] } })

/-- Runs the jobs that are ready when the round begins. -/
def runRound (start : Nat → MachineM Unit) : MachineM Unit := do
  (← Machine.onStore takeReady).forM start

/-- Runs a number of rounds. -/
def runRounds (start : Nat → MachineM Unit) : Nat → MachineM Unit
  | 0 => return ()
  | count + 1 => do
      runRound start
      runRounds start count

/-- Runs rounds until no job is ready. -/
def drain (start : Nat → MachineM Unit) : (bound : Nat) → MachineM Unit
  | 0 => return ()
  | bound + 1 => do
      if (← get).store.schedule.ready.isEmpty then return ()
      else
        runRound start
        drain start bound

/-- The stage of a job whose function has returned. -/
def endedNormally (value : Value) : JobState → JobState
  | .running true => .cancelled
  | _ => .returned value

/-- The failure of a job, which remembers to which job it belongs. -/
def failureOf (number : Nat) : Fault → Fault
  | .script e => .script { e with task := some number }
  | fault => fault

/-- Executes the function of a job and keeps how it ends. -/
def runJob (number : Nat) (body : MachineM Value) : MachineM Unit := do
  Machine.onStore do
    noteJobs s!"task {number} started"
    changeSchedule fun schedule =>
      { schedule.setState number (.running false) with active := schedule.active + 1 }
  let finish : MachineM Unit := Machine.onStore do
    changeSchedule fun schedule => { schedule with active := schedule.active - 1 }
    noteJobs s!"task {number} finished"
  fun machine => match body machine with
    | .ok value machine =>
        (do
          finish
          Machine.onStore (changeSchedule fun schedule =>
            match schedule.job? number with
            | some job => schedule.setState number (endedNormally value job.state)
            | none => schedule)) machine
    | .error fault machine =>
        (do
          finish
          Machine.onStore (changeSchedule fun schedule =>
            schedule.setState number (.failed (failureOf number fault)))) machine

/-- Gives a job its turn: a job that was cancelled ends without being executed. -/
def startJob (body : Job → MachineM Value) (number : Nat) : MachineM Unit := do
  match (← get).store.schedule.job? number with
  | none => return ()
  | some job =>
      match job.state with
      | .waiting true =>
          Machine.onStore (changeSchedule fun schedule => schedule.setState number .cancelled)
      | .waiting false => runJob number (body job)
      | _ => return ()

/-- The result of a job that has been waited for. -/
def resultOf : JobState → MachineM Value
  | .returned value => return value
  | .failed fault => throw fault
  | _ => throw (.ofCause (.task .joinCancelled))

/-- Waits for a job. A job that has not ended ends in the next round; one more round follows. -/
def joinJob (start : Nat → MachineM Unit) (arguments : List Value) : MachineM Value := do
  ofExcept (Signature.check ⟨"TaskScheduler.join", ["self"], 1, false⟩ (arguments.length + 1))
  let number ← Machine.askStore fun store => jobOf store "join" (arguments.headD .absent)
  let schedule := (← get).store.schedule
  if 0 < schedule.active then throw (.ofCause (.task .joinInsideTask))
  else match schedule.job? number with
    | none => throw (.ofCause (.task (.unknown (toString number))))
    | some job =>
        if job.state.isCancelled then throw (.ofCause (.task .joinCancelled))
        else
          Machine.onStore openSchedule
          runRounds start (if job.state.isDone then 1 else 2)
          match (← get).store.schedule.job? number with
          | some job => resultOf job.state
          | none => throw (.ofCause (.task .joinCancelled))

/-- The longest time that a job can sleep, in seconds. -/
def sleepLimit : Float := 9223372036.854775807

/-- Sleeps inside a job, which holds up everything else. -/
def sleepInside (milliseconds : Float) : StoreM Unit := do
  if sleepLimit ≤ milliseconds / 1000.0 then
    throw (.host .overflow "timestamp too large to convert to C _PyTime_t")
  else Store.advanceClock milliseconds

/-- Lets the jobs run for some time. -/
def sleepFor (start : Nat → MachineM Unit) (arguments : List Value) : MachineM Value := do
  ofExcept (Signature.check ⟨"TaskScheduler.sleep", ["self"], 1, false⟩ (arguments.length + 1))
  match arguments.headD .absent with
  | .number x =>
      let milliseconds := if 0.0 < x then x else 0.0
      if 0 < (← get).store.schedule.active then
        Machine.onStore (sleepInside milliseconds)
      else
        Machine.onStore openSchedule
        if 0.0 < milliseconds then
          drain start drainBound
          Machine.onStore (Store.advanceClock milliseconds)
        else runRounds start 3
      return .absent
  | other => throw (.ofMisuse (.sleepTime other.kind))

/-- Lets the jobs run that are ready, and those that they make ready. -/
def yieldTurn (start : Nat → MachineM Unit) (arguments : List Value) : MachineM Value := do
  ofExcept (Signature.check ⟨"TaskScheduler.yield_", ["self"], 0, false⟩ (arguments.length + 1))
  if (← get).store.schedule.active = 0 then
    Machine.onStore openSchedule
    runRounds start 3
  return .absent

/-! ## Callbacks from the host -/

/-- What the host calls data that is no function. -/
def hostTypeName (store : Store) : Data → String
  | .null => "NoneType"
  | .bool _ => "bool"
  | .int _ => "int"
  | .float _ => "float"
  | .text _ => "str"
  | .list _ => "list"
  | .table _ => "dict"
  | .closure _ => "Closure"
  | .foreign => "object"
  | .host id =>
      match store.objects[id]? with
      | some (.function ..) => "HostFunction"
      | some (.factory ..) => "HostClass"
      | some (.group ..) => "Namespace"
      | some (.scheduler _) => "TaskScheduler"
      | some (.record ..) => "Record"
      | some (.loaded ..) => "LoadedModule"
      | none => "object"

/-- Calls the first argument with the others, all of them as plain data. -/
def applyData (room : Nat) (call : ClosureId → List Value → MachineM Value)
    (arguments : List Value) : MachineM Value := do
  let data ← Machine.askStore fun store => arguments.mapM (store.unwrap room)
  ofExcept (Signature.check ⟨"apply", ["f"], 0, true⟩ data.length)
  match data with
  | .closure id :: rest =>
      let result ← call id (← Machine.onStore (Data.wrapAll rest))
      let data ← Machine.askStore fun store => store.unwrap room result
      Machine.onStore data.wrap
  | other =>
      let typeName := hostTypeName (← get).store (other.headD .null)
      throw (.host .wrongType ("'" ++ typeName ++ "' object is not callable"))

/-! ## Expressions and statements -/

mutual

/-- The value of an expression. -/
def evaluate (context : Context) : (room : Nat) → Expr → MachineM Value
  | room + 5, expression => locating context.runner expression.span do
      match expression with
      | .number _ x => return .number x
      | .text _ text => return .text text
      | .bool _ truth => return .bool truth
      | .name _ id => resolve (room + 3) context.scope id
      | .binary _ left operator right =>
          let first ← evaluate context (room + 2) left
          match operator.operation? with
          | some operation =>
              let second ← evaluate context (room + 2) right
              Machine.onStore (Store.operate (room + 2) operator.text operation first second)
          | none =>
              let decisive : Bool := operator = .either
              if (← Machine.isTruthy first) = decisive then return .bool decisive
              else return .bool (← Machine.isTruthy (← evaluate context (room + 2) right))
      | .unary _ operator operand =>
          let value ← evaluate context (room + 2) operand
          match operator with
          | .negate => ofExcept (Store.negate value)
          | .not => return .bool !(← Machine.isTruthy value)
      | .assign _ (.name _ id) value =>
          let value ← evaluate context (room + 2) value
          Machine.assign context.scope id value
          return value
      | .assign _ (.member _ object field) value =>
          let receiver ← evaluate context (room + 2) object
          let value ← evaluate context (room + 2) value
          Machine.onStore (Store.writeMember (room + 2) receiver field value)
          return value
      | .call _ (.member _ object field) arguments =>
          let receiver ← evaluate context (room + 2) object
          let callee ← Machine.onStore (Store.readMember (room + 2) receiver field)
          let values ← arguments.mapM (evaluate context (room + 1))
          match callee with
          | .value callee => callValue context.runner (room + 2) callee values
          | .method method =>
              callingHost method.name (Machine.onStore (method.perform room receiver values))
      | .call _ callee arguments =>
          let callee ← evaluate context (room + 2) callee
          let values ← arguments.mapM (evaluate context (room + 1))
          callValue context.runner (room + 2) callee values
      | .member _ object field =>
          let receiver ← evaluate context (room + 3) object
          Machine.onStore do
            let member ← Store.readMember (room + 2) receiver field
            Store.memberValue (room + 2) receiver member
      | .index _ object index =>
          let receiver ← evaluate context (room + 2) object
          let index ← evaluate context (room + 2) index
          Machine.onStore (Store.readIndex (room + 2) receiver index)
      | .array _ elements =>
          let items ← elements.mapM (evaluate context (room + 2))
          Machine.onStore (Store.addArray items.toArray)
      | .function _ params body =>
          Machine.onStore (Store.addClosure
            ⟨none, params, body, context.scope, context.unit, context.runner⟩)
      | .load _ path =>
          let path ← checkModulePath (← evaluate context (room + 2) path)
          let (program, unit) ← loadModule (room + 2) context.runner path
          Machine.onStore (newModule path program.body unit context.runner)
      | .construct _ className arguments => construct context (room + 3) className arguments
  | _, _ => throw .exhausted
termination_by structural room => room

/-- Calls the class with a given name. -/
def construct (context : Context) : (room : Nat) → String → List Expr → MachineM Value
  | room + 2, className, arguments => do
      let callee ← resolve room context.scope className
      checkConstructible room className callee
      let values ← arguments.mapM (evaluate context room)
      callValue context.runner (room + 1) callee values
  | _, _, _ => throw .exhausted
termination_by structural room => room

/-- Executes a statement. -/
def execute (context : Context) : (room : Nat) → Stmt → MachineM Completion
  | room + 5, statement => locating context.runner statement.span do
      match statement with
      | .declare _ id none =>
          Machine.define context.scope id .absent
          return .normal .absent
      | .declare _ id (some initial) =>
          let value ← evaluate context (room + 2) initial
          Machine.define context.scope id value
          return .normal value
      | .expression _ expression => return .normal (← evaluate context (room + 3) expression)
      | .block _ statements =>
          let scope ← Machine.openScope "block" context.scope
          sequence (execute { context with scope := scope } (room + 2)) statements .absent
      | .conditional _ condition consequent alternate =>
          if ← Machine.isTruthy (← evaluate context (room + 2) condition) then
            execute context (room + 2) consequent
          else match alternate with
            | some statement => execute context (room + 2) statement
            | none => return .normal .absent
      | .loop _ condition body =>
          repeatWhile
            (do Machine.isTruthy (← evaluate context (room + 2) condition))
            (execute context (room + 2) body) loopBound
      | .function _ name params body =>
          let closure ← Machine.onStore (Store.addClosure
            ⟨name, params, body, context.scope, context.unit, context.runner⟩)
          match name with
          | some id => Machine.define context.scope id closure
          | none => pure ()
          return .normal closure
      | .result _ none => return .result .absent
      | .result _ (some value) => return .result (← evaluate context (room + 3) value)
      | .leave _ => return .leave
      | .proceed _ => return .proceed
      | .construct span className arguments =>
          let instanceValue ← construct context (room + 2) className arguments
          bindInstance context span className instanceValue
          return .normal instanceValue
      | .load _ path =>
          let path ← checkModulePath (← evaluate context (room + 1) path)
          let (program, unit) ← loadModule (room + 2) context.runner path
          let completion ←
            sequence (execute { context with unit := unit } (room + 1)) program.body .absent
          return .normal completion.value
  | _, _ => throw .exhausted
termination_by structural room => room

/-- Calls a value with arguments. -/
def callValue (runner : RunnerId) : (room : Nat) → Value → List Value → MachineM Value
  | room + 2, callee, arguments => do
      match callee with
      | .closure id => callClosure runner (room + 1) id arguments
      | .host id =>
          match (← get).store.objects[id]?.bind HostObject.callable? with
          | some (name, action) => callingHost name (perform (room + 1) action arguments)
          | none => refuseCall room callee
      | _ => refuseCall room callee
  | _, _, _ => throw .exhausted
termination_by structural room => room

/-- Calls a function of a script. It runs in a new scope inside the scope in which it was made. -/
def callClosure (runner : RunnerId) : (room : Nat) → ClosureId → List Value → MachineM Value
  | room + 1, id, arguments => do
      let machine ← get
      match machine.runners[runner]?, machine.store.closures[id]? with
      | some current, some closure =>
          if machine.depthLimit ≤ current.depth then
            throw (.ofCause (.tooDeep machine.depthLimit))
          else
            let scope ← Machine.openScope ("fn " ++ closure.name.getD "anonymous") closure.scope
              (bindArguments closure.params arguments [])
            Machine.changeRunner runner fun current => { current with depth := current.depth + 1 }
            let completion ← Machine.andFinally
              (sequence (execute ⟨runner, closure.unit, scope⟩ room) closure.body .absent)
              (Machine.changeRunner runner fun current =>
                { current with depth := current.depth - 1 })
            return completion.returned
      | _, _ => refuseCall room (.closure id)
  | 0, _, _ => throw .exhausted
termination_by structural room => room

/-- Performs the action of a host function. -/
def perform : (room : Nat) → Action → List Value → MachineM Value
  | room + 1, .native operation, arguments => Machine.onStore (operation.perform room arguments)
  | room + 1, .control operation, arguments =>
      match operation with
      | .join => joinJob (startJob (callJob room)) arguments
      | .sleep => sleepFor (startJob (callJob room)) arguments
      | .yield => yieldTurn (startJob (callJob room)) arguments
      | .apply => applyData room (callBack room) arguments
      | .runModule body unit runner => runModule room body unit runner arguments
  | 0, _, _ => throw .exhausted
termination_by structural room => room

/-- Runs the body of a module in a new scope inside the root scope. -/
def runModule : (room : Nat) → List Stmt → UnitId → RunnerId → List Value → MachineM Value
  | room + 3, body, unit, runner, arguments => do
      ofExcept (Signature.check ⟨"LoadedModule.__init__.<locals>.<lambda>", [], 0, false⟩
        arguments.length)
      let machine ← get
      let globals := ((machine.runner? runner).map Runner.globals).getD 0
      let scope ← Machine.openScope "module" (machine.scopes.root globals)
      let completion ←
        guarded (sequence (execute ⟨runner, unit, scope⟩ room) body .absent)
      return completion.value
  | _, _, _, _, _ => throw .exhausted
termination_by structural room => room

/-- Calls a function of a script from the host; the runner that made the function runs it. -/
def callBack : (room : Nat) → ClosureId → List Value → MachineM Value
  | room + 1, id, arguments => do
      match (← get).store.closures[id]? with
      | some closure => callClosure closure.runner room id arguments
      | none => refuseCall room (.closure id)
  | 0, _, _ => throw .exhausted
termination_by structural room => room

/-- Calls the function of a job. -/
def callJob : (room : Nat) → Job → MachineM Value
  | room + 1, job => do
      match job.function with
      | .closure id => callBack room id job.arguments
      | .host id =>
          match (← get).store.objects[id]?.bind HostObject.callable? with
          | some (_, action) => perform room action job.arguments
          | none => throw (.ofMisuse (.taskFunction .host))
      | other => throw (.ofMisuse (.taskFunction other.kind))
  | 0, _ => throw .exhausted
termination_by structural room => room

end

end Scriptlet
