import Scriptlet.Proofs.Evaluator.Completion
import Scriptlet.Proofs.Parser.WellFormed
import Scriptlet.Proofs.Session.Course

/-!
# Control flow stays inside bodies

Bodies of functions, modules and programs are closed: nothing in them is meant for a loop around
them.  All code that a machine ever holds is closed, since it was read from texts.  So every run of
a body ends normally or with a result, what is meant for a loop is taken by the nearest loop around
it, and a result passes up to the end of the body and no further.
-/

namespace Scriptlet

/-- Nothing in a body is meant for a loop around it. -/
def BodyClosed (body : List Stmt) : Prop :=
  ∀ statement ∈ body, statement.WellFormed false

/-! ## Well-formed code -/

theorem Expr.WellFormed.of_mem_parts {whole part : Expr} (formed : whole.WellFormed)
    (found : part ∈ whole.parts) : part.WellFormed := by
  cases formed with
  | number | text | bool | name | function => cases found
  | binary _ _ leftFormed rightFormed =>
      simp only [Expr.parts, List.mem_cons, List.not_mem_nil, or_false] at found
      rcases found with rfl | rfl
      · exact leftFormed
      · exact rightFormed
  | unary _ _ operandFormed =>
      obtain rfl := List.mem_singleton.mp found
      exact operandFormed
  | assign _ targetFormed valueFormed =>
      cases targetFormed with
      | name =>
          obtain rfl := List.mem_singleton.mp found
          exact valueFormed
      | member _ _ objectFormed _ =>
          simp only [Expr.parts, List.mem_cons, List.not_mem_nil, or_false] at found
          rcases found with rfl | rfl
          · exact objectFormed
          · exact valueFormed
  | call _ calleeFormed argumentsFormed =>
      rcases List.mem_cons.mp found with rfl | found
      · exact calleeFormed
      · exact argumentsFormed part found
  | member _ _ objectFormed _ =>
      obtain rfl := List.mem_singleton.mp found
      exact objectFormed
  | index _ objectFormed indexFormed =>
      simp only [Expr.parts, List.mem_cons, List.not_mem_nil, or_false] at found
      rcases found with rfl | rfl
      · exact objectFormed
      · exact indexFormed
  | array _ elementsFormed => exact elementsFormed part found
  | load _ pathFormed =>
      obtain rfl := List.mem_singleton.mp found
      exact pathFormed
  | construct _ _ argumentsFormed => exact argumentsFormed part found

theorem Stmt.WellFormed.of_mem_expressions {inLoop : Bool} {whole : Stmt} {part : Expr}
    (formed : whole.WellFormed inLoop) (found : part ∈ whole.expressions) : part.WellFormed := by
  cases formed with
  | block | function | leave | proceed => cases found
  | declare _ _ _ initialFormed => exact initialFormed part (Option.mem_toList.mp found)
  | expression _ _ expressionFormed =>
      obtain rfl := List.mem_singleton.mp found
      exact expressionFormed
  | conditional _ conditionFormed _ _ _ | loop _ _ conditionFormed _ =>
      obtain rfl := List.mem_singleton.mp found
      exact conditionFormed
  | result _ _ valueFormed => exact valueFormed part (Option.mem_toList.mp found)
  | construct _ _ _ argumentsFormed => exact argumentsFormed part found
  | load _ _ pathFormed =>
      obtain rfl := List.mem_singleton.mp found
      exact pathFormed

theorem Stmt.WellFormed.of_mem_parts {inLoop : Bool} {whole part : Stmt}
    (formed : whole.WellFormed inLoop) (found : part ∈ whole.parts) :
    ∃ inLoop, part.WellFormed inLoop := by
  cases formed with
  | block _ statementsFormed => exact ⟨inLoop, statementsFormed part found⟩
  | conditional _ _ consequentFormed alternateFormed _ =>
      rcases List.mem_cons.mp found with rfl | found
      · exact ⟨inLoop, consequentFormed⟩
      · exact ⟨inLoop, alternateFormed part (Option.mem_toList.mp found)⟩
  | loop _ _ _ bodyFormed =>
      obtain rfl := List.mem_singleton.mp found
      exact ⟨true, bodyFormed⟩
  | _ => cases found

/-- Well-formed code, with closed bodies. -/
def CodeKind.wellFormed : CodeKind where
  expression := Expr.WellFormed
  statement statement := ∃ inLoop, statement.WellFormed inLoop
  body := BodyClosed
  part formed found := formed.of_mem_parts found
  function formed := by
    cases formed with
    | function _ _ bodyFormed => exact bodyFormed
  operand := by
    rintro whole part ⟨inLoop, formed⟩ found
    exact formed.of_mem_expressions found
  inner := by
    rintro whole part ⟨inLoop, formed⟩ found
    exact formed.of_mem_parts found
  named := by
    rintro span name params statements ⟨inLoop, formed⟩
    cases formed with
    | function _ _ _ _ bodyFormed => exact bodyFormed
  member closed found := ⟨false, closed _ found⟩
  program read := Program.ofSource_wellFormed read

/-! ## Runs of bodies -/

/-- A run of a body at a machine, in some place and with some room. -/
structure BodyRun where
  context : Context
  room : Nat
  body : List Stmt
  machine : Machine

namespace BodyRun

/-- How a run of a body ends. -/
def outcome (run : BodyRun) : EStateM.Result Fault Machine Completion :=
  sequence (execute run.context run.room) run.body .absent run.machine

/-- A run of a body has the execution of a statement in it, at any depth. -/
def Contains (run : BodyRun) (inner : Execution) : Prop :=
  ∃ statement start, Reaches (execute run.context run.room) run.body run.machine statement start ∧
    Execution.Inside ⟨run.context, run.room, statement, start⟩ inner

/-- Every completion in a run of a body goes where it is meant to go. -/
structure Contained (run : BodyRun) : Prop where
  /-- The run does not end in a way that is meant for a loop. -/
  ends : ∀ {completion after}, run.outcome = .ok completion after →
    completion.isLoopControl = false
  /-- The nearest loop around ends, and the run goes on behind it. -/
  leave : ∀ {inner after}, run.Contains inner → inner.outcome = .ok .leave after →
    ∃ left loop turn, run.Contains loop ∧ Execution.Turns left loop turn ∧
      Execution.Within turn inner ∧ loop.outcome = .ok (.normal .absent) after
  /-- The nearest loop around goes on with its next round. -/
  proceed : ∀ {inner after}, run.Contains inner → inner.outcome = .ok .proceed after →
    ∃ left loop turn, run.Contains loop ∧ Execution.Turns left loop turn ∧
      Execution.Within turn inner ∧ loop.outcome = loop.furtherRounds left after
  /-- A result ends the run, whatever it is inside of. -/
  result : ∀ {inner value after}, run.Contains inner → inner.outcome = .ok (.result value) after →
    run.outcome = .ok (.result value) after
  /-- The result of the run is one of its own. -/
  source : ∀ {value after}, run.outcome = .ok (.result value) after →
    ∃ inner, run.Contains inner ∧ Execution.Produces inner.statement (.result value) ∧
      inner.outcome = .ok (.result value) after

variable {run : BodyRun} {inner : Execution} {completion : Completion} {after : Machine}

/-- A run that does not end normally has been ended by one of its statements. -/
theorem ended_by (runs : run.outcome = .ok completion after)
    (abrupt : completion.isNormal = false) :
    ∃ statement start, Reaches (execute run.context run.room) run.body run.machine statement start ∧
      Execution.outcome ⟨run.context, run.room, statement, start⟩ = .ok completion after :=
  reaches_of_sequence runs abrupt

/-- In a closed body, there is a loop around everything that is meant for a loop. -/
theorem exists_loop (closed : BodyClosed run.body) (contains : run.Contains inner)
    (ends : inner.outcome = .ok completion after) (control : completion.isLoopControl = true) :
    ∃ left loop turn, run.Contains loop ∧ Execution.Turns left loop turn ∧
      Execution.Within turn inner := by
  obtain ⟨statement, start, reaches, inside⟩ := contains
  rcases inside.nearest_loop with within | ⟨left, loop, turn, around, turns, within⟩
  · have outerEnds := within.outcome_eq ends (Completion.isNormal_of_isLoopControl control)
    have stays := Execution.isLoopControl_of_wellFormed (closed statement reaches.mem) outerEnds
    rw [stays] at control
    cases control
  · exact ⟨left, loop, turn, ⟨statement, start, reaches, around⟩, turns, within⟩

theorem contained_of_closed (closed : BodyClosed run.body) : run.Contained where
  ends {completion after} runs := by
    cases control : completion.isLoopControl with
    | false => rfl
    | true =>
        have abrupt := Completion.isNormal_of_isLoopControl control
        obtain ⟨statement, start, reaches, ends⟩ := ended_by runs abrupt
        rw [← control]
        exact Execution.isLoopControl_of_wellFormed (closed statement reaches.mem) ends
  leave contains ends := by
    obtain ⟨left, loop, turn, around, turns, within⟩ := exists_loop closed contains ends rfl
    exact ⟨left, loop, turn, around, turns, within,
      turns.outcome_of_leave (within.outcome_eq ends rfl)⟩
  proceed contains ends := by
    obtain ⟨left, loop, turn, around, turns, within⟩ := exists_loop closed contains ends rfl
    exact ⟨left, loop, turn, around, turns, within,
      turns.outcome_of_proceed (within.outcome_eq ends rfl)⟩
  result contains ends := by
    obtain ⟨statement, start, reaches, inside⟩ := contains
    exact sequence_of_reaches reaches (inside.outcome_of_result ends) rfl .absent
  source runs := by
    obtain ⟨statement, start, reaches, ends⟩ := ended_by runs rfl
    obtain ⟨inner, inside, produces, innerEnds⟩ := Execution.exists_origin ends rfl
    exact ⟨inner, ⟨statement, start, reaches, inside⟩, produces, innerEnds⟩

end BodyRun

/-! ## Where bodies are run -/

theorem refuseCall_fails {α : Type} {room : Nat} {callee : Value} {value : α}
    {machine after : Machine} :
    (refuseCall room callee : MachineM α) machine ≠ .ok value after := by
  intro run
  obtain ⟨_, _, -, run⟩ := bind_ok run
  cases run

/-- A call gives the result of the body of its function. -/
theorem callClosure_runs {runner : RunnerId} {room : Nat} {id : ClosureId} {arguments : List Value}
    {value : Value} {machine after : Machine}
    (call : callClosure runner room id arguments machine = .ok value after) :
    ∃ (closure : Closure) (run : BodyRun) (completion : Completion) (ended : Machine),
      machine.store.closures[id]? = some closure ∧ run.body = closure.body ∧
        run.outcome = .ok completion ended ∧ value = completion.returned := by
  match room with
  | 0 => cases call
  | room + 1 =>
      obtain ⟨_, _, looked, call⟩ := bind_ok call
      cases looked
      generalize machine.runners[runner]? = current at call
      generalize found : machine.store.closures[id]? = held at call
      cases current with
      | none => exact absurd call refuseCall_fails
      | some current =>
          cases held with
          | none => exact absurd call refuseCall_fails
          | some closure =>
              dsimp only at call
              split at call
              · cases call
              · obtain ⟨scope, _, -, call⟩ := bind_ok call
                obtain ⟨_, entered, -, call⟩ := bind_ok call
                obtain ⟨completion, _, runs, call⟩ := bind_ok call
                cases call
                obtain ⟨ended, runs⟩ := andFinally_ok runs
                exact ⟨closure, ⟨⟨runner, closure.unit, scope⟩, room, closure.body, entered⟩,
                  completion, ended, rfl, rfl, runs, rfl⟩

/-- A module that is run gives the value of its body. -/
theorem runModule_runs {room : Nat} {body : List Stmt} {unit : UnitId} {runner : RunnerId}
    {arguments : List Value} {value : Value} {machine after : Machine}
    (call : runModule room body unit runner arguments machine = .ok value after) :
    ∃ (run : BodyRun) (completion : Completion), run.body = body ∧
      run.outcome = .ok completion after ∧ value = completion.value := by
  match room with
  | 0 | 1 | 2 => cases call
  | room + 3 =>
      obtain ⟨_, _, -, call⟩ := bind_ok call
      obtain ⟨_, _, -, call⟩ := bind_ok call
      obtain ⟨scope, start, -, call⟩ := bind_ok call
      obtain ⟨completion, _, runs, call⟩ := bind_ok call
      cases call
      exact ⟨⟨⟨runner, unit, scope⟩, room, body, start⟩, completion, rfl, mapFault_ok_iff.mp runs,
        rfl⟩

/-- A statement that loads a module runs its body, and ends normally. -/
theorem load_runs {context : Context} {room : Nat} {span : Span} {path : Expr}
    {completion : Completion} {machine after : Machine}
    (ends : execute context room (.load span path) machine = .ok completion after) :
    ∃ (program : Program) (run : BodyRun) (ended : Completion),
      (∃ room source file, Program.ofSource room source file = .ok program) ∧
        run.body = program.body ∧ run.outcome = .ok ended after ∧
        completion = .normal ended.value := by
  match room with
  | 0 | 1 | 2 | 3 | 4 => cases ends
  | room + 5 =>
      have runs := locating_ok_iff.mp ends
      obtain ⟨_, _, -, runs⟩ := bind_ok runs
      obtain ⟨_, _, -, runs⟩ := bind_ok runs
      obtain ⟨⟨program, unit⟩, start, loads, runs⟩ := bind_ok runs
      obtain ⟨ended, _, bodyRuns, runs⟩ := bind_ok runs
      cases runs
      obtain ⟨source, file, read⟩ := loadModule_read loads
      exact ⟨program, ⟨{ context with unit := unit }, room + 1, program.body, start⟩, ended,
        ⟨_, source, file, read⟩, rfl, bodyRuns, rfl⟩

/-- A program that is run gives the value of its body. -/
theorem runProgram_runs {runner : RunnerId} {unit : UnitId} {scope : ScopeId} {program : Program}
    {value : Value} {machine after : Machine}
    (runs : runProgram runner unit scope program machine = .ok value after) :
    ∃ (run : BodyRun) (completion : Completion), run.body = program.body ∧
      run.outcome = .ok completion after ∧ value = completion.value := by
  obtain ⟨_, _, -, runs⟩ := bind_ok runs
  obtain ⟨completion, _, bodyRuns, runs⟩ := bind_ok runs
  cases runs
  exact ⟨⟨⟨runner, unit, scope⟩, _, program.body, _⟩, completion, rfl,
    mapFault_ok_iff.mp bodyRuns, rfl⟩

/-! ## Machines -/

/-- The steps leave a machine that holds closed bodies only, also when they fail. -/
def LeavesClosed {α : Type} (steps : MachineM α) (machine : Machine) : Prop :=
  (endState (steps machine)).BodiesSatisfy BodyClosed

/-- Control flow is contained in everything that is run on a machine. -/
structure Machine.ControlSafe (machine : Machine) : Prop where
  evaluate : ∀ (context : Context) (room : Nat) {expression : Expr}, expression.WellFormed →
    LeavesClosed (evaluate context room expression) machine
  execute : ∀ (context : Context) (room : Nat) {inLoop : Bool} {statement : Stmt},
    statement.WellFormed inLoop → LeavesClosed (execute context room statement) machine
  call : ∀ (runner : RunnerId) (room : Nat) (callee : Value) (arguments : List Value),
    LeavesClosed (callValue runner room callee arguments) machine
  job : ∀ (room : Nat) (job : Job), LeavesClosed (callJob room job) machine
  environment : ∀ (settings : Settings) (entropy : Int),
    LeavesClosed (openEnvironment settings entropy) machine
  session : ∀ (moduleRoot : Option String) (scope : ScopeId) (source : String)
    (file : Option String), LeavesClosed (runSource moduleRoot scope source file) machine
  host : ∀ (callee : Value) (arguments : List Value),
    LeavesClosed (callFromHost callee arguments) machine
  release : ∀ scope : ScopeId, LeavesClosed (releaseEnvironment scope) machine
  /-- Whatever the body of a held function or module does, it stays in the body. -/
  body : ∀ run : BodyRun, machine.store.HoldsBody run.body → run.Contained
  /-- The same holds of the body of every program that is read from a text. -/
  text : ∀ {room source file program}, Program.ofSource room source file = .ok program →
    ∀ run : BodyRun, run.body = program.body → run.Contained
  /-- A call runs the body of its function and takes the result. -/
  closure : ∀ {runner room id arguments value after},
    callClosure runner room id arguments machine = .ok value after →
    ∃ (run : BodyRun) (completion : Completion) (ended : Machine), run.Contained ∧
      machine.store.closures[id]?.map Closure.body = some run.body ∧
      run.outcome = .ok completion ended ∧ value = completion.returned
  /-- The function of a module runs its body and takes the value. -/
  module : ∀ {room body unit runner arguments value after}, machine.store.HoldsBody body →
    runModule room body unit runner arguments machine = .ok value after →
    ∃ (run : BodyRun) (completion : Completion), run.Contained ∧ run.body = body ∧
      run.outcome = .ok completion after ∧ value = completion.value
  /-- A loading statement runs the body of the module and ends normally. -/
  load : ∀ {context room span path completion after},
    Scriptlet.execute context room (.load span path) machine = .ok completion after →
    ∃ (run : BodyRun) (ended : Completion), run.Contained ∧ run.outcome = .ok ended after ∧
      completion = .normal ended.value
  /-- A run of a program runs its body and takes the value. -/
  program : ∀ {room source file program}, Program.ofSource room source file = .ok program →
    ∀ {runner unit scope value after},
      runProgram runner unit scope program machine = .ok value after →
      ∃ (run : BodyRun) (completion : Completion), run.Contained ∧ run.body = program.body ∧
        run.outcome = .ok completion after ∧ value = completion.value

/-- A machine starts with closed bodies only, it never comes to hold others, and as long as it holds
closed bodies only, control flow is contained in everything that runs on it. -/
theorem control_flow_contained :
    (∀ (disk : Disk) (depthLimit : Nat),
      ({ disk := disk, depthLimit := depthLimit } : Machine).BodiesSatisfy BodyClosed) ∧
      ∀ machine : Machine, machine.BodiesSatisfy BodyClosed → machine.ControlSafe := by
  refine ⟨?_, fun machine closed => ?_⟩
  · rintro disk depthLimit body (⟨closure, found, -⟩ | ⟨object, found, -⟩) <;>
      cases Array.not_mem_empty _ found
  have leaves {α : Type} {steps : MachineM α} {scope : ScopeId}
      (follows : Follows CodeKind.wellFormed.body scope steps machine) :
      LeavesClosed steps machine :=
    (follows closed).bodiesSatisfy closed
  have follows := roomFollows CodeKind.wellFormed
  exact {
    evaluate := fun context room _ formed => leaves ((follows room).evaluate context formed machine)
    execute := fun context room _ _ formed =>
      leaves ((follows room).execute context ⟨_, formed⟩ machine)
    call := fun runner room callee arguments =>
      leaves ((follows room).callValue 0 runner callee arguments machine)
    job := fun room job => leaves ((follows room).callJob 0 job machine)
    environment := fun settings entropy =>
      leaves (openEnvironment_follows 0 settings entropy machine)
    session := fun moduleRoot scope source file =>
      leaves (runSource_follows CodeKind.wellFormed moduleRoot scope source file machine)
    host := fun callee arguments =>
      leaves (callFromHost_follows CodeKind.wellFormed 0 callee arguments machine)
    release := fun scope => leaves (releaseEnvironment_follows 0 scope machine)
    body := fun run holds => run.contained_of_closed (closed run.body holds)
    text := fun read run same =>
      run.contained_of_closed (same ▸ Program.ofSource_wellFormed read)
    closure := by
      intro runner room id arguments value after call
      obtain ⟨closure, run, completion, ended, found, same, runs, rfl⟩ := callClosure_runs call
      have held : BodyClosed run.body := by
        rw [same]
        exact closed _ (.inl ⟨closure, Array.mem_of_getElem? found, rfl⟩)
      exact ⟨run, completion, ended, run.contained_of_closed held, by simp [found, same], runs, rfl⟩
    module := by
      intro room body unit runner arguments value after holds call
      obtain ⟨run, completion, rfl, runs, rfl⟩ := runModule_runs call
      exact ⟨run, completion, run.contained_of_closed (closed _ holds), rfl, runs, rfl⟩
    load := by
      intro context room span path completion after ends
      obtain ⟨program, run, ended, ⟨_, _, _, read⟩, same, runs, rfl⟩ := load_runs ends
      have formed : BodyClosed run.body := same ▸ Program.ofSource_wellFormed read
      exact ⟨run, ended, run.contained_of_closed formed, runs, rfl⟩
    program := by
      intro room source file program read runner unit scope value after runs
      obtain ⟨run, completion, same, bodyRuns, rfl⟩ := runProgram_runs runs
      have formed : BodyClosed run.body := same ▸ Program.ofSource_wellFormed read
      exact ⟨run, completion, run.contained_of_closed formed, same, bodyRuns, rfl⟩ }

/-- A function that leaves a loop and returns: the machine that holds it contains its control
flow. -/
theorem control_flow_contained_function :
    let start : Machine := { disk := (FileTree.directory []).disk "/", depthLimit := 1 }
    let text := "fn f() \x7b while (true) \x7b break; \x7d return 1; \x7d f()"
    let last := endState (runSource none 0 text none start)
    last.store.closures.size = 1 ∧ last.ControlSafe := by
  intro start text last
  have safe : start.ControlSafe :=
    control_flow_contained.2 start (control_flow_contained.1 _ _)
  have closed : last.BodiesSatisfy BodyClosed := safe.session none 0 _ none
  have held : last.store.closures.size = 1 := by decide +kernel
  exact ⟨held, control_flow_contained.2 last closed⟩

end Scriptlet
