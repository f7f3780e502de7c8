import Scriptlet.Proofs.Evaluator.Steady
import Scriptlet.Session

/-!
# The discipline of evaluation

Code of a kind that a discipline allows stays within the discipline: evaluated in any stage of a
timetable, it keeps the store in order and fails only as code may fail.  The proof is an induction
on the room on the stack, with one step for each form of code.
-/

namespace Scriptlet

/-- A kind of code that a discipline allows: with all its parts in it, and with every program that
can be read if the code may load modules. -/
structure Discipline.Code (D : Discipline) where
  expression : Expr → Prop
  statement : Stmt → Prop
  /-- Whether the code may load modules. -/
  loads : Prop
  opens : D.Open
  part : ∀ {whole part}, expression whole → part ∈ whole.parts → expression part
  function : ∀ {span params statements}, expression (.function span params statements) →
    D.body statements
  operand : ∀ {whole part}, statement whole → part ∈ whole.expressions → expression part
  inner : ∀ {whole part}, statement whole → part ∈ whole.parts → statement part
  named : ∀ {span name params statements}, statement (.function span name params statements) →
    D.body statements
  member : ∀ {statements part}, D.body statements → part ∈ statements → statement part
  loaded : ∀ {span path}, expression (.load span path) → loads
  ran : ∀ {span path}, statement (.load span path) → loads
  program : loads → ∀ {room source file program},
    Program.ofSource room source file = .ok program → D.body program.body
  missing : loads → D.fault missingDirectory
  invalidPath : loads → ∀ path, D.fault (unreadableModule path .invalidPath)

/-- All code, for a discipline that says nothing of code and its faults. -/
def Discipline.Code.any {D : Discipline} [opens : D.Open]
    (body : ∀ statements, D.body statements) (fault : ∀ failure, D.fault failure) : D.Code where
  expression := fun _ => True
  statement := fun _ => True
  loads := True
  opens := opens
  part := fun _ _ => trivial
  function := fun _ => body _
  operand := fun _ _ => trivial
  inner := fun _ _ => trivial
  named := fun _ => body _
  member := fun _ _ => trivial
  loaded := fun _ => trivial
  ran := fun _ => trivial
  program := fun _ _ _ _ _ _ => body _
  missing := fun _ => fault _
  invalidPath := fun _ _ => fault _

variable {D : Discipline} {code : D.Code} {T : Timetable D.drives} {room : Nat}

/-- Everything that takes the given room stays within the discipline. -/
structure RoomSteady (code : D.Code) (T : Timetable D.drives) (room : Nat) : Prop where
  evaluate : ∀ (stage : T.Stage) (context : Context) {expression : Expr},
    code.expression expression →
      SteadyRun D (T.agenda stage) D.fault (evaluate context room expression)
  construct : ∀ (stage : T.Stage) (context : Context) (className : String) {arguments : List Expr},
    (∀ argument ∈ arguments, code.expression argument) →
      SteadyRun D (T.agenda stage) D.fault (construct context room className arguments)
  execute : ∀ (stage : T.Stage) (context : Context) {statement : Stmt},
    code.statement statement → SteadyRun D (T.agenda stage) D.fault (execute context room statement)
  callValue : ∀ (stage : T.Stage) (runner : RunnerId) (callee : Value) (arguments : List Value),
    SteadyRun D (T.agenda stage) D.fault (callValue runner room callee arguments)
  callClosure : ∀ (stage : T.Stage) (runner : RunnerId) (id : ClosureId) (arguments : List Value),
    SteadyRun D (T.agenda stage) D.fault (callClosure runner room id arguments)
  perform : ∀ (stage : T.Stage) {action : Action}, D.action action → ∀ arguments : List Value,
    SteadyRun D (T.agenda stage) D.failure (perform room action arguments)
  runModule : ∀ (stage : T.Stage) {body : List Stmt}, D.body body →
    ∀ (unit : UnitId) (runner : RunnerId) (arguments : List Value),
      SteadyRun D (T.agenda stage) D.failure (runModule room body unit runner arguments)
  callBack : ∀ (stage : T.Stage) (id : ClosureId) (arguments : List Value),
    SteadyRun D (T.agenda stage) D.fault (callBack room id arguments)
  callJob :
    ∀ (stage : T.Stage) (job : Job), SteadyRun D (T.agenda stage) D.failure (callJob room job)

section Rooms

variable {stage : T.Stage}

/-- The statements of a body stay within the discipline. -/
theorem body_steady (lower : RoomSteady code T room) (context : Context) {body : List Stmt}
    (allowed : D.body body) :
    SteadyRun D (T.agenda stage) D.fault (sequence (execute context room) body .absent) :=
  sequence_steady body (fun _ found => lower.execute stage context (code.member allowed found))
    .absent

theorem evaluate_steady (lower : ∀ less < room, RoomSteady code T less) (context : Context)
    {expression : Expr} (allowed : code.expression expression) :
    SteadyRun D (T.agenda stage) D.fault (evaluate context room expression) := by
  match room, lower with
  | 0, _ | 1, _ | 2, _ | 3, _ | 4, _ => exact .throw D.exhausted
  | room + 5, lower =>
      refine locating_steady code.opens (T.restates stage) ?_
      have two := lower (room + 2) (by omega)
      have part {inner : Expr} (found : inner ∈ expression.parts) :
          SteadyRun D (T.agenda stage) D.fault (evaluate context (room + 2) inner) :=
        two.evaluate stage context (code.part allowed found)
      cases expression with
      | number | text | bool => exact .pure
      | name span id => exact resolve_steady _ _ _
      | binary span left operator right =>
          refine .bind (part (by simp [Expr.parts])) fun first => ?_
          split
          · refine .bind (part (by simp [Expr.parts])) fun second => ?_
            exact .onStore (operate_steady _ _ _ first second)
          · refine .bind .isTruthy fun _ => .choosing (fun _ => .pure) fun _ => ?_
            refine .bind (part (by simp [Expr.parts])) fun second => ?_
            exact .bind .isTruthy fun _ => .pure
      | unary span operator operand =>
          refine .bind (part (by simp [Expr.parts])) fun value => ?_
          cases operator with
          | negate =>
              cases value with
              | number => exact .pure
              | _ => exact .throw (D.misuse _)
          | not => exact .bind .isTruthy fun _ => .pure
      | assign span target value =>
          cases target with
          | name place id =>
              refine .bind (part (by simp [Expr.parts])) fun value => ?_
              exact .bind (.modify fun _ => rfl) fun _ => .pure
          | member place object field =>
              refine .bind (part (by simp [Expr.parts])) fun receiver => ?_
              refine .bind (part (by simp [Expr.parts])) fun value => ?_
              exact .bind (.onStore (writeMember_steady _ receiver field value)) fun _ => .pure
      | call span callee arguments =>
          have calleePart := code.part allowed List.mem_cons_self
          have values : SteadyRun D (T.agenda stage) D.fault
              (arguments.mapM (evaluate context (room + 1))) :=
            .mapM arguments fun item found => (lower (room + 1) (by omega)).evaluate stage context
              (code.part allowed (List.mem_cons_of_mem _ found))
          cases callee with
          | member place object field =>
              refine .bind (two.evaluate stage context (code.part calleePart List.mem_cons_self))
                fun receiver => ?_
              refine .bindStore (readMember_steady _ receiver field) fun found allowed => ?_
              refine .bind values fun items => ?_
              cases found with
              | value callee => exact two.callValue stage _ callee items
              | method method =>
                  exact callingHost_steady code.opens
                    (.onStore (methodEntry_steady _ allowed receiver items))
          | _ =>
              refine .bind (two.evaluate stage context calleePart) fun callee => ?_
              exact .bind values fun items => two.callValue stage _ callee items
      | member span object field =>
          refine .bind ((lower (room + 3) (by omega)).evaluate stage context
            (code.part allowed List.mem_cons_self)) fun receiver => ?_
          refine .onStore (.bind (readMember_steady _ receiver field) fun found allowed => ?_)
          exact memberValue_steady _ receiver allowed
      | index span object index =>
          refine .bind (part (by simp [Expr.parts])) fun receiver => ?_
          refine .bind (part (by simp [Expr.parts])) fun place => ?_
          exact .onStore (readIndex_steady _ receiver place)
      | array span elements =>
          refine .bind (.mapM elements fun item found => part found) fun items => ?_
          exact .onStore (addArray_steady items.toArray)
      | function span params body =>
          exact .onStore (addClosure_steady (code.function allowed))
      | load span path =>
          have loads := code.loaded allowed
          refine .bind (part (by simp [Expr.parts])) fun value => ?_
          refine .bind (checkModulePath_steady value) fun path => ?_
          refine .bindKnowing (loadModule_steady (code.missing loads) (code.invalidPath loads)
            _ _ path) ?_
          rintro ⟨program, unit⟩ ⟨machine, middle, run⟩
          obtain ⟨source, file, read⟩ := loadModule_read run
          exact .onStore (newModule_steady path _ _ (code.program loads read))
      | construct span className arguments =>
          exact (lower (room + 3) (by omega)).construct stage context className fun _ found =>
            code.part allowed found

theorem construct_steady (lower : ∀ less < room, RoomSteady code T less) (context : Context)
    (className : String) {arguments : List Expr}
    (allowed : ∀ argument ∈ arguments, code.expression argument) :
    SteadyRun D (T.agenda stage) D.fault (construct context room className arguments) := by
  match room, lower with
  | 0, _ | 1, _ => exact .throw D.exhausted
  | room + 2, lower =>
      refine .bind (resolve_steady _ _ _) fun callee => ?_
      refine .bind (checkConstructible_steady _ _ _) fun _ => ?_
      refine .bind (.mapM arguments fun item found =>
        (lower room (by omega)).evaluate stage context (allowed item found)) fun values => ?_
      exact (lower (room + 1) (by omega)).callValue stage _ callee values

theorem execute_steady (lower : ∀ less < room, RoomSteady code T less) (context : Context)
    {statement : Stmt} (allowed : code.statement statement) :
    SteadyRun D (T.agenda stage) D.fault (execute context room statement) := by
  match room, lower with
  | 0, _ | 1, _ | 2, _ | 3, _ | 4, _ => exact .throw D.exhausted
  | room + 5, lower =>
      refine locating_steady code.opens (T.restates stage) ?_
      have two := lower (room + 2) (by omega)
      have operand {less : Nat} (below : less < room + 5) {part : Expr}
          (found : part ∈ statement.expressions) :
          SteadyRun D (T.agenda stage) D.fault (evaluate context less part) :=
        (lower less below).evaluate stage context (code.operand allowed found)
      have inner {part : Stmt} (found : part ∈ statement.parts) (context : Context) :
          SteadyRun D (T.agenda stage) D.fault (execute context (room + 2) part) :=
        two.execute stage context (code.inner allowed found)
      cases statement with
      | declare span id initial =>
          cases initial with
          | none => exact .bind (.modify fun _ => rfl) fun _ => .pure
          | some initial =>
              refine .bind (operand (by omega) (by simp [Stmt.expressions])) fun value => ?_
              exact .bind (.modify fun _ => rfl) fun _ => .pure
      | expression span value =>
          exact .bind (operand (by omega) (by simp [Stmt.expressions])) fun _ => .pure
      | block span statements =>
          refine .bind (fun _ obeys => .ok obeys trivial) fun scope => ?_
          exact sequence_steady statements (fun _ found => inner found _) .absent
      | conditional span condition consequent alternate =>
          refine .bind (operand (by omega) (by simp [Stmt.expressions])) fun value => ?_
          refine .bind .isTruthy fun _ => .choosing (fun _ => ?_) fun _ => ?_
          · exact inner (by simp [Stmt.parts]) context
          · cases alternate with
            | none => exact .pure
            | some alternate => exact inner (by simp [Stmt.parts]) context
      | loop span condition body =>
          refine repeatWhile_steady ?_ (inner (by simp [Stmt.parts]) context) loopBound
          exact .bind (operand (by omega) (by simp [Stmt.expressions])) fun _ => .isTruthy
      | function span name params body =>
          refine .bind (.onStore (addClosure_steady (code.named allowed))) fun closure => ?_
          cases name with
          | none => exact .bind .pure fun _ => .pure
          | some id => exact .bind (.modify fun _ => rfl) fun _ => .pure
      | result span value =>
          cases value with
          | none => exact .pure
          | some value =>
              exact .bind (operand (by omega) (by simp [Stmt.expressions])) fun _ => .pure
      | leave | proceed => exact .pure
      | construct span className arguments =>
          refine .bind (two.construct stage context className fun _ found =>
            code.operand allowed found) fun instanceValue => ?_
          exact .bind (bindInstance_steady context span className instanceValue) fun _ => .pure
      | load span path =>
          have loads := code.ran allowed
          refine .bind (operand (by omega) (by simp [Stmt.expressions])) fun value => ?_
          refine .bind (checkModulePath_steady value) fun path => ?_
          refine .bindKnowing (loadModule_steady (code.missing loads) (code.invalidPath loads)
            _ _ path) ?_
          rintro ⟨program, unit⟩ ⟨machine, middle, run⟩
          obtain ⟨source, file, read⟩ := loadModule_read run
          exact .bind (body_steady (lower (room + 1) (by omega)) { context with unit := unit }
            (code.program loads read)) fun _ => .pure

theorem callValue_steady (lower : ∀ less < room, RoomSteady code T less) (runner : RunnerId)
    (callee : Value) (arguments : List Value) :
    SteadyRun D (T.agenda stage) D.fault (callValue runner room callee arguments) := by
  match room, lower with
  | 0, _ | 1, _ => exact .throw D.exhausted
  | room + 2, lower =>
      have one := lower (room + 1) (by omega)
      cases callee with
      | closure id => exact one.callClosure stage runner id arguments
      | host id =>
          refine .looking fun machine obeys => ?_
          split
          · rename_i found
            exact callingHost_steady code.opens (one.perform stage (obeys.action found) arguments)
          · exact refuseCall_steady _ _
      | _ => exact refuseCall_steady _ _

theorem callClosure_steady (lower : ∀ less < room, RoomSteady code T less) (runner : RunnerId)
    (id : ClosureId) (arguments : List Value) :
    SteadyRun D (T.agenda stage) D.fault (callClosure runner room id arguments) := by
  match room, lower with
  | 0, _ => exact .throw D.exhausted
  | room + 1, lower =>
      refine .looking fun machine obeys => ?_
      split
      · rename_i current closure _ found
        have allowed := obeys.closures closure (Array.mem_of_getElem? found)
        refine .choosing (fun _ => .throw (D.cause _)) fun _ => ?_
        refine .bind (fun _ obeys => .ok obeys trivial) fun scope => ?_
        refine .bind (.modify fun _ => rfl) fun _ => .bind (.andFinally ?_ (.modify fun _ => rfl))
          fun _ => .pure
        exact body_steady (lower room (by omega)) ⟨runner, closure.unit, scope⟩ allowed
      · exact refuseCall_steady _ _

theorem runModule_steady (lower : ∀ less < room, RoomSteady code T less) {body : List Stmt}
    (allowed : D.body body) (unit : UnitId) (runner : RunnerId) (arguments : List Value) :
    SteadyRun D (T.agenda stage) D.failure (runModule room body unit runner arguments) := by
  match room, lower with
  | 0, _ | 1, _ | 2, _ => exact .throw (D.weaken D.exhausted)
  | room + 3, lower =>
      refine .bind (.ofExcept (signature_fails D _ _)) fun _ => .looking fun machine _ => ?_
      refine .bind (fun _ obeys => .ok obeys trivial) fun scope => ?_
      refine .bind (.mono (guarded_steady ?_) fun _ fault => D.weaken fault.1) fun _ => .pure
      exact body_steady (lower room (by omega)) ⟨runner, unit, scope⟩ allowed

theorem callBack_steady (lower : ∀ less < room, RoomSteady code T less) (id : ClosureId)
    (arguments : List Value) :
    SteadyRun D (T.agenda stage) D.fault (callBack room id arguments) := by
  match room, lower with
  | 0, _ => exact .throw D.exhausted
  | room + 1, lower =>
      refine .looking fun machine _ => ?_
      split
      · exact (lower room (by omega)).callClosure stage _ id arguments
      · exact refuseCall_steady _ _

theorem callJob_steady (lower : ∀ less < room, RoomSteady code T less) (job : Job) :
    SteadyRun D (T.agenda stage) D.failure (callJob room job) := by
  match room, lower with
  | 0, _ => exact .throw (D.weaken D.exhausted)
  | room + 1, lower =>
      have one := lower room (by omega)
      unfold callJob
      split
      · exact (one.callBack stage _ _).weaken
      · refine .looking fun machine obeys => ?_
        split
        · rename_i found
          exact one.perform stage (obeys.action found) _
        · exact .throw (D.weaken (D.misuse _))
      · exact .throw (D.weaken (D.misuse _))

theorem perform_steady (lower : ∀ less < room, RoomSteady code T less) {action : Action}
    (allowed : D.action action) (arguments : List Value) :
    SteadyRun D (T.agenda stage) D.failure (perform room action arguments) := by
  match room, lower with
  | 0, _ => exact .throw (D.weaken D.exhausted)
  | room + 1, lower =>
      have one := lower room (by omega)
      cases action with
      | native operation => exact .onStore (native_steady room allowed arguments)
      | control operation =>
          cases operation with
          | join => exact joinJob_steady code.opens (D.driving allowed rfl) one.callJob arguments
          | sleep => exact sleepFor_steady code.opens (D.driving allowed rfl) one.callJob arguments
          | yield => exact yieldTurn_steady code.opens (D.driving allowed rfl) one.callJob arguments
          | apply => exact applyData_steady room (one.callBack stage) arguments
          | runModule body unit runner =>
              exact one.runModule stage (D.module.mp allowed) unit runner arguments

end Rooms

/-- Everything that is evaluated, executed or called stays within the discipline. -/
theorem roomSteady (code : D.Code) (T : Timetable D.drives) (room : Nat) :
    RoomSteady code T room := by
  induction room using Nat.strongRecOn with
  | ind room lower =>
      exact {
        evaluate := fun _ context _ allowed => evaluate_steady lower context allowed
        construct := fun _ context className _ allowed =>
          construct_steady lower context className allowed
        execute := fun _ context _ allowed => execute_steady lower context allowed
        callValue := fun _ => callValue_steady lower
        callClosure := fun _ => callClosure_steady lower
        perform := fun _ _ allowed => perform_steady lower allowed
        runModule := fun _ _ allowed => runModule_steady lower allowed
        callBack := fun _ => callBack_steady lower
        callJob := fun _ => callJob_steady lower }

/-! ## Runs -/

section Runs

variable {stage : T.Stage}

theorem runProgram_steady (code : D.Code) (runner : RunnerId) (unit : UnitId) (scope : ScopeId)
    {program : Program} (allowed : D.body program.body) :
    SteadyRun D (T.agenda stage) D.wholly (runProgram runner unit scope program) := by
  refine .looking fun machine _ => .bind (guarded_steady ?_) fun _ => .pure
  exact body_steady (roomSteady code T _) ⟨runner, unit, scope⟩ allowed

/-- A text whose program is of the allowed kind is run within the discipline. -/
theorem runSource_keeps (code : D.Code) (moduleRoot : Option String) (scope : ScopeId)
    {source : String} {file : Option String} (machine : Machine)
    (allowed : ∀ program,
      Program.ofSource (stackRoom machine.depthLimit) source file = .ok program →
      D.body program.body) :
    Keeps (fun machine => machine.store.Obeys D (T.agenda stage).holds) D.wholly (fun _ => True)
      (runSource moduleRoot scope source file) machine := by
  have adding (runner : Runner) :
      SteadyRun D (T.agenda stage) D.wholly (Machine.addRunner runner) :=
    fun _ obeys => .ok obeys trivial
  have counting : SteadyRun D (T.agenda stage) D.wholly Machine.addUnit :=
    fun _ obeys => .ok obeys trivial
  have reading : SteadyRun D (T.agenda stage) D.wholly (readProgram source file) :=
    .looking fun _ _ => guarded_steady (.ofExcept fun failure refused => by
      rcases ofSource_fails _ _ _ failure refused with ⟨error, rfl⟩ | rfl
      · exact code.opens.script error
      · exact D.exhausted)
  refine .bind (adding _ machine) fun runner added ran _ => ?_
  cases ran
  refine .bind (reading _) fun program read run _ => ?_
  obtain ⟨_, _, looked, run⟩ := bind_ok run
  cases looked
  have formed := allowed program (ofExcept_ok (mapFault_ok_iff.mp run))
  refine .bind (counting read) fun unit counted _ _ => ?_
  exact runProgram_steady code _ unit scope formed counted

theorem callFromHost_steady (code : D.Code) (callee : Value) (arguments : List Value) :
    SteadyRun D (T.agenda stage) D.failure (callFromHost callee arguments) := by
  refine .looking fun machine obeys => ?_
  cases callee with
  | closure id =>
      refine .weaken (.bind ((roomSteady code T _).callBack stage id arguments) fun value => ?_)
      refine .checking (fun store _ => unwrap_fails D store _ value) fun _ _ unwrapped => ?_
      exact .bind (.onStore (wrap_steady (unwrap_data D unwrapped))) fun _ => .pure
  | host id =>
      dsimp only
      split
      · rename_i found
        exact .bind ((roomSteady code T _).perform stage (obeys.action found) arguments)
          fun _ => .pure
      · exact .pure
  | _ => exact .pure

/-- The schedule may be closed while the agenda allows it. -/
theorem closeSchedule_steady {A : Agenda} {fault : Fault → Prop}
    (closed : ∀ {schedule entries}, A.holds schedule entries →
      A.holds schedule.close (entries ++ [jobEntry "task loop closed"])) :
    SteadyRun D A fault (Machine.onStore closeSchedule) := by
  intro machine
  refine .onStore (.looking (.choosing (fun _ obeys => ?_) fun _ => .pure trivial))
  exact .ok (obeys.reschedule (closed obeys.jobs) (machine.store.jobEntries_push _)
    (failures_close obeys.failures)) trivial

theorem releaseEnvironment_steady {fault : Fault → Prop} (idle : T.idle stage) (scope : ScopeId) :
    SteadyRun D (T.agenda stage) fault (releaseEnvironment scope) := by
  refine .looking fun machine _ => ?_
  dsimp only
  split
  · exact .choosing (fun _ => closeSchedule_steady (T.closed idle)) fun _ => .pure
  · exact .pure

end Runs

end Scriptlet
