import Scriptlet.Proofs.Machine.Course
import Scriptlet.Evaluator

/-!
# Courses of evaluation

Whatever is evaluated, executed or called takes the machine along a course.  Code that runs in a
scope follows a course of that scope; a call runs in scopes of its own, so it follows a course of
every scope.  The bodies of functions and modules stay of the kind that all code is of.
-/

namespace Scriptlet

/-! ## Kinds of code -/

/-- The expressions that are evaluated as parts of an expression. -/
def Expr.parts : Expr → List Expr
  | .binary _ left _ right => [left, right]
  | .unary _ _ operand => [operand]
  | .assign _ (.name _ _) value => [value]
  | .assign _ (.member _ object _) value => [object, value]
  | .call _ callee arguments => callee :: arguments
  | .member _ object _ => [object]
  | .index _ object place => [object, place]
  | .array _ elements => elements
  | .load _ path => [path]
  | .construct _ _ arguments => arguments
  | _ => []

/-- The expressions that are evaluated as parts of a statement. -/
def Stmt.expressions : Stmt → List Expr
  | .declare _ _ initial => initial.toList
  | .expression _ value => [value]
  | .conditional _ condition _ _ => [condition]
  | .loop _ condition _ => [condition]
  | .result _ value => value.toList
  | .construct _ _ arguments => arguments
  | .load _ path => [path]
  | _ => []

/-- The statements that are executed as parts of a statement. -/
def Stmt.parts : Stmt → List Stmt
  | .block _ statements => statements
  | .conditional _ _ consequent alternate => consequent :: alternate.toList
  | .loop _ _ body => [body]
  | _ => []

/-- A kind of code that has all its parts in it, and every program that can be read. -/
structure CodeKind where
  expression : Expr → Prop
  statement : Stmt → Prop
  /-- The bodies of functions, modules and programs. -/
  body : List Stmt → Prop
  part : ∀ {whole part}, expression whole → part ∈ whole.parts → expression part
  function : ∀ {span params statements}, expression (.function span params statements) →
    body statements
  operand : ∀ {whole part}, statement whole → part ∈ whole.expressions → expression part
  inner : ∀ {whole part}, statement whole → part ∈ whole.parts → statement part
  named : ∀ {span name params statements}, statement (.function span name params statements) →
    body statements
  member : ∀ {statements part}, body statements → part ∈ statements → statement part
  program : ∀ {room source file program}, Program.ofSource room source file = .ok program →
    body program.body

variable {α : Type} {kind : List Stmt → Prop} {scope : ScopeId} {machine : Machine}

/-! ## Errors -/

theorem locateFault_follows (runner : RunnerId) (span : Span) (fault : Fault)
    (machine : Machine) : Follows kind scope (locateFault runner span fault) machine := by
  unfold locateFault
  split
  · split
    · exact .pure
    · refine .looking ?_
      dsimp only
      split
      · exact .bind (.onStore (changeSchedule_alters _)) fun _ _ _ => .pure
      · exact .bind .pure fun _ _ _ => .pure
  · exact .pure

theorem locating_follows {runner : RunnerId} {span : Span} {steps : MachineM α}
    (follows : Follows kind scope steps machine) :
    Follows kind scope (locating runner span steps) machine :=
  .mapFault follows fun fault middle => locateFault_follows runner span fault middle

theorem guarded_follows {steps : MachineM α} (follows : Follows kind scope steps machine) :
    Follows kind scope (guarded steps) machine := by
  refine .mapFault follows fun fault middle => ?_
  split
  · exact .looking .pure
  · exact .pure

theorem callingHost_follows {function : String} {steps : MachineM α}
    (follows : Follows kind scope steps machine) :
    Follows kind scope (callingHost function steps) machine :=
  .mapFault follows fun _ _ => .pure

/-! ## Sequences and loops -/

theorem sequence_follows {step : Stmt → MachineM Completion} (statements : List Stmt)
    (each : ∀ statement ∈ statements, ∀ machine, Follows kind scope (step statement) machine)
    (last : Value) (machine : Machine) :
    Follows kind scope (sequence step statements last) machine := by
  induction statements generalizing last machine with
  | nil => exact .pure
  | cons statement rest ih =>
      refine .bind (each statement (List.mem_cons_self ..) machine) fun completion middle _ => ?_
      cases completion with
      | normal value =>
          exact ih (fun other found => each other (List.mem_cons_of_mem _ found)) value middle
      | result | leave | proceed => exact .pure

theorem repeatWhile_follows {condition : MachineM Bool} {body : MachineM Completion}
    (test : ∀ machine, Follows kind scope condition machine)
    (round : ∀ machine, Follows kind scope body machine) (bound : Nat) (machine : Machine) :
    Follows kind scope (repeatWhile condition body bound) machine := by
  induction bound generalizing machine with
  | zero => exact .throw
  | succ bound ih =>
      refine .bind (test machine) fun holds middle _ => .choosing ?_ .pure
      refine .bind (round middle) fun completion after _ => ?_
      cases completion with
      | normal value => exact ih after
      | proceed => exact ih after
      | result | leave => exact .pure

/-! ## Names and modules -/

theorem segmentOf_alters (room : Nat) (name : String) (value : Value) (segment : String) :
    Alters (segmentOf room name value segment) := by
  unfold segmentOf
  split
  · exact .throw _
  · refine .bind (member?_alters value segment) fun found => ?_
    split
    · exact memberValue_alters room value _
    · exact .throw _

theorem lookupName_follows (room : Nat) (start : ScopeId) (levels : Nat) (name : String)
    (machine : Machine) : Follows kind scope (lookupName room start levels name) machine := by
  induction levels generalizing name machine with
  | zero => exact .throw
  | succ levels ih =>
      refine .looking ?_
      split
      · exact .pure
      · split
        · exact .bind (ih _ machine) fun _ _ _ => .asking
        · split
          · refine .bind (ih _ machine) fun value _ _ => .onStore ?_
            exact .foldlM (fun value segment => segmentOf_alters room name value segment) _ value
          · exact .throw

theorem resolve_follows (room : Nat) (start : ScopeId) (name : String) (machine : Machine) :
    Follows kind scope (resolve room start name) machine :=
  lookupName_follows room start 3 name machine

theorem checkModulePath_follows (value : Value) (machine : Machine) :
    Follows kind scope (checkModulePath value) machine := by
  unfold checkModulePath
  split
  · exact .pure
  · exact .throw

theorem requireDirectory_follows (disk : Disk) (root : Option String) (path : String)
    (machine : Machine) : Follows kind scope (requireDirectory disk root path) machine := by
  unfold requireDirectory
  split
  · exact .throw
  · exact .pure

theorem readModule_follows (room : Nat) (runner : RunnerId) (path file source : String)
    (machine : Machine) : Follows kind scope (readModule room runner path file source) machine := by
  unfold readModule
  split
  · exact .throw
  · refine .bind (.modify (.runner scope _ runner _)) fun _ counted _ => ?_
    exact .bind (fun _ => .unit scope counted) fun _ _ _ => .pure

theorem loadModule_follows (room : Nat) (runner : RunnerId) (path : String) (machine : Machine) :
    Follows kind scope (loadModule room runner path) machine := by
  refine .looking (.bind (requireDirectory_follows _ _ path machine) fun _ _ _ => ?_)
  refine .bind (.onStore (note_alters _ _ _)) fun _ noted _ => ?_
  refine .bind (.modify (.consulted scope noted _)) fun _ _ _ => ?_
  split
  · exact .throw
  · exact readModule_follows _ _ path _ _ _

theorem readModule_ok {room : Nat} {runner : RunnerId} {path file source : String}
    {program : Program} {unit : UnitId} {before after : Machine}
    (run : readModule room runner path file source before = .ok (program, unit) after) :
    Program.ofSource room source (some file) = .ok program := by
  unfold readModule at run
  generalize Program.ofSource room source _ = parsed at run
  cases parsed with
  | error fault => cases run
  | ok parsed =>
      obtain ⟨_, _, -, run⟩ := bind_ok run
      obtain ⟨_, _, -, run⟩ := bind_ok run
      cases run
      rfl

/-- What is loaded as a module has been read from a text. -/
theorem loadModule_read {room : Nat} {runner : RunnerId} {path : String} {program : Program}
    {unit : UnitId} {before after : Machine}
    (run : loadModule room runner path before = .ok (program, unit) after) :
    ∃ source file, Program.ofSource room source file = .ok program := by
  obtain ⟨_, _, looked, run⟩ := bind_ok run
  cases looked
  obtain ⟨_, _, -, run⟩ := bind_ok run
  obtain ⟨_, _, -, run⟩ := bind_ok run
  obtain ⟨_, _, -, run⟩ := bind_ok run
  generalize before.disk.readText _ = text at run
  cases text with
  | error failure => cases run
  | ok source => exact ⟨source, _, readModule_ok run⟩

theorem newModule_follows (path : String) {body : List Stmt} (unit : UnitId) (runner : RunnerId)
    (allowed : kind body) (machine : Machine) :
    Follows kind scope (Machine.onStore (newModule path body unit runner)) machine := by
  intro _
  refine .trans
    (.newObject scope machine (.function "run" (.control (.runModule body unit runner))) ?_)
    (.newObject scope _ (.loaded path machine.store.objects.size)
      (by simp [HostObject.moduleBodies]))
  simpa [HostObject.moduleBodies, Action.moduleBodies] using allowed

/-! ## Calls -/

theorem refuseCall_follows (room : Nat) (callee : Value) (machine : Machine) :
    Follows kind scope (refuseCall room callee : MachineM α) machine :=
  .bind .asking fun _ _ _ => .throw

theorem checkConstructible_follows (room : Nat) (className : String) (callee : Value)
    (machine : Machine) :
    Follows kind scope (checkConstructible room className callee) machine :=
  .looking (.choosing .pure (.bind .asking fun _ _ _ => .throw))

theorem bindInstance_run (context : Context) (span : Span) (className : String)
    (instanceValue : Value) (machine : Machine) :
    bindInstance context span className instanceValue machine =
      .ok () (if (context.unit, span.start.offset) ∈ machine.constructed then machine
        else { machine with
          scopes := machine.scopes.define context.scope className instanceValue
          constructed := (context.unit, span.start.offset) :: machine.constructed }) := by
  unfold bindInstance
  refine (bind_of_ok rfl).trans ?_
  by_cases marked : (context.unit, span.start.offset) ∈ machine.constructed
  · rw [if_pos marked, if_neg (by simp [marked])]
    rfl
  · rw [if_neg marked, if_pos (by simp [marked])]
    rfl

theorem bindInstance_follows (context : Context) (span : Span) (className : String)
    (instanceValue : Value) (machine : Machine) :
    Follows kind context.scope (bindInstance context span className instanceValue) machine := by
  refine .looking (.choosing ?_ .pure)
  refine .bind (.modify (.define context.scope machine className instanceValue)) ?_
  intro _ middle _
  exact .modify (.constructed context.scope middle _)

/-! ## Jobs -/

theorem takeReady_alters : Alters takeReady :=
  fun store => .single (.schedule store _)

section Rounds

variable {start : Nat → MachineM Unit}

theorem runRound_follows (each : ∀ number machine, Follows kind scope (start number) machine)
    (machine : Machine) : Follows kind scope (runRound start) machine :=
  .bind (.onStore takeReady_alters) fun ready middle _ =>
    .forM ready (fun number _ machine => each number machine) middle

theorem runRounds_follows (each : ∀ number machine, Follows kind scope (start number) machine)
    (count : Nat) (machine : Machine) : Follows kind scope (runRounds start count) machine := by
  induction count generalizing machine with
  | zero => exact .pure
  | succ count ih => exact .bind (runRound_follows each machine) fun _ middle _ => ih middle

theorem drain_follows (each : ∀ number machine, Follows kind scope (start number) machine)
    (bound : Nat) (machine : Machine) : Follows kind scope (drain start bound) machine := by
  induction bound generalizing machine with
  | zero => exact .pure
  | succ bound ih =>
      refine .looking (.choosing .pure ?_)
      exact .bind (runRound_follows each machine) fun _ middle _ => ih middle

theorem joinJob_follows (each : ∀ number machine, Follows kind scope (start number) machine)
    (arguments : List Value) (machine : Machine) :
    Follows kind scope (joinJob start arguments) machine := by
  refine .bind .ofExcept fun _ _ _ => .bind .asking fun number asked _ => .looking ?_
  refine .choosing .throw ?_
  split
  · exact .throw
  · refine .choosing .throw (.bind (.onStore openSchedule_alters) fun _ opened _ => ?_)
    refine .bind (runRounds_follows each _ opened) fun _ ended _ => .looking ?_
    split
    · unfold resultOf
      split
      · exact .pure
      · exact .throw
      · exact .throw
    · exact .throw

theorem sleepInside_alters (milliseconds : Float) : Alters (sleepInside milliseconds) :=
  .choosing (.throw _) (advanceClock_alters milliseconds)

theorem sleepFor_follows (each : ∀ number machine, Follows kind scope (start number) machine)
    (arguments : List Value) (machine : Machine) :
    Follows kind scope (sleepFor start arguments) machine := by
  refine .bind .ofExcept fun _ checked _ => ?_
  split
  · refine .looking (.choosing ?_ ?_)
    · exact .bind (.onStore (sleepInside_alters _)) fun _ _ _ => .pure
    · refine .bind (.onStore openSchedule_alters) fun _ opened _ => .choosing ?_ ?_
      · refine .bind (drain_follows each _ opened) fun _ _ _ => ?_
        exact .bind (.onStore (advanceClock_alters _)) fun _ _ _ => .pure
      · exact .bind (runRounds_follows each 3 opened) fun _ _ _ => .pure
  · exact .throw

theorem yieldTurn_follows (each : ∀ number machine, Follows kind scope (start number) machine)
    (arguments : List Value) (machine : Machine) :
    Follows kind scope (yieldTurn start arguments) machine := by
  refine .bind .ofExcept fun _ checked _ => .looking (.choosing ?_ .pure)
  refine .bind (.onStore openSchedule_alters) fun _ opened _ => ?_
  exact .bind (runRounds_follows each 3 opened) fun _ _ _ => .pure

end Rounds

theorem runJob_follows (number : Nat) {body : MachineM Value}
    (follows : ∀ machine, Follows kind scope body machine) (machine : Machine) :
    Follows kind scope (runJob number body) machine := by
  have started : Alters (do
      noteJobs s!"task {number} started"
      changeSchedule fun schedule =>
        { schedule.setState number (.running false) with active := schedule.active + 1 }) :=
    .bind (note_alters _ _ _) fun _ => changeSchedule_alters _
  have finished : Alters (do
      changeSchedule fun schedule => { schedule with active := schedule.active - 1 }
      noteJobs s!"task {number} finished") :=
    .bind (changeSchedule_alters _) fun _ => note_alters _ _ _
  refine .bind (.onStore started) fun _ begun _ satisfied => ?_
  have course := follows begun satisfied
  cases outcome : body begun <;>
  · rw [outcome] at course
    refine .trans course ?_
    exact Follows.bind (.onStore finished) (fun _ _ _ => .onStore (changeSchedule_alters _))
      (course.bodiesSatisfy satisfied)

theorem startJob_follows {body : Job → MachineM Value}
    (follows : ∀ job machine, Follows kind scope (body job) machine) (number : Nat)
    (machine : Machine) : Follows kind scope (startJob body number) machine := by
  refine .looking ?_
  split
  · exact .pure
  · split
    · exact .onStore (changeSchedule_alters _)
    · exact runJob_follows number (follows _) machine
    · exact .pure

theorem applyData_follows {call : ClosureId → List Value → MachineM Value} (room : Nat)
    (follows : ∀ id arguments machine, Follows kind scope (call id arguments) machine)
    (arguments : List Value) (machine : Machine) :
    Follows kind scope (applyData room call arguments) machine := by
  refine .bind .asking fun data asked _ => .bind .ofExcept fun _ checked _ => ?_
  split
  · refine .bind (.onStore (wrapAll_alters _)) fun values wrapped _ => ?_
    refine .bind (follows _ values wrapped) fun _ _ _ => .bind .asking fun result _ _ => ?_
    exact .onStore (wrap_alters result)
  · exact .looking .throw

/-! ## Evaluation -/

/-- Everything that takes the given room follows a course. -/
structure RoomFollows (code : CodeKind) (room : Nat) : Prop where
  evaluate : ∀ (context : Context) {expression : Expr}, code.expression expression →
    ∀ machine, Follows code.body context.scope (evaluate context room expression) machine
  construct : ∀ (context : Context) (className : String) {arguments : List Expr},
    (∀ argument ∈ arguments, code.expression argument) →
    ∀ machine, Follows code.body context.scope (construct context room className arguments) machine
  execute : ∀ (context : Context) {statement : Stmt}, code.statement statement →
    ∀ machine, Follows code.body context.scope (execute context room statement) machine
  callValue : ∀ (scope : ScopeId) (runner : RunnerId) (callee : Value) (arguments : List Value)
    (machine : Machine), Follows code.body scope (callValue runner room callee arguments) machine
  callClosure : ∀ (scope : ScopeId) (runner : RunnerId) (id : ClosureId) (arguments : List Value)
    (machine : Machine), Follows code.body scope (callClosure runner room id arguments) machine
  perform : ∀ (scope : ScopeId) {action : Action}, (∀ body ∈ action.moduleBodies, code.body body) →
    ∀ (arguments : List Value) (machine : Machine),
      Follows code.body scope (perform room action arguments) machine
  runModule : ∀ (scope : ScopeId) {body : List Stmt}, code.body body →
    ∀ (unit : UnitId) (runner : RunnerId) (arguments : List Value) (machine : Machine),
      Follows code.body scope (runModule room body unit runner arguments) machine
  callBack : ∀ (scope : ScopeId) (id : ClosureId) (arguments : List Value) (machine : Machine),
    Follows code.body scope (callBack room id arguments) machine
  callJob : ∀ (scope : ScopeId) (job : Job) (machine : Machine),
    Follows code.body scope (callJob room job) machine

section Rooms

variable {code : CodeKind} {room : Nat}

theorem evaluate_follows (lower : ∀ less < room, RoomFollows code less) (context : Context)
    {expression : Expr} (allowed : code.expression expression) (machine : Machine) :
    Follows code.body context.scope (evaluate context room expression) machine := by
  match room, lower with
  | 0, _ | 1, _ | 2, _ | 3, _ | 4, _ => exact .throw
  | room + 5, lower =>
      refine locating_follows ?_
      have two := lower (room + 2) (by omega)
      have part {inner : Expr} (found : inner ∈ expression.parts) (machine : Machine) :
          Follows code.body context.scope (evaluate context (room + 2) inner) machine :=
        two.evaluate context (code.part allowed found) machine
      cases expression with
      | number | text | bool => exact .pure
      | name span id => exact resolve_follows _ _ _ _
      | binary span left operator right =>
          refine .bind (part (by simp [Expr.parts]) machine) fun first middle _ => ?_
          split
          · refine .bind (part (by simp [Expr.parts]) middle) fun second after _ => ?_
            exact .onStore (operate_alters _ _ _ first second)
          · refine .bind .isTruthy fun _ tested _ => .choosing .pure ?_
            refine .bind (part (by simp [Expr.parts]) tested) fun second after _ => ?_
            exact .bind .isTruthy fun _ _ _ => .pure
      | unary span operator operand =>
          refine .bind (part (by simp [Expr.parts]) machine) fun value middle _ => ?_
          cases operator with
          | negate => exact .ofExcept
          | not => exact .bind .isTruthy fun _ _ _ => .pure
      | assign span target value =>
          cases target with
          | name place id =>
              refine .bind (part (by simp [Expr.parts]) machine) fun value middle _ => ?_
              refine .bind (.modify (.assign context.scope middle id value)) fun _ _ _ => .pure
          | member place object field =>
              refine .bind (part (by simp [Expr.parts]) machine) fun receiver middle _ => ?_
              refine .bind (part (by simp [Expr.parts]) middle) fun value after _ => ?_
              exact .bind (.onStore (writeMember_alters _ receiver field value)) fun _ _ _ => .pure
      | call span callee arguments =>
          have calleePart := code.part allowed (List.mem_cons_self ..)
          have values (machine : Machine) : Follows code.body context.scope
              (arguments.mapM (evaluate context (room + 1))) machine :=
            .mapM arguments (fun item found => (lower (room + 1) (by omega)).evaluate context
              (code.part allowed (List.mem_cons_of_mem _ found))) machine
          cases callee with
          | member place object field =>
              refine .bind (two.evaluate context (code.part calleePart (List.mem_cons_self ..))
                machine) fun receiver middle _ => ?_
              refine .bind (.onStore (readMember_alters _ receiver field)) fun found after _ => ?_
              refine .bind (values after) fun items last _ => ?_
              cases found with
              | value callee => exact two.callValue _ _ callee items last
              | method method =>
                  exact callingHost_follows (.onStore (methodEntry_alters _ method receiver items))
          | _ =>
              refine .bind (two.evaluate context calleePart machine) fun callee middle _ => ?_
              refine .bind (values middle) fun items last _ => ?_
              exact two.callValue _ _ callee items last
      | member span object field =>
          refine .bind ((lower (room + 3) (by omega)).evaluate context
            (code.part allowed (List.mem_cons_self ..)) machine) fun receiver middle _ => ?_
          refine .onStore (.bind (readMember_alters _ receiver field) fun found => ?_)
          exact memberValue_alters _ receiver found
      | index span object index =>
          refine .bind (part (by simp [Expr.parts]) machine) fun receiver middle _ => ?_
          refine .bind (part (by simp [Expr.parts]) middle) fun place after _ => ?_
          exact .onStore (readIndex_alters _ receiver place)
      | array span elements =>
          refine .bind (.mapM elements (fun item found => part found) machine) fun items _ _ => ?_
          exact .onStore (addArray_alters items.toArray)
      | function span params body =>
          exact fun _ => .newClosure machine
            ⟨none, params, body, context.scope, context.unit, context.runner⟩
            (code.function allowed)
      | load span path =>
          refine .bind (part (by simp [Expr.parts]) machine) fun value middle _ => ?_
          refine .bind (checkModulePath_follows value middle) fun path checked _ => ?_
          refine .bind (loadModule_follows _ _ path checked) fun loaded after run => ?_
          obtain ⟨source, file, read⟩ := loadModule_read run
          exact newModule_follows path _ _ (code.program read) after
      | construct span className arguments =>
          refine (lower (room + 3) (by omega)).construct context className ?_ machine
          exact fun argument found => code.part allowed found

theorem construct_follows (lower : ∀ less < room, RoomFollows code less) (context : Context)
    (className : String) {arguments : List Expr}
    (allowed : ∀ argument ∈ arguments, code.expression argument) (machine : Machine) :
    Follows code.body context.scope (construct context room className arguments) machine := by
  match room, lower with
  | 0, _ | 1, _ => exact .throw
  | room + 2, lower =>
      refine .bind (resolve_follows _ _ _ machine) fun callee resolved _ => ?_
      refine .bind (checkConstructible_follows _ _ _ resolved) fun _ checked _ => ?_
      refine .bind (.mapM arguments (fun item found => (lower room (by omega)).evaluate context
        (allowed item found)) checked) fun values after _ => ?_
      exact (lower (room + 1) (by omega)).callValue _ _ callee values after

/-- The statements of a body follow a course of the scope that it runs in. -/
theorem body_follows (lower : RoomFollows code room) (context : Context) {body : List Stmt}
    (allowed : code.body body) (machine : Machine) :
    Follows code.body context.scope (sequence (execute context room) body .absent) machine :=
  sequence_follows body
    (fun _ found => lower.execute context (code.member allowed found)) .absent machine

/-- A block runs in a scope of its own. -/
theorem block_follows (lower : ∀ less < room, RoomFollows code less) (context : Context)
    {span : Span} {statements : List Stmt} (allowed : code.statement (.block span statements))
    (scope : ScopeId) (machine : Machine) :
    Follows code.body scope (execute context room (.block span statements)) machine := by
  match room, lower with
  | 0, _ | 1, _ | 2, _ | 3, _ | 4, _ => exact .throw
  | room + 5, lower =>
      refine locating_follows (.inside ?_)
      exact sequence_follows statements (fun _ found => (lower (room + 2) (by omega)).execute
        { context with scope := machine.scopes.size } (code.inner allowed found)) .absent _

theorem execute_follows (lower : ∀ less < room, RoomFollows code less) (context : Context)
    {statement : Stmt} (allowed : code.statement statement) (machine : Machine) :
    Follows code.body context.scope (execute context room statement) machine := by
  match room, lower with
  | 0, _ | 1, _ | 2, _ | 3, _ | 4, _ => exact .throw
  | room + 5, lower =>
      have two := lower (room + 2) (by omega)
      have operand {less : Nat} (below : less < room + 5) {part : Expr}
          (found : part ∈ statement.expressions) (machine : Machine) :
          Follows code.body context.scope (evaluate context less part) machine :=
        (lower less below).evaluate context (code.operand allowed found) machine
      have inner {part : Stmt} (found : part ∈ statement.parts) (machine : Machine) :
          Follows code.body context.scope (execute context (room + 2) part) machine :=
        two.execute context (code.inner allowed found) machine
      cases statement with
      | declare span id initial =>
          refine locating_follows ?_
          cases initial with
          | none => exact .bind (.modify (.define context.scope machine id _)) fun _ _ _ => .pure
          | some initial =>
              refine .bind (operand (by omega) (by simp [Stmt.expressions]) machine)
                fun value middle _ => ?_
              exact .bind (.modify (.define context.scope middle id value)) fun _ _ _ => .pure
      | expression span value =>
          refine locating_follows (.bind (operand (by omega) ?_ machine) fun _ _ _ => .pure)
          simp [Stmt.expressions]
      | block span statements => exact block_follows lower context allowed context.scope machine
      | conditional span condition consequent alternate =>
          refine locating_follows (.bind (operand (by omega) (by simp [Stmt.expressions]) machine)
            fun value middle _ => ?_)
          refine .bind .isTruthy fun _ tested _ => .choosing ?_ ?_
          · exact inner (by simp [Stmt.parts]) tested
          · cases alternate with
            | none => exact .pure
            | some alternate => exact inner (by simp [Stmt.parts]) tested
      | loop span condition body =>
          refine locating_follows (repeatWhile_follows (fun machine => ?_) (fun machine => ?_) _ _)
          · exact .bind (operand (by omega) (by simp [Stmt.expressions]) machine)
              fun _ _ _ => .isTruthy
          · exact inner (by simp [Stmt.parts]) machine
      | function span name params body =>
          refine locating_follows (.bind (fun _ => .newClosure machine
            ⟨name, params, body, context.scope, context.unit, context.runner⟩ (code.named allowed))
            fun closure middle _ => ?_)
          cases name with
          | none => exact .bind .pure fun _ _ _ => .pure
          | some id =>
              exact .bind (.modify (.define context.scope middle id closure)) fun _ _ _ => .pure
      | result span value =>
          refine locating_follows ?_
          cases value with
          | none => exact .pure
          | some value =>
              exact .bind (operand (by omega) (by simp [Stmt.expressions]) machine)
                fun _ _ _ => .pure
      | leave | proceed => exact locating_follows .pure
      | construct span className arguments =>
          refine locating_follows (.bind (two.construct context className ?_ machine)
            fun instanceValue middle _ => ?_)
          · exact fun argument found => code.operand allowed found
          · exact .bind (bindInstance_follows context span className instanceValue middle)
              fun _ _ _ => .pure
      | load span path =>
          refine locating_follows (.bind (operand (by omega) (by simp [Stmt.expressions]) machine)
            fun value middle _ => ?_)
          refine .bind (checkModulePath_follows value middle) fun path checked _ => ?_
          refine .bind (loadModule_follows _ _ path checked) fun loaded after run => ?_
          obtain ⟨source, file, read⟩ := loadModule_read run
          exact .bind (body_follows (lower (room + 1) (by omega)) { context with unit := loaded.2 }
            (code.program read) after) fun _ _ _ => .pure

/-- The actions of the objects in a machine are of the kind of its code. -/
theorem action_allowed {machine : Machine} (satisfied : machine.BodiesSatisfy code.body)
    {id : ObjectId} {name : String} {action : Action}
    (found : machine.store.objects[id]?.bind HostObject.callable? = some (name, action)) :
    ∀ body ∈ action.moduleBodies, code.body body := by
  obtain ⟨object, present, called⟩ := Option.bind_eq_some_iff.mp found
  intro body runs
  refine satisfied body (.inr ⟨object, Array.mem_of_getElem? present, ?_⟩)
  cases object with
  | function | factory =>
      cases called
      exact runs
  | _ => cases called

theorem callValue_follows (lower : ∀ less < room, RoomFollows code less) (scope : ScopeId)
    (runner : RunnerId) (callee : Value) (arguments : List Value) (machine : Machine) :
    Follows code.body scope (callValue runner room callee arguments) machine := by
  match room, lower with
  | 0, _ | 1, _ => exact .throw
  | room + 2, lower =>
      have one := lower (room + 1) (by omega)
      cases callee with
      | closure id => exact one.callClosure scope runner id arguments machine
      | host id =>
          refine .assuming fun satisfied => .looking ?_
          split
          · rename_i found
            exact callingHost_follows
              (one.perform scope (action_allowed satisfied found) arguments machine)
          · exact refuseCall_follows _ _ machine
      | _ => exact refuseCall_follows _ _ machine

theorem callClosure_follows (lower : ∀ less < room, RoomFollows code less) (scope : ScopeId)
    (runner : RunnerId) (id : ClosureId) (arguments : List Value) (machine : Machine) :
    Follows code.body scope (callClosure runner room id arguments) machine := by
  match room, lower with
  | 0, _ => exact .throw
  | room + 1, lower =>
      refine .assuming fun satisfied => .looking ?_
      split
      · rename_i current closure _ found
        have allowed : code.body closure.body :=
          satisfied _ (.inl ⟨closure, Array.mem_of_getElem? found, rfl⟩)
        refine .choosing .throw (.inside ?_)
        refine .bind (.modify (.runner _ _ runner _)) fun _ entered _ => ?_
        refine .bind (.andFinally (body_follows (lower room (by omega))
          ⟨runner, closure.unit, machine.scopes.size⟩ allowed entered) fun middle => ?_)
          fun _ _ _ => .pure
        exact .modify (.runner _ middle runner _)
      · exact refuseCall_follows _ _ machine

theorem runModule_follows (lower : ∀ less < room, RoomFollows code less) (scope : ScopeId)
    {body : List Stmt} (allowed : code.body body) (unit : UnitId) (runner : RunnerId)
    (arguments : List Value) (machine : Machine) :
    Follows code.body scope (runModule room body unit runner arguments) machine := by
  match room, lower with
  | 0, _ | 1, _ | 2, _ => exact .throw
  | room + 3, lower =>
      refine .bind .ofExcept fun _ checked _ => .looking (.inside ?_)
      refine .bind (guarded_follows ?_) fun _ _ _ => .pure
      exact body_follows (lower room (by omega)) ⟨runner, unit, checked.scopes.size⟩ allowed _

theorem callBack_follows (lower : ∀ less < room, RoomFollows code less) (scope : ScopeId)
    (id : ClosureId) (arguments : List Value) (machine : Machine) :
    Follows code.body scope (callBack room id arguments) machine := by
  match room, lower with
  | 0, _ => exact .throw
  | room + 1, lower =>
      refine .looking ?_
      split
      · exact (lower room (by omega)).callClosure scope _ id arguments machine
      · exact refuseCall_follows _ _ machine

theorem callJob_follows (lower : ∀ less < room, RoomFollows code less) (scope : ScopeId)
    (job : Job) (machine : Machine) : Follows code.body scope (callJob room job) machine := by
  match room, lower with
  | 0, _ => exact .throw
  | room + 1, lower =>
      have one := lower room (by omega)
      unfold callJob
      split
      · exact one.callBack scope _ _ machine
      · refine .assuming fun satisfied => .looking ?_
        split
        · rename_i found
          exact one.perform scope (action_allowed satisfied found) _ machine
        · exact .throw
      · exact .throw

theorem perform_follows (lower : ∀ less < room, RoomFollows code less) (scope : ScopeId)
    {action : Action} (allowed : ∀ body ∈ action.moduleBodies, code.body body)
    (arguments : List Value) (machine : Machine) :
    Follows code.body scope (perform room action arguments) machine := by
  match room, lower with
  | 0, _ => exact .throw
  | room + 1, lower =>
      have one := lower room (by omega)
      have started (number : Nat) (machine : Machine) :
          Follows code.body scope (startJob (callJob room) number) machine :=
        startJob_follows (one.callJob scope) number machine
      cases action with
      | native operation => exact .onStore (native_alters room operation arguments)
      | control operation =>
          cases operation with
          | join => exact joinJob_follows started arguments machine
          | sleep => exact sleepFor_follows started arguments machine
          | yield => exact yieldTurn_follows started arguments machine
          | apply => exact applyData_follows room (one.callBack scope) arguments machine
          | runModule body unit runner =>
              exact one.runModule scope (allowed body (List.mem_singleton.mpr rfl)) unit runner
                arguments machine

end Rooms

/-- Everything that is evaluated, executed or called follows a course. -/
theorem roomFollows (code : CodeKind) (room : Nat) : RoomFollows code room := by
  induction room using Nat.strongRecOn with
  | ind room lower =>
      exact {
        evaluate := fun context _ allowed => evaluate_follows lower context allowed
        construct := fun context className _ allowed =>
          construct_follows lower context className allowed
        execute := fun context _ allowed => execute_follows lower context allowed
        callValue := callValue_follows lower
        callClosure := callClosure_follows lower
        perform := fun scope _ allowed => perform_follows lower scope allowed
        runModule := fun scope _ allowed => runModule_follows lower scope allowed
        callBack := callBack_follows lower
        callJob := callJob_follows lower }

end Scriptlet
