import Scriptlet.Proofs.Activity.Promise
import Scriptlet.Proofs.Session.Standard
import Scriptlet.Proofs.Tree.Nodes

/-!
# Regimes

A regime is what a run keeps to as a whole: which nodes its code has, what is true of the scopes,
the runners and the disk around the store, and with which faults it fails.  It speaks of single
steps only; then everything that is evaluated, executed or called keeps to it, and so do the
functions and modules that are made on the way and the failures of the jobs.
-/

namespace Scriptlet

/-- What a run keeps to. -/
structure Regime where
  /-- The nodes of the code. -/
  node : Node → Prop
  /-- What is true around the store. -/
  around : Scopes → Array Runner → Disk → Prop
  /-- How code fails. -/
  fault : Fault → Prop
  opens : ∀ {scopes runners disk} (name : String) (parent : ScopeId) (bindings : Assoc Value),
    around scopes runners disk → around (scopes.child name parent bindings) runners disk
  defines : ∀ {part name scopes runners disk} (scope : ScopeId) (value : Value), node part →
    part.bound? = some name → around scopes runners disk →
      around (scopes.define scope name value) runners disk
  assigns : ∀ {part name scopes runners disk} (scope : ScopeId) (value : Value), node part →
    part.bound? = some name → around scopes runners disk →
      around (scopes.assign scope name value) runners disk
  counts : ∀ {scopes runners disk} (runner : RunnerId) (count : Nat → Nat),
    around scopes runners disk → around scopes
      (runners.modify runner fun current => { current with depth := count current.depth }) disk
  loads : ∀ {scopes runners disk file source} (runner : RunnerId), around scopes runners disk →
    disk.readText file = .ok source → around scopes
      (runners.modify runner fun current =>
        { current with sources := current.sources.put file source }) disk
  /-- The code of the modules that can be read. -/
  reads : ∀ {scopes runners disk file source room program}, around scopes runners disk →
    disk.readText file = .ok source → Program.ofSource room source (some file) = .ok program →
      ∀ part ∈ bodyNodes program.body, node part
  fresh : ∀ {failure}, Fault.IsFresh failure → fault failure
  tagged : ∀ {failure} (number : Nat), fault failure → fault (failureOf number failure)
  /-- An error gets the place of a node. -/
  located : ∀ {part e scopes runners disk} (runner : RunnerId), node part →
    around scopes runners disk → e.span = none → fault (.script e) →
      fault (.script (e.locate part.span (runners[runner]?.bind (·.quotedLine part.span))))

namespace Regime

variable (R : Regime)

/-- All nodes of a body are allowed. -/
def body (statements : List Stmt) : Prop :=
  ∀ part ∈ bodyNodes statements, R.node part

/-- What is asked of the store: the bodies in it are allowed, and the jobs have failed as code may
fail. -/
def discipline : Discipline :=
  { Discipline.bare with
    recorded := R.fault
    body := R.body
    action := fun action => ∀ body ∈ action.moduleBodies, R.body body
    bound := by simp [Action.moduleBodies]
    boundCopy := by simp [Action.moduleBodies, Discipline.bare, Discipline.loose]
    isoAt := by simp [Action.moduleBodies]
    isDone := by simp [Action.moduleBodies]
    isCancelled := by simp [Action.moduleBodies]
    answers := fun _ _ _ _ => Answer.holds_anything _
    refuses := fun _ _ _ _ => Refusal.isFresh_fault _
    module := by simp [Action.moduleBodies]
    driving := fun _ _ => trivial }

/-- The machine is as the regime demands it. -/
structure Holds (machine : Machine) : Prop where
  store : machine.store.Obeys R.discipline Agenda.lax.holds
  around : R.around machine.scopes machine.runners machine.disk

/-- From every machine that is as the regime demands it, the steps lead to such a machine again,
with a result as described or with an allowed fault. -/
def Minds {α : Type} (result : α → Prop) (steps : MachineM α) : Prop :=
  ∀ machine, Keeps R.Holds R.fault result steps machine

variable {R} {α β : Type}

/-! ## Steps -/

theorem cause (cause : Cause) : R.fault (.ofCause cause) :=
  R.fresh (Fault.isFresh_ofCause cause)

theorem reported (function : String) {fault : Fault} (allowed : R.fault fault) :
    R.fault (reportFailure function fault) := by
  unfold reportFailure
  split
  · split
    · exact R.cause _
    · exact allowed
  · exact allowed

namespace Minds

variable {result : α → Prop} {outcome : β → Prop}

theorem pure {value : α} (described : result value) : R.Minds result (pure value) :=
  fun _ => .pure described

theorem throw {fault : Fault} (fresh : fault.IsFresh) : R.Minds result (throw fault) :=
  fun _ => .throw (R.fresh fresh)

theorem refusal (cause : Cause) : R.Minds result (MonadExcept.throw (.ofCause cause)) :=
  throw ⟨rfl, rfl⟩

theorem exhausted : R.Minds result (MonadExcept.throw .exhausted) :=
  throw trivial

theorem get : R.Minds R.Holds (get : MachineM Machine) :=
  fun _ held => .ok held held

theorem isTruthy (value : Value) : R.Minds (fun _ => True) (Machine.isTruthy value) :=
  fun _ held => .ok held trivial

theorem ofExcept {answer : Except Fault α} (bad : Fails Fault.IsFresh answer) :
    R.Minds (fun _ => True) (ofExcept answer) :=
  fun _ => .ofExcept (fun _ _ => trivial) fun failure failed => R.fresh (bad failure failed)

theorem asking {question : Store → Except Fault α}
    (bad : ∀ store, store.Obeys R.discipline Agenda.lax.holds →
      Fails Fault.IsFresh (question store)) :
    R.Minds (fun _ => True) (Machine.askStore question) := by
  intro machine held
  unfold Machine.askStore
  cases answer : question machine.store with
  | ok value => exact .ok held trivial
  | error fault => exact .error held (R.fresh (bad _ held.store fault answer))

theorem onStore {operation : StoreM α}
    (steady : Steady R.discipline .lax Fault.IsFresh result operation) :
    R.Minds result (Machine.onStore operation) := by
  intro machine held
  have kept := steady machine.store held.store
  unfold Machine.onStore
  dsimp only
  revert kept
  generalize operation machine.store = last
  rintro (⟨store, described⟩ | ⟨store, fresh⟩)
  · exact .ok ⟨store, held.around⟩ described
  · exact .error ⟨store, held.around⟩ (R.fresh fresh)

theorem modify {change : Machine → Machine}
    (kept : ∀ machine, R.Holds machine → R.Holds (change machine)) :
    R.Minds (fun _ => True) (modify change) :=
  fun machine => .modify (kept machine)

theorem openScope (name : String) (parent : ScopeId) (bindings : Assoc Value) :
    R.Minds (fun _ => True) (Machine.openScope name parent bindings) :=
  fun _ held => .ok ⟨held.store, R.opens name parent bindings held.around⟩ trivial

theorem define {part : Node} {name : String} (allowed : R.node part)
    (binds : part.bound? = some name)
    (scope : ScopeId) (value : Value) : R.Minds (fun _ => True) (Machine.define scope name value) :=
  modify fun _ held => ⟨held.store, R.defines scope value allowed binds held.around⟩

theorem assign {part : Node} {name : String} (allowed : R.node part)
    (binds : part.bound? = some name)
    (scope : ScopeId) (value : Value) : R.Minds (fun _ => True) (Machine.assign scope name value) :=
  modify fun _ held => ⟨held.store, R.assigns scope value allowed binds held.around⟩

theorem bind {first : MachineM α} {next : α → MachineM β} (before : R.Minds result first)
    (after : ∀ value, result value → R.Minds outcome (next value)) :
    R.Minds outcome (first >>= next) :=
  fun machine => .bind (before machine) fun value middle _ described => after value described middle

theorem choosing {condition : Prop} [Decidable condition] {first second : MachineM α}
    (yes : R.Minds result first) (no : R.Minds result second) :
    R.Minds result (if condition then first else second) :=
  fun machine => .choosing (fun _ => yes machine) fun _ => no machine

theorem mapFault {change : Fault → MachineM Fault} {steps : MachineM α}
    (before : R.Minds result steps)
    (after : ∀ fault, R.fault fault → R.Minds R.fault (change fault)) :
    R.Minds result (Machine.mapFault change steps) :=
  fun machine => .mapFault (before machine) fun fault middle allowed => after fault allowed middle

theorem callingHost {function : String} {steps : MachineM α} (minds : R.Minds result steps) :
    R.Minds result (callingHost function steps) :=
  .mapFault minds fun _ allowed => .pure (R.reported function allowed)

end Minds

/-- Changes of the schedule that bring in no failures that are not allowed. -/
theorem reschedule_steady {fault : Fault → Prop} {change : Schedule → Schedule}
    (failures : ∀ schedule : Schedule,
      (∀ job ∈ schedule.jobs, ∀ fault, job.state = .failed fault → R.discipline.recorded fault) →
        ∀ job ∈ (change schedule).jobs, ∀ fault, job.state = .failed fault →
          R.discipline.recorded fault) :
    Steady R.discipline .lax fault (fun _ => True) (changeSchedule change) :=
  .modify fun store obeys =>
    obeys.reschedule trivial rfl (failures store.schedule obeys.failures)

theorem noteJobs_steady {fault : Fault → Prop} (message : String) :
    Steady R.discipline .lax fault (fun _ => True) (noteJobs message) :=
  .modify fun store obeys =>
    obeys.reschedule trivial (store.jobEntries_push message) obeys.failures

/-! ### Names and modules -/

theorem resolve_minds (room : Nat) (scope : ScopeId) (name : String) :
    R.Minds (fun _ => True) (resolve room scope name) := by
  have within (levels : Nat) (name : String) :
      R.Minds (fun _ => True) (lookupName room scope levels name) := by
    induction levels generalizing name with
    | zero => exact .refusal _
    | succ levels ih =>
        refine .bind .get fun machine _ => ?_
        split
        · exact .pure trivial
        · split
          · refine .bind (ih _) fun value _ => .asking fun store _ => ?_
            exact .foldlM
              (fun value index => itemAt_fails R.discipline store name value index) _ value
          · split
            · refine .bind (ih _) fun value _ => .onStore ?_
              exact .foldlM (fun value segment => segmentOf_steady room name value segment) _ value
            · exact .refusal _
  exact within 3 name

theorem checkConstructible_minds (room : Nat) (className : String) (callee : Value) :
    R.Minds (fun _ => True) (checkConstructible room className callee) :=
  .bind .get fun _ _ => .choosing (.pure trivial)
    (.bind (.asking fun _ obeys => obeys.describe_fails room callee) fun _ _ => .refusal _)

theorem refuseCall_minds (room : Nat) (callee : Value) :
    R.Minds (fun _ => True) (refuseCall room callee : MachineM α) :=
  .bind (.asking fun _ obeys => obeys.describe_fails room callee) fun _ _ => .refusal _

theorem checkModulePath_minds (value : Value) :
    R.Minds (fun _ => True) (checkModulePath value) := by
  unfold checkModulePath
  split
  · exact .pure trivial
  · exact .refusal _

theorem bindInstance_minds {span : Span} {className : String} {arguments : List Expr}
    (allowed : R.node (.statement (.construct span className arguments))) (context : Context)
    (instanceValue : Value) :
    R.Minds (fun _ => True) (bindInstance context span className instanceValue) := by
  refine .bind .get fun _ _ => .choosing ?_ (.pure trivial)
  refine .bind (.define allowed rfl context.scope instanceValue) fun _ _ => ?_
  exact .modify fun _ held => ⟨held.store, held.around⟩

theorem requireDirectory_minds (disk : Disk) (root : Option String) (path : String) :
    R.Minds (fun _ => True) (requireDirectory disk root path) := by
  unfold requireDirectory
  split
  · exact .throw trivial
  · exact .pure trivial

/-- A module that has been loaded is read from a file on the disk, so its code is allowed. -/
theorem loadModule_minds (room : Nat) (runner : RunnerId) (path : String) :
    R.Minds (fun loaded => R.body loaded.1.body) (loadModule room runner path) := by
  refine fun machine => .looking (.assuming fun held => ?_)
  refine .bind (requireDirectory_minds _ _ path machine) fun _ _ ready _ => ?_
  obtain rfl := requireDirectory_ok ready
  refine .bind (Minds.onStore (note_steady _ (by decide) _) machine) fun _ _ noted _ => ?_
  cases noted
  refine .bind (.modify fun held : R.Holds _ => ⟨held.store, held.around⟩) fun _ _ counted _ => ?_
  cases counted
  split
  · rename_i failure _
    cases failure <;> exact .throw (R.fresh (by trivial))
  · rename_i source text
    unfold readModule
    split
    · rename_i fault refused
      refine .throw (R.fresh ?_)
      rcases ofSource_fails _ _ _ _ refused with ⟨error, rfl⟩ | rfl
      · exact Fault.isFresh_ofCause _
      · trivial
    · rename_i program read
      have counting : R.Minds (fun _ => True) Machine.addUnit :=
        fun _ held => .ok ⟨held.store, held.around⟩ trivial
      refine .bind (.modify fun held : R.Holds _ => ⟨held.store, ?_⟩) fun _ middle _ _ => ?_
      · exact R.loads runner held.around text
      · exact .bind (counting middle) fun _ _ _ _ => .pure (R.reads held.around text read)

/-! ### Errors and jobs -/

/-- An error gets the place of a node, and the failure of a job keeps it. -/
theorem locateFault_minds {part : Node} (allowed : R.node part) (runner : RunnerId) {fault : Fault}
    (faulty : R.fault fault) : R.Minds R.fault (locateFault runner part.span fault) := by
  cases fault with
  | script e =>
      unfold locateFault
      dsimp only
      split
      · exact .pure faulty
      · rename_i unplaced
        refine fun machine => .looking (.assuming fun held => ?_)
        have located := R.located runner allowed held.around unplaced faulty
        split
        · refine .bind (Minds.onStore (reschedule_steady fun _ failures => ?_) machine)
            fun _ _ _ _ => .pure located
          refine failures_setState failures ?_
          rintro _ ⟨⟩
          exact located
        · exact .pure located
  | _ => exact .pure faulty

theorem fetch_minds (number : Nat) : R.Minds (fun _ => True) (Activity.fetch number) := by
  refine .bind .get fun machine held => ?_
  split
  · rename_i job found
    unfold resultOf
    split
    · exact .pure trivial
    · rename_i failed
      exact fun _ => .throw (held.store.failures job (Schedule.mem_jobs_of_job? found) _ failed)
    · exact .refusal _
  · exact .refusal _

theorem takeReady_minds : R.Minds (fun _ => True) (Machine.onStore takeReady) :=
  fun _ held => .ok ⟨held.store.reschedule trivial rfl held.store.failures, held.around⟩ trivial

theorem cancelTurn_minds (number : Nat) : R.Minds (fun _ => True)
    (Machine.onStore (changeSchedule fun schedule => schedule.setState number .cancelled)) :=
  .onStore (reschedule_steady fun _ failures => failures_setState failures (by simp))

theorem beginJob_minds (number : Nat) : R.Minds (fun _ => True) (Activity.beginJob number) := by
  refine .onStore (.bind (noteJobs_steady _) fun _ _ => reschedule_steady fun _ failures => ?_)
  exact failures_setState failures (by simp)

/-- What a job has failed with may be raised again. -/
theorem endJob_minds (number : Nat) {outcome : Except Fault Value}
    (allowed : ∀ fault, outcome = .error fault → R.fault fault) :
    R.Minds (fun _ => True) (Activity.endJob number outcome) := by
  refine .bind (.onStore (.bind (reschedule_steady fun _ failures => failures) fun _ _ =>
    noteJobs_steady _)) fun _ _ => .onStore (reschedule_steady fun schedule failures => ?_)
  unfold Activity.settled
  split
  · split
    · refine failures_setState failures fun fault failed => ?_
      unfold endedNormally at failed
      split at failed <;> cases failed
    · exact failures
  · rename_i fault
    refine failures_setState failures ?_
    rintro _ ⟨⟩
    exact R.tagged number (allowed fault rfl)

theorem changeDepth_minds (runner : RunnerId) (count : Nat → Nat) :
    R.Minds (fun _ => True) (Machine.changeRunner runner fun current =>
      { current with depth := count current.depth }) :=
  .modify fun _ held => ⟨held.store, R.counts runner count held.around⟩

/-! ## Plans -/

/-- The code of an activity is allowed. -/
def allows (R : Regime) : Activity → Prop
  | .evaluate _ _ expression => ∀ part ∈ expression.nodes, R.node part
  | .construct _ _ _ arguments => ∀ part ∈ expressionNodes arguments, R.node part
  | .execute _ _ statement => ∀ part ∈ statement.nodes, R.node part
  | .activate _ _ body | .runModule _ body _ _ _ | .runBody _ _ body => R.body body
  | .callHost _ _ action _ | .perform _ action _ => R.discipline.action action
  | _ => True

/-- An end at which the machine is as the regime demands it, with an allowed fault if
there is one. -/
def Ends (R : Regime) (outcome : Except Fault α) (machine : Machine) : Prop :=
  R.Holds machine ∧ ∀ fault, outcome = .error fault → R.fault fault

/-- Allowed code keeps the machine as the regime demands it, and fails only as code may fail. -/
def promise (R : Regime) : Promise where
  before activity machine := R.Holds machine ∧ R.allows activity
  after _ _ outcome machine := R.Ends outcome machine
  along _ _ := True
  refl _ := trivial
  trans _ _ := trivial

/-- From every machine that is as the regime demands it, the plan leads to such a machine again. -/
def Carries (R : Regime) (plan : Plan α) : Prop :=
  ∀ machine, R.Holds machine → plan.Meets R.promise R.Ends machine

theorem ends_of_keeps {result : α → Prop} {steps : MachineM α} {machine : Machine}
    (keeps : Keeps R.Holds R.fault result steps machine) (held : R.Holds machine) :
    EndsAs (fun outcome after => R.promise.along machine after ∧ R.Ends outcome after)
      (steps machine) := by
  have ended := keeps held
  revert ended
  generalize steps machine = last
  rintro (⟨held, -⟩ | ⟨held, allowed⟩)
  · exact ⟨trivial, held, by rintro _ ⟨⟩⟩
  · refine ⟨trivial, held, ?_⟩
    rintro _ ⟨⟩
    exact allowed

namespace Carries

theorem last {steps : MachineM α} (minds : R.Minds (fun _ => True) steps) :
    R.Carries (.last steps) :=
  fun machine held => .last (ends_of_keeps (minds machine) held)

theorem own {steps : MachineM β} {next : β → Plan α} {result : β → Prop}
    (minds : R.Minds result steps) (after : ∀ value, result value → R.Carries (next value)) :
    R.Carries (.own steps next) := by
  intro machine held
  have ended := minds machine held
  unfold Plan.Meets
  revert ended
  generalize steps machine = last
  rintro (⟨held, described⟩ | ⟨held, allowed⟩)
  · exact ⟨trivial, after _ described _ held⟩
  · refine ⟨trivial, held, ?_⟩
    rintro _ ⟨⟩
    exact allowed

theorem part {activity : Activity} (allowed : R.allows activity)
    {next : activity.Result → Plan α} (after : ∀ value, R.Carries (next value)) :
    R.Carries (.part activity next) := by
  refine fun machine held => ⟨⟨held, allowed⟩, fun outcome last _ ended => ?_⟩
  cases outcome with
  | ok value => exact after value last ended.1
  | error fault => exact ⟨ended.1, fun other same => ended.2 other (by cases same; rfl)⟩

theorem attempt {activity : Activity} (allowed : R.allows activity)
    {next : Except Fault activity.Result → Plan α}
    (after : ∀ outcome, (∀ fault, outcome = .error fault → R.fault fault) →
      R.Carries (next outcome)) :
    R.Carries (.attempt activity next) :=
  fun _ held => ⟨⟨held, allowed⟩, fun outcome last _ ended => after outcome ended.2 last ended.1⟩

theorem pass {activity : Activity} (allowed : R.allows activity) :
    R.Carries (Activity.pass activity) :=
  part allowed fun _ => last (.pure trivial)

theorem pure (value : α) : R.Carries (.last (pure value)) :=
  last (.pure trivial)

variable {context : Context} {room : Nat}

theorem evaluateAll {expressions : List Expr}
    (allowed : ∀ part ∈ expressionNodes expressions, R.node part)
    {next : List Value → Plan α} (after : ∀ values, R.Carries (next values)) :
    R.Carries (.evaluateAll context room expressions next) := by
  induction expressions generalizing next with
  | nil => exact after []
  | cons expression rest ih =>
      have both := List.forall_mem_append.mp allowed
      have here : R.allows (.evaluate context room expression) := both.1
      exact part here fun value => ih both.2 fun values => after (value :: values)

theorem executeAll {statements : List Stmt} (allowed : R.body statements)
    {next : Completion → Plan α} (after : ∀ completion, R.Carries (next completion))
    (before : Value) : R.Carries (.executeAll context room next statements before) := by
  induction statements generalizing before with
  | nil => exact after _
  | cons statement rest ih =>
      have both := List.forall_mem_append.mp allowed
      have here : R.allows (.execute context room statement) := both.1
      refine part here fun completion => ?_
      cases completion with
      | normal value => exact ih both.2 value
      | result | leave | proceed => exact after _

theorem executeWhile {condition : Expr} {body : Stmt}
    (test : R.allows (.evaluate context room condition))
    (round : R.allows (.execute context room body)) (bound : Nat) :
    R.Carries (.executeWhile context room condition body bound) := by
  induction bound with
  | zero => exact last (.throw trivial)
  | succ bound ih =>
      refine part test fun value => own (.isTruthy value) fun holds _ => ?_
      split
      · refine part round fun completion => ?_
        cases completion with
        | normal | proceed => exact ih
        | leave | result => exact pure _
      · exact pure _

theorem runRounds {next : Plan α} (after : R.Carries next) (count : Nat) :
    R.Carries (.runRounds room next count) := by
  have round : R.allows (.runRound room) := trivial
  induction count with
  | zero => exact after
  | succ count ih => exact part round fun _ => ih

theorem drain {next : Plan α} (after : R.Carries next) (bound : Nat) :
    R.Carries (.drain room next bound) := by
  have round : R.allows (.runRound room) := trivial
  induction bound with
  | zero => exact after
  | succ bound ih =>
      refine own .get fun machine _ => ?_
      split
      · exact after
      · exact part round fun _ => ih

theorem giveTurns (numbers : List Nat) : R.Carries (.giveTurns room numbers) := by
  induction numbers with
  | nil => exact pure ()
  | cons number rest ih =>
      have turn : R.allows (.giveTurn room number) := trivial
      exact part turn fun _ => ih

end Carries

/-! ## Activities -/

section Forms

open Carries

theorem evaluate_carried (context : Context) (room : Nat) {expression : Expr}
    (allowed : ∀ part ∈ expression.nodes, R.node part) :
    R.Carries (Activity.planEvaluate context room expression) := by
  match room with
  | 0 | 1 | 2 | 3 | 4 => exact last .exhausted
  | room + 5 =>
      have self := allowed _ expression.self_mem_nodes
      have inner {less : Nat} {inside : Expr} (found : inside ∈ expression.parts) :
          R.allows (.evaluate context less inside) :=
        fun node within => allowed node (Expr.nodes_of_part found within)
      have items {arguments : List Expr} (found : arguments ⊆ expression.parts) :
          ∀ node ∈ expressionNodes arguments, R.node node := by
        intro node within
        obtain ⟨argument, among, within⟩ := mem_expressionNodes.mp within
        exact allowed node (Expr.nodes_of_part (found among) within)
      have call (callee : Value) (arguments : List Value) :
          R.allows (.callValue context.runner (room + 2) callee arguments) := trivial
      cases expression with
      | number | text | bool => exact .pure _
      | name => exact last (resolve_minds _ _ _)
      | binary span left operator right =>
          refine part (inner (by simp [Expr.parts])) fun first => ?_
          dsimp only
          split
          · refine part (inner (by simp [Expr.parts])) fun second => ?_
            exact last (.onStore (operate_steady _ _ _ first second))
          · refine own (.isTruthy first) fun truth _ => ?_
            split
            · exact .pure _
            · refine part (inner (by simp [Expr.parts])) fun second => ?_
              exact own (.isTruthy second) fun _ _ => .pure _
      | unary span operator operand =>
          refine part (inner (by simp [Expr.parts])) fun value => ?_
          cases operator with
          | negate =>
              cases value with
              | number => exact .pure _
              | _ => exact last (.refusal _)
          | not => exact own (.isTruthy value) fun _ _ => .pure _
      | assign span target value =>
          cases target with
          | name place id =>
              refine part (inner (by simp [Expr.parts])) fun value => ?_
              exact own (.assign self rfl _ value) fun _ _ => .pure _
          | member place object field =>
              refine part (inner (by simp [Expr.parts])) fun receiver => ?_
              refine part (inner (by simp [Expr.parts])) fun value => ?_
              exact own (.onStore (writeMember_steady _ receiver field value)) fun _ _ => .pure _
      | call span callee arguments =>
          have values := items (List.subset_cons_self callee arguments)
          cases callee with
          | member place object field =>
              have receiving : R.allows (.evaluate context (room + 2) object) := fun node within =>
                allowed node (Expr.nodes_of_part List.mem_cons_self
                  (Expr.nodes_of_part List.mem_cons_self within))
              refine part receiving fun receiver => ?_
              refine own (.onStore (readMember_steady _ receiver field)) fun callee known => ?_
              refine .evaluateAll values fun values => ?_
              cases callee with
              | value callee => exact .pass (call callee values)
              | method method =>
                  exact last
                    (.callingHost (.onStore (methodEntry_steady room known receiver values)))
          | _ =>
              refine part (inner List.mem_cons_self) fun callee => ?_
              exact .evaluateAll values fun values => .pass (call callee values)
      | member span object field =>
          refine part (inner (by simp [Expr.parts])) fun receiver => last (.onStore ?_)
          exact .bind (readMember_steady _ receiver field) fun found known =>
            memberValue_steady _ receiver known
      | index span object index =>
          refine part (inner (by simp [Expr.parts])) fun receiver => ?_
          refine part (inner (by simp [Expr.parts])) fun place => ?_
          exact last (.onStore (readIndex_steady _ receiver place))
      | array span elements =>
          exact .evaluateAll (items (List.Subset.refl _)) fun values =>
            last (.onStore (addArray_steady values.toArray))
      | function span params body =>
          have made : R.body body := fun node within => allowed node (List.mem_cons_of_mem _ within)
          exact last (.onStore (addClosure_steady made))
      | load span path =>
          refine part (inner (by simp [Expr.parts])) fun value => ?_
          refine own (checkModulePath_minds value) fun path _ => ?_
          refine own (loadModule_minds _ _ path) fun loaded read => ?_
          exact last (.onStore (newModule_steady _ _ _ read))
      | construct span className arguments => exact .pass (items (List.Subset.refl _))

theorem construct_carried (context : Context) (room : Nat) (className : String)
    {arguments : List Expr} (allowed : ∀ part ∈ expressionNodes arguments, R.node part) :
    R.Carries (Activity.planConstruct context room className arguments) := by
  match room with
  | 0 | 1 => exact last .exhausted
  | room + 2 =>
      refine own (resolve_minds _ _ _) fun callee _ => ?_
      refine own (checkConstructible_minds _ _ _) fun _ _ => ?_
      refine .evaluateAll allowed fun values => ?_
      have call : R.allows (.callValue context.runner (room + 1) callee values) := trivial
      exact .pass call

theorem execute_carried (context : Context) (room : Nat) {statement : Stmt}
    (allowed : ∀ part ∈ statement.nodes, R.node part) :
    R.Carries (Activity.planExecute context room statement) := by
  match room with
  | 0 | 1 | 2 | 3 | 4 => exact last .exhausted
  | room + 5 =>
      have self := allowed _ statement.self_mem_nodes
      have operand {less : Nat} {inside : Expr} (found : inside ∈ statement.expressions) :
          R.allows (.evaluate context less inside) :=
        fun node within => allowed node (Stmt.nodes_of_expression found within)
      have inner {less : Nat} {context : Context} {inside : Stmt}
          (found : inside ∈ statement.parts) :
          R.allows (.execute context less inside) :=
        fun node within => allowed node (Stmt.nodes_of_part found within)
      cases statement with
      | declare span id initial =>
          cases initial with
          | none => exact own (.define self rfl _ _) fun _ _ => .pure _
          | some initial =>
              refine part (operand (by simp [Stmt.expressions])) fun value => ?_
              exact own (.define self rfl _ _) fun _ _ => .pure _
      | expression span value =>
          exact part (operand (by simp [Stmt.expressions])) fun _ => .pure _
      | block span statements =>
          refine own (.openScope _ _ _) fun scope _ => ?_
          refine .executeAll (fun node within => ?_) (fun _ => .pure _) .absent
          exact allowed node (List.mem_cons_of_mem _ within)
      | conditional span condition consequent alternate =>
          refine part (operand (by simp [Stmt.expressions])) fun value => ?_
          refine own (.isTruthy value) fun truth _ => ?_
          split
          · exact .pass (inner (by simp [Stmt.parts]))
          · cases alternate with
            | none => exact .pure _
            | some alternate => exact .pass (inner (by simp [Stmt.parts]))
      | loop span condition body =>
          exact .executeWhile (operand (by simp [Stmt.expressions]))
            (inner (by simp [Stmt.parts])) _
      | function span name params body =>
          have made : R.body body := fun node within => allowed node (List.mem_cons_of_mem _ within)
          refine own (.onStore (addClosure_steady made)) fun closure _ => ?_
          cases name with
          | none => exact .pure _
          | some id => exact own (.define self rfl _ _) fun _ _ => .pure _
      | result span value =>
          cases value with
          | none => exact .pure _
          | some value => exact part (operand (by simp [Stmt.expressions])) fun _ => .pure _
      | leave | proceed => exact .pure _
      | construct span className arguments =>
          have making : R.allows (.construct context (room + 2) className arguments) :=
            fun node within => allowed node (List.mem_cons_of_mem _ within)
          refine part making fun instanceValue => ?_
          exact own (bindInstance_minds self context instanceValue) fun _ _ => .pure _
      | load span path =>
          refine part (operand (by simp [Stmt.expressions])) fun value => ?_
          refine own (checkModulePath_minds value) fun path _ => ?_
          refine own (loadModule_minds _ _ path) fun loaded read => ?_
          exact .executeAll read (fun _ => .pure _) .absent

theorem callValue_carried (runner : RunnerId) (room : Nat) (callee : Value)
    (arguments : List Value) :
    R.Carries (Activity.planCallValue runner room callee arguments) := by
  match room with
  | 0 | 1 => exact last .exhausted
  | room + 2 =>
      cases callee with
      | closure id =>
          have call : R.allows (.callClosure runner (room + 1) id arguments) := trivial
          exact .pass call
      | host id =>
          refine own .get fun machine held => ?_
          split
          · rename_i name action found
            have call : R.allows (.callHost name (room + 1) action arguments) :=
              held.store.action found
            exact .pass call
          · exact last (refuseCall_minds _ _)
      | _ => exact last (refuseCall_minds _ _)

theorem callClosure_carried (runner : RunnerId) (room : Nat) (id : ClosureId)
    (arguments : List Value) : R.Carries (Activity.planCallClosure runner room id arguments) := by
  match room with
  | 0 => exact last .exhausted
  | room + 1 =>
      refine own .get fun machine held => ?_
      unfold Activity.planCalled
      split
      · rename_i current closure _ found
        have allowed := held.store.closures closure (Array.mem_of_getElem? found)
        split
        · exact last (.refusal _)
        · refine own (.openScope _ _ _) fun scope _ => ?_
          have begins : R.allows (.activate ⟨runner, closure.unit, scope⟩ room closure.body) :=
            allowed
          exact part begins fun _ => .pure _
      · exact last (refuseCall_minds _ _)

theorem join_carried (room : Nat) (arguments : List Value) :
    R.Carries (Activity.planJoin room arguments) := by
  refine own (.ofExcept (signature_fails R.discipline _ _)) fun _ _ => ?_
  refine own (.asking fun store _ => jobOf_fails R.discipline store _ _) fun number _ => ?_
  refine own .get fun machine _ => ?_
  split
  · exact last (.refusal _)
  · split
    · exact last (.refusal _)
    · split
      · exact last (.refusal _)
      · refine own (.onStore openSchedule_steady) fun _ _ => ?_
        exact .runRounds (last (fetch_minds number)) _

theorem sleep_carried (room : Nat) (arguments : List Value) :
    R.Carries (Activity.planSleep room arguments) := by
  refine own (.ofExcept (signature_fails R.discipline _ _)) fun _ _ => ?_
  split
  · refine own .get fun machine _ => ?_
    split
    · refine own (.onStore (.choosing (.throw trivial) (advanceClock_steady _))) fun _ _ => ?_
      exact .pure _
    · refine own (.onStore openSchedule_steady) fun _ _ => ?_
      split
      · refine .drain (own (.onStore (advanceClock_steady _)) fun _ _ => .pure _) drainBound
      · exact .runRounds (.pure _) 3
  · exact last (.refusal _)

theorem yield_carried (room : Nat) (arguments : List Value) :
    R.Carries (Activity.planYield room arguments) := by
  refine own (.ofExcept (signature_fails R.discipline _ _)) fun _ _ => ?_
  refine own .get fun machine _ => ?_
  split
  · exact own (.onStore openSchedule_steady) fun _ _ => .runRounds (.pure _) 3
  · exact .pure _

theorem apply_carried (room : Nat) (arguments : List Value) :
    R.Carries (Activity.planApply room arguments) := by
  refine own (.asking fun store _ => .mapM fun value _ =>
    unwrap_fails R.discipline store room value) fun data _ => ?_
  refine own (.ofExcept (signature_fails R.discipline _ _)) fun _ _ => ?_
  split
  · refine own (.onStore (wrapAll_steady fun _ _ => trivial)) fun values _ => ?_
    have call {id : ClosureId} : R.allows (.callBack room id values) := trivial
    refine part call fun result => ?_
    refine own (.asking fun store _ => unwrap_fails R.discipline store room result) fun data _ => ?_
    exact last (.onStore (wrap_steady trivial))
  · exact own .get fun _ _ => last (.throw trivial)

theorem perform_carried (room : Nat) {action : Action} (allowed : R.discipline.action action)
    (arguments : List Value) : R.Carries (Activity.planPerform room action arguments) := by
  match room with
  | 0 => cases action <;> exact last .exhausted
  | room + 1 =>
      cases action with
      | native operation => exact last (.onStore (native_steady room allowed arguments))
      | control operation =>
          cases operation with
          | join => exact join_carried room arguments
          | sleep => exact sleep_carried room arguments
          | yield => exact yield_carried room arguments
          | apply => exact apply_carried room arguments
          | runModule body unit runner =>
              have runs : R.allows (.runModule room body unit runner arguments) :=
                R.discipline.module.mp allowed
              exact .pass runs

theorem runModule_carried (room : Nat) {body : List Stmt} (allowed : R.body body) (unit : UnitId)
    (runner : RunnerId) (arguments : List Value) :
    R.Carries (Activity.planRunModule room body unit runner arguments) := by
  match room with
  | 0 | 1 | 2 => exact last .exhausted
  | room + 3 =>
      refine own (.ofExcept (signature_fails R.discipline _ _)) fun _ _ => ?_
      refine own .get fun machine _ => own (.openScope _ _ _) fun scope _ => ?_
      have runs : R.allows (.runBody ⟨runner, unit, scope⟩ room body) := allowed
      exact part runs fun _ => .pure _

theorem callBack_carried (room : Nat) (id : ClosureId) (arguments : List Value) :
    R.Carries (Activity.planCallBack room id arguments) := by
  match room with
  | 0 => exact last .exhausted
  | room + 1 =>
      refine own .get fun machine _ => ?_
      split
      · rename_i closure _
        have call : R.allows (.callClosure closure.runner room id arguments) := trivial
        exact .pass call
      · exact last (refuseCall_minds _ _)

theorem callJob_carried (room : Nat) (job : Job) : R.Carries (Activity.planCallJob room job) := by
  match room with
  | 0 => exact last .exhausted
  | room + 1 =>
      unfold Activity.planCallJob
      dsimp only
      split
      · rename_i id _
        have call : R.allows (.callBack room id job.arguments) := trivial
        exact .pass call
      · refine own .get fun machine held => ?_
        split
        · rename_i action found
          have call : R.allows (.perform room action job.arguments) := held.store.action found
          exact .pass call
        · exact last (.refusal _)
      · exact last (.refusal _)

theorem giveTurn_carried (room number : Nat) : R.Carries (Activity.planGiveTurn room number) := by
  refine own .get fun machine _ => ?_
  split
  · exact .pure ()
  · rename_i job _
    split
    · exact last (cancelTurn_minds number)
    · have call : R.allows (.callJob number room job) := trivial
      refine own (beginJob_minds number) fun _ _ => .attempt call fun outcome allowed => ?_
      exact last (endJob_minds number allowed)
    · exact .pure ()

end Forms

/-- The plan of an activity with allowed code keeps to the regime. -/
theorem plan_carried {activity : Activity} (allowed : R.allows activity) :
    R.Carries activity.plan := by
  cases activity with
  | evaluate => exact evaluate_carried _ _ allowed
  | construct => exact construct_carried _ _ _ allowed
  | execute => exact execute_carried _ _ allowed
  | callValue => exact callValue_carried _ _ _ _
  | callHost name room action arguments =>
      have performs : R.allows (.perform room action arguments) := allowed
      exact .pass performs
  | callClosure => exact callClosure_carried _ _ _ _
  | activate | runBody => exact .executeAll allowed (fun _ => .pure _) .absent
  | perform => exact perform_carried _ allowed _
  | runModule => exact runModule_carried _ allowed _ _ _
  | callBack => exact callBack_carried _ _ _
  | runRound room => exact .own takeReady_minds fun numbers _ => .giveTurns numbers
  | giveTurn => exact giveTurn_carried _ _
  | callJob => exact callJob_carried _ _

/-- What becomes of the fault of an activity is allowed as well. -/
theorem handle_minds {activity : Activity} (allowed : R.allows activity) {fault : Fault}
    (faulty : R.fault fault) : R.Minds R.fault (activity.handle fault) := by
  cases activity with
  | evaluate context room expression =>
      exact locateFault_minds (allowed _ expression.self_mem_nodes) context.runner faulty
  | execute context room statement =>
      exact locateFault_minds (allowed _ statement.self_mem_nodes) context.runner faulty
  | callHost name => exact .pure (R.reported name faulty)
  | activate context =>
      exact .bind (changeDepth_minds context.runner (· - 1)) fun _ _ => .pure faulty
  | runBody =>
      cases fault with
      | exhausted => exact .bind .get fun _ _ => .pure (R.cause _)
      | _ => exact .pure faulty
  | _ => exact .pure faulty

/-- Everything that is evaluated, executed or called keeps to the regime. -/
theorem kept (R : Regime) : R.promise.Kept := by
  rintro activity machine ⟨held, allowed⟩
  have entered : R.Holds (activity.enter machine) := by
    cases activity with
    | activate context => exact (changeDepth_minds context.runner (· + 1) machine).endState held
    | _ => exact held
  refine ⟨trivial, (plan_carried allowed _ entered).mono fun outcome last ended => ?_⟩
  cases outcome with
  | ok value =>
      have left : R.Holds (activity.leave last) := by
        cases activity with
        | activate context => exact (changeDepth_minds context.runner (· - 1) last).endState ended.1
        | _ => exact ended.1
      exact ⟨trivial, left, by rintro _ ⟨⟩⟩
  | error fault =>
      intro handled after handling
      obtain ⟨held, faulty⟩ :=
        (handle_minds allowed (ended.2 fault rfl) last).of_ok ended.1 handling
      refine ⟨trivial, held, ?_⟩
      rintro _ ⟨⟩
      exact faulty

end Regime

end Scriptlet
