import Scriptlet.Proofs.Activity.Occurrence
import Scriptlet.Proofs.Evaluator.Course
import Scriptlet.Proofs.Evaluator.Steady

/-!
# The own steps of activities

What activities do themselves, apart from their parts.  Nearly all of their steps are modest:
they leave the counts of active calls, follow a course, do to the jobs only what a script can
ask for, and fail with errors that have no place yet.  The rest are the few steps that take
turns between jobs.
-/

namespace Scriptlet

/-! ## Counts -/

/-- How many calls each runner is inside of. -/
def Machine.depths (machine : Machine) : Array Nat :=
  machine.runners.map Runner.depth

/-- As many calls are active as before, and as many may be. -/
structure Machine.SameCounts (before after : Machine) : Prop where
  limit : after.depthLimit = before.depthLimit
  depths : after.depths = before.depths

namespace Machine.SameCounts

variable {first second third : Machine}

theorem refl (machine : Machine) : machine.SameCounts machine :=
  ⟨rfl, rfl⟩

theorem trans (before : first.SameCounts second) (after : second.SameCounts third) :
    first.SameCounts third :=
  ⟨after.limit.trans before.limit, after.depths.trans before.depths⟩

end Machine.SameCounts

/-- The depths after a change of a runner. -/
theorem depths_changeRunner (machine : Machine) (runner : RunnerId) (count : Nat → Nat)
    {change : Runner → Runner} (counts : ∀ current, (change current).depth = count current.depth) :
    (endState (Machine.changeRunner runner change machine)).depths =
      machine.depths.modify runner count := by
  refine Array.ext_getElem? fun index => ?_
  change ((machine.runners.modify runner change).map Runner.depth)[index]? = _
  rw [Machine.depths, Array.getElem?_map, Array.getElem?_modify, Array.getElem?_modify,
    Array.getElem?_map]
  split
  · rw [Option.map_map, Option.map_map]
    exact congrArg (Option.map · _) (funext counts)
  · rfl

/-- A change of a runner that leaves its depth leaves all depths. -/
theorem changeRunner_sameCounts (machine : Machine) (runner : RunnerId) {change : Runner → Runner}
    (same : ∀ current, (change current).depth = current.depth) :
    machine.SameCounts (endState (Machine.changeRunner runner change machine)) := by
  refine ⟨rfl, (depths_changeRunner machine runner id same).trans ?_⟩
  refine Array.ext_getElem? fun index => ?_
  rw [Array.getElem?_modify, Option.map_id, id, ite_self]

/-- The steps leave the counts, also when they fail. -/
def Counting {α : Type} (steps : MachineM α) : Prop :=
  ∀ start machine : Machine,
    Keeps start.SameCounts (fun _ => True) (fun _ => True) steps machine

namespace Counting

variable {α β : Type}

theorem endState {steps : MachineM α} (counting : Counting steps) (machine : Machine) :
    machine.SameCounts (endState (steps machine)) :=
  (counting machine machine).endState (.refl machine)

theorem pure (value : α) : Counting (pure value) :=
  fun _ _ => .pure trivial

theorem throw (fault : Fault) : Counting (throw fault : MachineM α) :=
  fun _ _ => .throw trivial

theorem ofExcept (answer : Except Fault α) : Counting (ofExcept answer : MachineM α) :=
  fun _ _ => .ofExcept (fun _ _ => trivial) fun _ _ => trivial

theorem get : Counting (get : MachineM Machine) :=
  fun _ _ kept => .ok kept trivial

theorem isTruthy (value : Value) : Counting (Machine.isTruthy value) :=
  fun _ _ kept => .ok kept trivial

theorem asking (question : Store → Except Fault α) : Counting (Machine.askStore question) := by
  intro start machine kept
  unfold Machine.askStore
  split
  · exact .ok kept trivial
  · exact .error kept trivial

theorem onStore (operation : StoreM α) : Counting (Machine.onStore operation) := by
  intro start machine kept
  unfold Machine.onStore
  dsimp only
  split
  · exact .ok ⟨kept.limit, kept.depths⟩ trivial
  · exact .error ⟨kept.limit, kept.depths⟩ trivial

theorem modify {change : Machine → Machine}
    (same : ∀ machine : Machine, machine.SameCounts (change machine)) :
    Counting (modify change : MachineM PUnit) :=
  fun _ machine kept => .ok (kept.trans (same machine)) trivial

theorem bind {first : MachineM α} {next : α → MachineM β} (before : Counting first)
    (after : ∀ value, Counting (next value)) : Counting (first >>= next) :=
  fun start machine => .bind (before start machine) fun value middle _ _ => after value start middle

theorem choosing {condition : Prop} [Decidable condition] {first second : MachineM α}
    (yes : Counting first) (no : Counting second) :
    Counting (if condition then first else second) := by
  split
  · exact yes
  · exact no

theorem mapFault {change : Fault → MachineM Fault} {steps : MachineM α} (before : Counting steps)
    (after : ∀ fault, Counting (change fault)) : Counting (Machine.mapFault change steps) :=
  fun start machine => .mapFault (before start machine) fun fault middle _ =>
    after fault start middle

theorem openScope (name : String) (parent : ScopeId) (bindings : Assoc Value) :
    Counting (Machine.openScope name parent bindings) :=
  fun _ _ kept => .ok ⟨kept.limit, kept.depths⟩ trivial

end Counting

theorem lookupName_counting (room : Nat) (start : ScopeId) (levels : Nat) (name : String) :
    Counting (lookupName room start levels name) := by
  induction levels generalizing name with
  | zero => exact .throw _
  | succ levels ih =>
      refine .bind .get fun machine => ?_
      split
      · exact .pure _
      · split
        · exact .bind (ih _) fun _ => .asking _
        · split
          · exact .bind (ih _) fun _ => .onStore _
          · exact .throw _

theorem checkConstructible_counting (room : Nat) (className : String) (callee : Value) :
    Counting (checkConstructible room className callee) :=
  .bind .get fun _ => .choosing (.pure ()) (.bind (.asking _) fun _ => .throw _)

theorem refuseCall_counting {α : Type} (room : Nat) (callee : Value) :
    Counting (refuseCall room callee : MachineM α) :=
  .bind (.asking _) fun _ => .throw _

theorem bindInstance_counting (context : Context) (span : Span) (className : String)
    (instanceValue : Value) : Counting (bindInstance context span className instanceValue) := by
  refine .bind .get fun machine => .choosing ?_ (.pure ())
  refine .bind (.modify fun _ => ⟨rfl, rfl⟩) fun _ => .modify fun _ => ⟨rfl, rfl⟩

theorem requireDirectory_counting (disk : Disk) (root : Option String) (path : String) :
    Counting (requireDirectory disk root path) :=
  .choosing (.throw _) (.pure ())

theorem readModule_counting (room : Nat) (runner : RunnerId) (path file source : String) :
    Counting (readModule room runner path file source) := by
  unfold readModule
  split
  · exact .throw _
  · refine .bind (.modify fun machine => changeRunner_sameCounts machine runner fun _ => rfl)
      fun _ => ?_
    exact .bind (fun _ _ kept => .ok ⟨kept.limit, kept.depths⟩ trivial) fun _ => .pure _

theorem loadModule_counting (room : Nat) (runner : RunnerId) (path : String) :
    Counting (loadModule room runner path) := by
  refine .bind .get fun machine => .bind (requireDirectory_counting _ _ path) fun _ => ?_
  refine .bind (.onStore _) fun _ => ?_
  refine .bind (.modify fun _ => ⟨rfl, rfl⟩) fun _ => ?_
  split
  · exact .throw _
  · exact readModule_counting _ _ path _ _

/-! ## Fresh faults -/

/-- A script error that has no place yet and belongs to no job; other faults have neither. -/
def Fault.IsFresh : Fault → Prop
  | .script e => e.span = none ∧ e.task = none
  | _ => True

theorem Fault.isFresh_ofCause (cause : Cause) : (Fault.ofCause cause).IsFresh :=
  ⟨rfl, rfl⟩

theorem Fault.isFresh_report (function : String) {fault : Fault} (fresh : fault.IsFresh) :
    (reportFailure function fault).IsFresh := by
  unfold reportFailure
  split
  · split
    · exact ⟨rfl, rfl⟩
    · trivial
  · exact fresh

theorem Refusal.isFresh_fault (refusal : Refusal) : refusal.fault.IsFresh := by
  cases refusal with
  | failed => trivial
  | reported message => exact Fault.isFresh_ofCause _

/-- Scripts and host functions fail with fresh faults when they do something themselves. -/
def Outcomes.fresh : Outcomes where
  fault := Fault.IsFresh
  failure := Fault.IsFresh
  recorded := fun _ => True
  cause := Fault.isFresh_ofCause
  exhausted := trivial
  unfinished := trivial
  tooLarge := trivial
  weaken := id
  reported := fun _ _ => trivial

/-- The discipline that says only how scripts and host functions fail. -/
def Discipline.bare : Discipline :=
  { Outcomes.fresh, Discipline.loose True with
    foreign := fun _ => trivial
    refuses := fun _ _ _ _ => Refusal.isFresh_fault _ }

theorem Discipline.bare_method (method : MethodEntry) : Discipline.bare.method method :=
  @Discipline.loose_method True method

theorem Discipline.bare_member (member : Member) : Discipline.bare.member member := by
  cases member with
  | value => trivial
  | method method => exact bare_method method

/-- Nothing but what is true of the jobs is asked of a store. -/
theorem obeys_bare {store : Store} {holds : Schedule → List Entry → Prop} :
    store.Obeys .bare holds ↔ holds store.schedule store.jobEntries := by
  refine ⟨fun obeys => obeys.jobs, fun jobs => ⟨fun _ _ => trivial, fun object _ => ?_,
    fun method _ => Discipline.bare_method method, fun _ _ _ _ => trivial, jobs⟩⟩
  cases object with
  | function => exact fun _ => trivial
  | loaded => trivial
  | factory => exact ⟨fun _ => trivial, fun _ _ => trivial⟩
  | group | scheduler => exact fun _ _ => trivial
  | record => exact fun _ _ _ => trivial

/-! ## Modest steps -/

/-- Steps that leave the counts, follow a course, ask of the jobs what scripts may ask, and fail
with fresh faults. -/
structure Modest {α : Type} (steps : MachineM α) : Prop where
  counting : Counting steps
  steady : ∀ A : Agenda, SteadyRun .bare A Fault.IsFresh steps
  follows : ∀ machine : Machine, ∃ scope, Follows (fun _ => True) scope steps machine

namespace Modest

variable {α : Type}

theorem pure (value : α) : Modest (pure value) :=
  ⟨.pure value, fun _ => .pure, fun _ => ⟨0, .pure⟩⟩

theorem throw {fault : Fault} (fresh : fault.IsFresh) : Modest (throw fault : MachineM α) :=
  ⟨.throw fault, fun _ => .throw fresh, fun _ => ⟨0, .throw⟩⟩

theorem refusal (cause : Cause) : Modest (MonadExcept.throw (.ofCause cause) : MachineM α) :=
  throw ⟨rfl, rfl⟩

theorem exhausted : Modest (MonadExcept.throw .exhausted : MachineM α) :=
  throw trivial

theorem ofExcept {answer : Except Fault α} (bad : Fails Fault.IsFresh answer) :
    Modest (ofExcept answer : MachineM α) :=
  ⟨.ofExcept answer, fun _ => .ofExcept bad, fun _ => ⟨0, .ofExcept⟩⟩

theorem get : Modest (get : MachineM Machine) :=
  ⟨.get, fun _ _ obeys => .ok obeys trivial, fun machine => ⟨0, fun _ => .refl 0 machine⟩⟩

theorem isTruthy (value : Value) : Modest (Machine.isTruthy value) :=
  ⟨.isTruthy value, fun _ => .isTruthy, fun _ => ⟨0, .isTruthy⟩⟩

theorem asking {question : Store → Except Fault α}
    (bad : ∀ (A : Agenda) store, store.Obeys .bare A.holds → Fails Fault.IsFresh (question store)) :
    Modest (Machine.askStore question) :=
  ⟨.asking question, fun A => .asking (bad A), fun _ => ⟨0, .asking⟩⟩

theorem onStore {operation : StoreM α}
    (steady : ∀ A : Agenda, Steady .bare A Fault.IsFresh (fun _ => True) operation)
    (alters : Alters operation) : Modest (Machine.onStore operation) :=
  ⟨.onStore operation, fun A => .onStore (steady A), fun _ => ⟨0, .onStore alters⟩⟩

theorem define (scope : ScopeId) (name : String) (value : Value) :
    Modest (Machine.define scope name value) :=
  ⟨.modify fun _ => ⟨rfl, rfl⟩, fun _ => .modify fun _ => rfl,
    fun machine => ⟨scope, .modify (.define scope machine name value)⟩⟩

theorem assign (scope : ScopeId) (name : String) (value : Value) :
    Modest (Machine.assign scope name value) :=
  ⟨.modify fun _ => ⟨rfl, rfl⟩, fun _ => .modify fun _ => rfl,
    fun machine => ⟨scope, .modify (.assign scope machine name value)⟩⟩

theorem openScope (name : String) (parent : ScopeId) (bindings : Assoc Value) :
    Modest (Machine.openScope name parent bindings) :=
  ⟨.openScope name parent bindings, fun _ _ obeys => .ok obeys trivial,
    fun _ => ⟨0, fun _ => .inside 0 _ (.refl _ _)⟩⟩

theorem newClosure (closure : Closure) : Modest (Machine.onStore (Store.addClosure closure)) :=
  ⟨.onStore _, fun _ => .onStore (addClosure_steady trivial),
    fun machine => ⟨closure.scope, fun _ => .newClosure machine closure trivial⟩⟩

theorem callingHost {function : String} {steps : MachineM α} (modest : Modest steps) :
    Modest (callingHost function steps) where
  counting := .mapFault modest.counting fun _ => .pure _
  steady A := .mapFault (modest.steady A) fun _ fresh _ =>
    .pure (Fault.isFresh_report function fresh)
  follows machine := (modest.follows machine).imp fun _ follows => callingHost_follows follows

end Modest

theorem resolve_modest (room : Nat) (scope : ScopeId) (name : String) :
    Modest (resolve room scope name) :=
  ⟨lookupName_counting room scope 3 name, fun _ => resolve_steady room scope name,
    fun machine => ⟨0, resolve_follows room scope name machine⟩⟩

theorem checkModulePath_modest (value : Value) : Modest (checkModulePath value) := by
  unfold checkModulePath
  split
  · exact .pure _
  · exact .refusal _

theorem loadModule_modest (room : Nat) (runner : RunnerId) (path : String) :
    Modest (loadModule room runner path) :=
  ⟨loadModule_counting room runner path,
    fun _ => loadModule_steady trivial (fun _ => trivial) room runner path,
    fun machine => ⟨0, loadModule_follows room runner path machine⟩⟩

theorem newModule_modest (path : String) (body : List Stmt) (unit : UnitId) (runner : RunnerId) :
    Modest (Machine.onStore (newModule path body unit runner)) :=
  ⟨.onStore _, fun _ => .onStore (newModule_steady path unit runner trivial),
    fun machine => ⟨0, newModule_follows path unit runner trivial machine⟩⟩

theorem checkConstructible_modest (room : Nat) (className : String) (callee : Value) :
    Modest (checkConstructible room className callee) :=
  ⟨checkConstructible_counting room className callee,
    fun _ => checkConstructible_steady room className callee,
    fun machine => ⟨0, checkConstructible_follows room className callee machine⟩⟩

theorem refuseCall_modest {α : Type} (room : Nat) (callee : Value) :
    Modest (refuseCall room callee : MachineM α) :=
  ⟨refuseCall_counting room callee, fun _ => refuseCall_steady room callee,
    fun machine => ⟨0, refuseCall_follows room callee machine⟩⟩

theorem bindInstance_modest (context : Context) (span : Span) (className : String)
    (instanceValue : Value) : Modest (bindInstance context span className instanceValue) :=
  ⟨bindInstance_counting context span className instanceValue,
    fun _ => bindInstance_steady context span className instanceValue,
    fun machine => ⟨context.scope,
      bindInstance_follows context span className instanceValue machine⟩⟩

theorem negate_modest (value : Value) :
    Modest (ofExcept (Store.negate value) : MachineM Value) := by
  refine .ofExcept ?_
  cases value with
  | number => exact .ok _
  | _ => exact .error ⟨rfl, rfl⟩

theorem signature_modest (signature : Signature) (given : Nat) :
    Modest (ofExcept (signature.check given) : MachineM Unit) :=
  .ofExcept (signature_fails .bare signature given)

theorem unwrap_modest (room : Nat) (value : Value) :
    Modest (Machine.askStore fun store => store.unwrap room value) :=
  .asking fun _ store _ => unwrap_fails .bare store room value

theorem sleepInside_modest (milliseconds : Float) :
    Modest (Machine.onStore (sleepInside milliseconds)) :=
  .onStore (fun _ => .choosing (.throw trivial) (advanceClock_steady milliseconds))
    (sleepInside_alters milliseconds)

/-! ## What activities do themselves and what they begin -/

namespace Activity

/-- The steps that an activity may take itself: modest ones, and those that take turns between
jobs. -/
inductive Owns : Activity → {β : Type} → MachineM β → Prop
  | modest {activity : Activity} {β : Type} {steps : MachineM β} (modest : Modest steps) :
      Owns activity steps
  | fetch (room : Nat) (arguments : List Value) (number : Nat) :
      Owns (.perform room (.control .join) arguments) (fetch number)
  | take (room : Nat) : Owns (.runRound room) (Machine.onStore takeReady)
  | cancel (room number : Nat) : Owns (.giveTurn room number)
      (Machine.onStore (changeSchedule fun schedule => schedule.setState number .cancelled))
  | start (room number : Nat) : Owns (.giveTurn room number) (beginJob number)
  | finish (room number : Nat) (outcome : Except Fault Value) :
      Owns (.giveTurn room number) (endJob number outcome)

/-- Whether an activity lets the jobs run. -/
def drives : Activity → Bool
  | .perform _ action _ => action.drives
  | _ => false

/-- The parts that an activity may have: all of them have less room, bodies become active in calls
of functions only, jobs are executed in their turns only, and turns are taken in rounds only, which
only a join, a sleep or a yield asks for. -/
def Allows (outer inner : Activity) : Prop :=
  inner.weight < outer.weight ∧ match inner with
    | .activate .. => ∃ runner room id arguments, outer = .callClosure runner room id arguments
    | .runRound _ => outer.drives = true
    | .giveTurn room _ => outer = .runRound room
    | .callJob number _ _ => ∃ room, outer = .giveTurn room number
    | _ => True

section Forms

variable {outer : Activity} {α : Type}

/-- Steps that end a plan. -/
theorem each_last {steps : MachineM α} (modest : Modest steps) :
    (Plan.last steps).Each outer.Owns outer.Allows :=
  .modest modest

/-- Steps before the rest of a plan. -/
theorem each_own {β : Type} {steps : MachineM β} (modest : Modest steps) {next : β → Plan α}
    (after : ∀ value, (next value).Each outer.Owns outer.Allows) :
    (Plan.own steps next).Each outer.Owns outer.Allows :=
  ⟨.modest modest, after⟩

theorem each_pass {inner : Activity} (allowed : outer.Allows inner) :
    (pass inner).Each outer.Owns outer.Allows :=
  ⟨allowed, fun value => each_last (.pure value)⟩

theorem each_evaluate (context : Context) (room : Nat) (expression : Expr) :
    (planEvaluate context room expression).Each (Owns (.evaluate context room expression))
      (Allows (.evaluate context room expression)) := by
  match room with
  | 0 | 1 | 2 | 3 | 4 => exact each_last .exhausted
  | room + 5 =>
      have part {less : Nat} (below : less < room + 5) (inner : Expr) :
          Allows (.evaluate context (room + 5) expression) (.evaluate context less inner) :=
        ⟨by simp only [weight]; omega, trivial⟩
      have call (callee : Value) (arguments : List Value) :
          Allows (.evaluate context (room + 5) expression)
            (.callValue context.runner (room + 2) callee arguments) :=
        ⟨by simp only [weight]; omega, trivial⟩
      cases expression with
      | number | text | bool => exact each_last (.pure _)
      | name => exact each_last (resolve_modest ..)
      | binary span left operator right =>
          refine ⟨part (by omega) left, fun first => ?_⟩
          dsimp only
          split
          · refine ⟨part (by omega) right, fun second => each_last ?_⟩
            exact .onStore (fun _ => operate_steady _ _ _ first second)
              (operate_alters _ _ _ first second)
          · refine each_own (.isTruthy first) fun truth => ?_
            split
            · exact each_last (.pure _)
            · refine ⟨part (by omega) right, fun second => ?_⟩
              exact each_own (.isTruthy second) fun _ => each_last (.pure _)
      | unary span operator operand =>
          refine ⟨part (by omega) operand, fun value => ?_⟩
          cases operator with
          | negate => exact each_last (negate_modest value)
          | not => exact each_own (.isTruthy value) fun _ => each_last (.pure _)
      | assign span target value =>
          cases target with
          | name place id =>
              refine ⟨part (by omega) value, fun value => ?_⟩
              exact each_own (.assign _ id value) fun _ => each_last (.pure value)
          | member place object field =>
              refine ⟨part (by omega) object, fun receiver => ⟨part (by omega) value, ?_⟩⟩
              intro value
              exact each_own (.onStore (fun _ => writeMember_steady _ receiver field value)
                (writeMember_alters _ receiver field value)) fun _ => each_last (.pure value)
      | call span callee arguments =>
          cases callee with
          | member place object field =>
              refine ⟨part (by omega) object, fun receiver => ?_⟩
              refine each_own (.onStore (fun _ => (readMember_steady _ receiver field).any)
                (readMember_alters _ receiver field)) fun callee => ?_
              refine .evaluateAll (part (by omega)) arguments fun values => ?_
              cases callee with
              | value callee => exact each_pass (call callee values)
              | method method =>
                  exact each_last (.callingHost (.onStore
                    (fun _ =>
                      methodEntry_steady room (Discipline.bare_method method) receiver values)
                    (methodEntry_alters room method receiver values)))
          | _ =>
              refine ⟨part (by omega) _, fun callee => ?_⟩
              exact .evaluateAll (part (by omega)) arguments fun values =>
                each_pass (call callee values)
      | member span object field =>
          refine ⟨part (by omega) object, fun receiver => each_last (.onStore (fun _ => ?_) ?_)⟩
          · exact .bind (readMember_steady _ receiver field) fun found _ =>
              memberValue_steady _ receiver (Discipline.bare_member found)
          · exact .bind (readMember_alters _ receiver field) fun found =>
              memberValue_alters _ receiver found
      | index span object index =>
          refine ⟨part (by omega) object, fun receiver => ⟨part (by omega) index, fun place => ?_⟩⟩
          exact each_last (.onStore (fun _ => readIndex_steady _ receiver place)
            (readIndex_alters _ receiver place))
      | array span elements =>
          exact .evaluateAll (part (by omega)) elements fun items => each_last
            (.onStore (fun _ => addArray_steady items.toArray) (addArray_alters items.toArray))
      | function => exact each_last (.newClosure _)
      | load span path =>
          refine ⟨part (by omega) path, fun value => ?_⟩
          refine each_own (checkModulePath_modest value) fun path => ?_
          refine each_own (loadModule_modest _ _ path) fun loaded => ?_
          exact each_last (newModule_modest ..)
      | construct => exact each_pass ⟨by simp only [weight]; omega, trivial⟩

theorem each_construct (context : Context) (room : Nat) (className : String)
    (arguments : List Expr) :
    (planConstruct context room className arguments).Each
      (Owns (.construct context room className arguments))
      (Allows (.construct context room className arguments)) := by
  match room with
  | 0 | 1 => exact each_last .exhausted
  | room + 2 =>
      refine each_own (resolve_modest ..) fun callee => ?_
      refine each_own (checkConstructible_modest ..) fun _ => ?_
      refine .evaluateAll (fun _ => ⟨by simp only [weight]; omega, trivial⟩) arguments
        fun values => ?_
      exact each_pass ⟨by simp only [weight]; omega, trivial⟩

theorem each_executeWhile {context : Context} {room : Nat} {condition : Expr} {body : Stmt}
    (test : outer.Allows (.evaluate context room condition))
    (round : outer.Allows (.execute context room body)) (bound : Nat) :
    (Plan.executeWhile context room condition body bound).Each outer.Owns outer.Allows := by
  induction bound with
  | zero => exact each_last (.throw trivial)
  | succ bound ih =>
      refine ⟨test, fun value => each_own (.isTruthy value) fun holds => ?_⟩
      split
      · refine ⟨round, fun completion => ?_⟩
        cases completion with
        | normal | proceed => exact ih
        | leave | result => exact each_last (.pure _)
      · exact each_last (.pure _)

theorem each_execute (context : Context) (room : Nat) (statement : Stmt) :
    (planExecute context room statement).Each (Owns (.execute context room statement))
      (Allows (.execute context room statement)) := by
  match room with
  | 0 | 1 | 2 | 3 | 4 => exact each_last .exhausted
  | room + 5 =>
      have operand {less : Nat} (below : less < room + 5) (part : Expr) :
          Allows (.execute context (room + 5) statement) (.evaluate context less part) :=
        ⟨by simp only [weight]; omega, trivial⟩
      have inner {less : Nat} (below : less < room + 5) (inside : Context) (part : Stmt) :
          Allows (.execute context (room + 5) statement) (.execute inside less part) :=
        ⟨by simp only [weight]; omega, trivial⟩
      cases statement with
      | declare span id initial =>
          cases initial with
          | none => exact each_own (.define ..) fun _ => each_last (.pure _)
          | some initial =>
              refine ⟨operand (by omega) initial, fun value => ?_⟩
              exact each_own (.define ..) fun _ => each_last (.pure _)
      | expression span value => exact ⟨operand (by omega) value, fun _ => each_last (.pure _)⟩
      | block span statements =>
          refine each_own (.openScope ..) fun scope => ?_
          exact .executeAll (inner (by omega) _) (fun _ => each_last (.pure _)) statements .absent
      | conditional span condition consequent alternate =>
          refine ⟨operand (by omega) condition, fun value => each_own (.isTruthy value) ?_⟩
          intro truth
          split
          · exact each_pass (inner (by omega) context consequent)
          · cases alternate with
            | none => exact each_last (.pure _)
            | some alternate => exact each_pass (inner (by omega) context alternate)
      | loop span condition body =>
          exact each_executeWhile (operand (by omega) condition) (inner (by omega) context body) _
      | function span name params body =>
          refine each_own (.newClosure _) fun closure => ?_
          cases name with
          | none => exact each_last (.pure _)
          | some id => exact each_own (.define ..) fun _ => each_last (.pure _)
      | result span value =>
          cases value with
          | none => exact each_last (.pure _)
          | some value => exact ⟨operand (by omega) value, fun _ => each_last (.pure _)⟩
      | leave | proceed => exact each_last (.pure _)
      | construct span className arguments =>
          refine ⟨⟨by simp only [weight]; omega, trivial⟩, fun instanceValue => ?_⟩
          exact each_own (bindInstance_modest ..) fun _ => each_last (.pure _)
      | load span path =>
          refine ⟨operand (by omega) path, fun value => ?_⟩
          refine each_own (checkModulePath_modest value) fun path => ?_
          refine each_own (loadModule_modest _ _ path) fun loaded => ?_
          exact .executeAll (inner (by omega) _) (fun _ => each_last (.pure _)) _ .absent

theorem each_callValue (runner : RunnerId) (room : Nat) (callee : Value) (arguments : List Value) :
    (planCallValue runner room callee arguments).Each
      (Owns (.callValue runner room callee arguments))
      (Allows (.callValue runner room callee arguments)) := by
  match room with
  | 0 | 1 => exact each_last .exhausted
  | room + 2 =>
      cases callee with
      | closure id => exact each_pass ⟨by simp only [weight]; omega, trivial⟩
      | host id =>
          refine each_own .get fun machine => ?_
          split
          · exact each_pass ⟨by simp only [weight]; omega, trivial⟩
          · exact each_last (refuseCall_modest ..)
      | _ => exact each_last (refuseCall_modest ..)

theorem each_callClosure (runner : RunnerId) (room : Nat) (id : ClosureId)
    (arguments : List Value) :
    (planCallClosure runner room id arguments).Each (Owns (.callClosure runner room id arguments))
      (Allows (.callClosure runner room id arguments)) := by
  match room with
  | 0 => exact each_last .exhausted
  | room + 1 =>
      refine each_own .get fun machine => ?_
      unfold planCalled
      split
      · split
        · exact each_last (.refusal _)
        · refine each_own (.openScope ..) fun scope => ?_
          exact ⟨⟨by simp only [weight]; omega, runner, room + 1, id, arguments, rfl⟩,
            fun _ => each_last (.pure _)⟩
      · exact each_last (refuseCall_modest ..)

theorem each_join (room : Nat) (arguments : List Value) :
    (planJoin room arguments).Each (Owns (.perform (room + 1) (.control .join) arguments))
      (Allows (.perform (room + 1) (.control .join) arguments)) := by
  refine each_own (signature_modest ..) fun _ => ?_
  refine each_own (.asking fun _ store _ => jobOf_fails .bare store _ _) fun number => ?_
  refine each_own .get fun machine => ?_
  split
  · exact each_last (.refusal _)
  · split
    · exact each_last (.refusal _)
    · split
      · exact each_last (.refusal _)
      · refine each_own (.onStore (fun _ => openSchedule_steady) openSchedule_alters) fun _ => ?_
        refine .runRounds ⟨by simp only [weight]; omega, rfl⟩ ?_ _
        exact Owns.fetch (room + 1) arguments number

theorem each_sleep (room : Nat) (arguments : List Value) :
    (planSleep room arguments).Each (Owns (.perform (room + 1) (.control .sleep) arguments))
      (Allows (.perform (room + 1) (.control .sleep) arguments)) := by
  have round : Allows (.perform (room + 1) (.control .sleep) arguments) (.runRound room) :=
    ⟨by simp only [weight]; omega, rfl⟩
  refine each_own (signature_modest ..) fun _ => ?_
  dsimp only
  split
  · refine each_own .get fun machine => ?_
    split
    · exact each_own (sleepInside_modest _) fun _ => each_last (.pure _)
    · refine each_own (.onStore (fun _ => openSchedule_steady) openSchedule_alters) fun _ => ?_
      split
      · refine .drain (.modest .get) round ?_ drainBound
        exact each_own (.onStore (fun _ => advanceClock_steady _) (advanceClock_alters _)) fun _ =>
          each_last (.pure _)
      · exact .runRounds round (each_last (.pure _)) 3
  · exact each_last (.refusal _)

theorem each_yield (room : Nat) (arguments : List Value) :
    (planYield room arguments).Each (Owns (.perform (room + 1) (.control .yield) arguments))
      (Allows (.perform (room + 1) (.control .yield) arguments)) := by
  refine each_own (signature_modest ..) fun _ => each_own .get fun machine => ?_
  split
  · refine each_own (.onStore (fun _ => openSchedule_steady) openSchedule_alters) fun _ => ?_
    exact .runRounds ⟨by simp only [weight]; omega, rfl⟩ (each_last (.pure _)) 3
  · exact each_last (.pure _)

theorem each_apply (room : Nat) (arguments : List Value) :
    (planApply room arguments).Each (Owns (.perform (room + 1) (.control .apply) arguments))
      (Allows (.perform (room + 1) (.control .apply) arguments)) := by
  refine each_own (.asking fun _ store _ => .mapM fun value _ =>
    unwrap_fails .bare store room value) fun data => ?_
  refine each_own (signature_modest ..) fun _ => ?_
  split
  · refine each_own (.onStore (fun _ => wrapAll_steady fun _ _ => trivial) (wrapAll_alters _))
      fun values => ?_
    refine ⟨⟨by simp only [weight]; omega, trivial⟩, fun result => ?_⟩
    refine each_own (unwrap_modest room result) fun data => each_last ?_
    exact .onStore (fun _ => wrap_steady trivial) (wrap_alters data)
  · exact each_own .get fun _ => each_last (.throw trivial)

theorem each_perform (room : Nat) (action : Action) (arguments : List Value) :
    (planPerform room action arguments).Each (Owns (.perform room action arguments))
      (Allows (.perform room action arguments)) := by
  match room with
  | 0 => cases action <;> exact each_last .exhausted
  | room + 1 =>
      cases action with
      | native operation =>
          exact each_last (.onStore (fun _ => native_steady room (fun _ => trivial) arguments)
            (native_alters room operation arguments))
      | control operation =>
          cases operation with
          | join => exact each_join room arguments
          | sleep => exact each_sleep room arguments
          | yield => exact each_yield room arguments
          | apply => exact each_apply room arguments
          | runModule => exact each_pass ⟨by simp only [weight]; omega, trivial⟩

theorem each_runModule (room : Nat) (body : List Stmt) (unit : UnitId) (runner : RunnerId)
    (arguments : List Value) :
    (planRunModule room body unit runner arguments).Each
      (Owns (.runModule room body unit runner arguments))
      (Allows (.runModule room body unit runner arguments)) := by
  match room with
  | 0 | 1 | 2 => exact each_last .exhausted
  | room + 3 =>
      refine each_own (signature_modest ..) fun _ => each_own .get fun machine => ?_
      refine each_own (.openScope ..) fun scope => ?_
      exact ⟨⟨by simp only [weight]; omega, trivial⟩, fun _ => each_last (.pure _)⟩

theorem each_callBack (room : Nat) (id : ClosureId) (arguments : List Value) :
    (planCallBack room id arguments).Each (Owns (.callBack room id arguments))
      (Allows (.callBack room id arguments)) := by
  match room with
  | 0 => exact each_last .exhausted
  | room + 1 =>
      refine each_own .get fun machine => ?_
      split
      · exact each_pass ⟨by simp only [weight]; omega, trivial⟩
      · exact each_last (refuseCall_modest ..)

theorem each_callJob (number room : Nat) (job : Job) :
    (planCallJob room job).Each (Owns (.callJob number room job))
      (Allows (.callJob number room job)) := by
  match room with
  | 0 => exact each_last .exhausted
  | room + 1 =>
      unfold planCallJob
      dsimp only
      split
      · exact each_pass ⟨by simp only [weight]; omega, trivial⟩
      · refine each_own .get fun machine => ?_
        split
        · exact each_pass ⟨by simp only [weight]; omega, trivial⟩
        · exact each_last (.refusal _)
      · exact each_last (.refusal _)

theorem each_giveTurn (room number : Nat) :
    (planGiveTurn room number).Each (Owns (.giveTurn room number))
      (Allows (.giveTurn room number)) := by
  refine each_own .get fun machine => ?_
  split
  · exact each_last (.pure ())
  · split
    · exact Owns.cancel room number
    · refine ⟨.start room number, fun _ => ⟨?_, fun outcome => .finish room number outcome⟩⟩
      exact ⟨rfl, by simp only [weight]; omega, room, rfl⟩
    · exact each_last (.pure ())

end Forms

/-- What every activity does itself, and which parts it has. -/
theorem plan_each (activity : Activity) : activity.plan.Each activity.Owns activity.Allows := by
  cases activity with
  | evaluate => exact each_evaluate ..
  | construct => exact each_construct ..
  | execute => exact each_execute ..
  | callValue => exact each_callValue ..
  | callHost => exact each_pass ⟨by simp only [weight]; omega, trivial⟩
  | callClosure => exact each_callClosure ..
  | activate context room body | runBody context room body =>
      refine .executeAll (fun _ => ⟨by simp only [weight]; omega, trivial⟩) ?_ body .absent
      exact fun _ => each_last (.pure _)
  | perform => exact each_perform ..
  | runModule => exact each_runModule ..
  | callBack => exact each_callBack ..
  | runRound room =>
      refine ⟨.take room, fun numbers => .giveTurns (.modest (.pure ())) (fun _ => ?_) numbers⟩
      exact ⟨by simp only [weight]; omega, rfl⟩
  | giveTurn => exact each_giveTurn ..
  | callJob => exact each_callJob ..

end Activity

/-- What an activity begins is allowed to it. -/
theorem Occurrence.Holds.allowed {outer inner : Occurrence} (holds : outer.Holds inner) :
    outer.activity.Allows inner.activity := by
  rcases holds with ⟨next, reached⟩ | ⟨next, reached⟩
  · exact (outer.activity.plan_each.of_leads reached).1
  · exact (outer.activity.plan_each.of_leads reached).1.2

end Scriptlet
