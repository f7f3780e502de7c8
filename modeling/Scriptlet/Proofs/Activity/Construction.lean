import Scriptlet.Proofs.Activity.Marks
import Scriptlet.Proofs.Activity.Trace

/-!
# Instances of `new` statements

A `new` statement may be executed many times, also while one of its own executions is under way.  Of
all executions the first one that comes to an instance binds it; the others only give theirs, and an
execution that fails leaves the binding to a later one.
-/

namespace Scriptlet

/-- An execution of a `new` statement. -/
structure Construction where
  context : Context
  room : Nat
  span : Span
  className : String
  arguments : List Expr
  /-- The machine at which it begins. -/
  start : Machine

namespace Construction

/-- The execution as an occurrence. -/
def occurrence (construction : Construction) : Occurrence where
  activity := .execute construction.context construction.room
    (.construct construction.span construction.className construction.arguments)
  machine := construction.start

/-- How the execution ends. -/
def outcome (construction : Construction) : EStateM.Result Fault Machine Completion :=
  execute construction.context construction.room
    (.construct construction.span construction.className construction.arguments)
    construction.start

/-- The statement that is executed: the program text that it belongs to, and where it starts
there. -/
def node (construction : Construction) : UnitId × Nat :=
  (construction.context.unit, construction.span.start.offset)

/-- What becomes of the class, the arguments and the call. -/
def built (construction : Construction) : EStateM.Result Fault Machine Value :=
  construct construction.context (construction.room - 3) construction.className
    construction.arguments construction.start

/-- Whether an instance has been made. -/
def succeeds (construction : Construction) : Bool :=
  match construction.built with
  | .ok _ _ => true
  | .error _ _ => false

/-- The machine in which an instance is bound to the name of its class, and its statement marked. -/
def binding (construction : Construction) (instanceValue : Value) (machine : Machine) : Machine :=
  { machine with
    scopes := machine.scopes.define construction.context.scope construction.className instanceValue
    constructed := construction.node :: machine.constructed }

/-! ## One execution -/

variable {construction : Construction} {machine : Machine}

/-- An instance that has been made is given on, and bound unless the statement has bound one. -/
theorem outcome_of_ok {instanceValue : Value}
    (built : construction.built = .ok instanceValue machine) :
    construction.outcome = .ok (.normal instanceValue)
      (if construction.node ∈ machine.constructed then machine
        else construction.binding instanceValue machine) := by
  obtain ⟨context, room, span, className, arguments, start⟩ := construction
  match room with
  | 0 | 1 | 2 | 3 | 4 => cases built
  | room + 5 =>
      refine @Activity.steps_of_ok
        (.execute context (room + 5) (.construct span className arguments))
        start _ _ ?_
      refine (bind_of_ok built).trans ?_
      exact bind_of_ok (bindInstance_run context span className instanceValue machine)

/-- A failure on the way to an instance binds nothing and marks nothing. -/
theorem outcome_of_error {fault : Fault} (built : construction.built = .error fault machine) :
    ∃ located after, construction.outcome = .error located after ∧
      after.scopes = machine.scopes ∧ after.constructed = machine.constructed := by
  obtain ⟨context, room, span, className, arguments, start⟩ := construction
  match room with
  | 0 | 1 | 2 | 3 | 4 =>
      cases built
      exact ⟨_, _, rfl, rfl, rfl⟩
  | room + 5 =>
      obtain ⟨located, store, handling⟩ := locateFault_store context.runner span fault machine
      refine ⟨located, { machine with store := store }, ?_, rfl, rfl⟩
      exact @Activity.steps_of_error
        (.execute context (room + 5) (.construct span className arguments)) start _ _ _ _
        (bind_of_error built) handling

/-- Only an execution that succeeds may mark a statement, its own. -/
theorem mem_outcome_constructed (construction : Construction) (node : UnitId × Nat) :
    node ∈ (endState construction.outcome).constructed ↔
      node ∈ (endState construction.built).constructed ∨
        construction.succeeds = true ∧ construction.node = node := by
  unfold succeeds
  cases built : construction.built with
  | ok instanceValue machine =>
      rw [outcome_of_ok built]
      dsimp only [endState]
      split
      · rename_i marked
        refine ⟨.inl, fun either => either.elim id ?_⟩
        rintro ⟨-, rfl⟩
        exact marked
      · simp [binding, or_comm, eq_comm]
  | error fault machine =>
      obtain ⟨located, after, outcome, -, same⟩ := outcome_of_error built
      rw [outcome]
      simp [endState, same]

/-! ## Accounts of the marks -/

/-- A statement has bound an instance: it had from the start, or one of the executions has. -/
def Taken (start : List (UnitId × Nat)) (events : List Construction) (node : UnitId × Nat) : Prop :=
  node ∈ start ∨ ∃ event ∈ events, event.succeeds = true ∧ event.node = node

/-- Executions in the order in which they end account for the marks, at the end and whenever one of
them has come to an instance or failed to. -/
structure Accounts (start : List (UnitId × Nat)) (events : List Construction)
    (last : List (UnitId × Nat)) : Prop where
  last : ∀ node, node ∈ last ↔ Taken start events node
  built : ∀ before event after, events = before ++ event :: after →
    ∀ node, node ∈ (endState event.built).constructed ↔ Taken start before node

namespace Accounts

variable {start middle last : List (UnitId × Nat)} {first second : List Construction}

theorem nil (start : List (UnitId × Nat)) : Accounts start [] start :=
  ⟨by simp [Taken], by simp⟩

theorem taken_append (before : Accounts start first middle) (node : UnitId × Nat) :
    Taken middle second node ↔ Taken start (first ++ second) node := by
  unfold Taken
  rw [before.last, Taken, or_assoc]
  simp only [List.mem_append, or_and_right, exists_or]

theorem append (before : Accounts start first middle) (after : Accounts middle second last) :
    Accounts start (first ++ second) last := by
  refine ⟨fun node => (after.last node).trans (before.taken_append node), ?_⟩
  intro earlier event later split node
  rcases List.append_eq_append_iff.mp split with ⟨more, rfl, rest⟩ | ⟨more, rfl, rest⟩
  · exact (after.built more event later rest node).trans (before.taken_append node)
  · cases more with
    | nil =>
        rw [List.append_nil] at before
        rw [after.built [] event later rest.symm node, before.taken_append, List.append_nil]
    | cons same more =>
        obtain ⟨rfl, rfl⟩ := List.cons.inj rest
        exact before.built earlier _ more rfl node

/-- The execution of a `new` statement ends after everything that it consists of. -/
theorem snoc (construction : Construction)
    (before : Accounts start first (endState construction.built).constructed) :
    Accounts start (first ++ [construction]) (endState construction.outcome).constructed := by
  refine before.append ⟨fun node => ?_, fun earlier event later split node => ?_⟩
  · rw [mem_outcome_constructed]
    simp [Taken]
  · cases earlier with
    | nil =>
        obtain ⟨rfl, -⟩ := List.cons.inj split
        simp [Taken]
    | cons _ earlier => simp at split

end Accounts

end Construction

/-! ## Runs -/

/-- The execution of a `new` statement is noted. -/
def Activity.constructions : Activity → Machine → List Construction
  | .execute context room (.construct span className arguments), machine =>
      [⟨context, room, span, className, arguments, machine⟩]
  | _, _ => []

theorem Activity.constructions_of_other {activity : Activity} {machine : Machine}
    (other : activity.isConstruction = false) : activity.constructions machine = [] := by
  unfold constructions
  split
  · cases other
  · rfl

theorem Activity.exists_of_isConstruction {activity : Activity}
    (construction : activity.isConstruction = true) :
    ∃ context room span className arguments,
      activity = .execute context room (.construct span className arguments) := by
  unfold isConstruction at construction
  split at construction
  · exact ⟨_, _, _, _, _, rfl⟩
  · cases construction

/-- Within the execution of a `new` statement only the construction itself executes others. -/
theorem Activity.record_of_construction {ε : Type} (recorded : Activity → Machine → List ε)
    (context : Context) (room : Nat) (span : Span) (className : String) (arguments : List Expr)
    (machine : Machine) :
    (planExecute context (room + 5) (.construct span className arguments)).record recorded machine =
      recorded (.construct context (room + 2) className arguments) machine := by
  unfold planExecute Plan.record
  refine Eq.trans (congrArg (_ ++ ·) ?_) (List.append_nil _)
  split
  · unfold Plan.record
    split <;> rfl
  · rfl

/-- The executions of `new` statements while requests are served, in the order in which they end. -/
def Machine.constructions (machine : Machine) (requests : List Request) : List Construction :=
  machine.record Activity.constructions requests

open Construction

/-- What is true of all steps and parts of a plan in two respects is true in both at once. -/
theorem Plan.Each.and {α : Type} {plan : Plan α} {own other : {β : Type} → MachineM β → Prop}
    {part also : Activity → Prop} (each : plan.Each own part) (too : plan.Each other also) :
    plan.Each (fun steps => own steps ∧ other steps) fun activity =>
      part activity ∧ also activity := by
  induction plan with
  | last steps => exact ⟨each, too⟩
  | own steps next ih => exact ⟨⟨each.1, too.1⟩, fun value => ih value (each.2 value) (too.2 value)⟩
  | part activity next ih =>
      exact ⟨⟨each.1, too.1⟩, fun value => ih value (each.2 value) (too.2 value)⟩
  | attempt activity next ih =>
      exact ⟨⟨each.1.1, each.1.2, too.1.2⟩, fun outcome =>
        ih outcome (each.2 outcome) (too.2 outcome)⟩

/-- Executions account for the marks along a plan that makes none itself. -/
theorem Plan.record_accounts {α : Type} {plan : Plan α} {own : {β : Type} → MachineM β → Prop}
    {part : Activity → Prop} (each : plan.Each own part)
    (markless : ∀ {β : Type} (steps : MachineM β), own steps → Scriptlet.Markless steps)
    {recorded : Activity → Machine → List Construction}
    (parts : ∀ activity, part activity → ∀ machine, Accounts machine.constructed
      (recorded activity machine) (endState (activity.steps machine)).constructed)
    (machine : Machine) :
    Accounts machine.constructed (plan.record recorded machine)
      (endState (plan.run machine)).constructed := by
  induction plan generalizing machine with
  | last steps =>
      have kept := (markless steps each).constructed machine
      unfold record run
      rw [kept]
      exact .nil _
  | own steps next ih =>
      have kept := (markless steps each.1).constructed machine
      unfold record
      change Accounts _ _ (endState (EStateM.bind steps _ machine)).constructed
      unfold EStateM.bind
      cases run : steps machine with
      | ok value after =>
          rw [run] at kept
          exact kept ▸ ih value (each.2 value) after
      | error fault after =>
          rw [run] at kept
          exact kept ▸ .nil _
  | part activity next ih =>
      have before := parts activity each.1 machine
      unfold record
      change Accounts _ _ (endState (EStateM.bind activity.steps _ machine)).constructed
      unfold EStateM.bind
      cases run : activity.steps machine with
      | ok value after =>
          rw [run] at before
          exact before.append (ih value (each.2 value) after)
      | error fault after =>
          rw [run] at before
          exact before.append (.nil _)
  | attempt activity next ih =>
      have before := parts activity each.1.2 machine
      unfold record Plan.run
      cases run : activity.steps machine with
      | ok value after =>
          rw [run] at before
          exact before.append (ih (.ok value) (each.2 _) after)
      | error fault after =>
          rw [run] at before
          exact before.append (ih (.error fault) (each.2 _) after)

/-- What an activity does around its plan makes no marks. -/
theorem Activity.steps_constructed (activity : Activity) (machine : Machine) :
    (endState (activity.steps machine)).constructed =
      (endState (activity.plan.run (activity.enter machine))).constructed := by
  cases run : activity.plan.run (activity.enter machine) with
  | ok value middle =>
      rw [steps_of_ok run]
      exact activity.leave_constructed middle
  | error fault middle =>
      obtain ⟨handled, after, handling⟩ := activity.handle_ok fault middle
      have kept := (handle_markless activity fault).constructed middle
      rw [handling] at kept
      rw [steps_of_error run handling]
      exact kept

/-- The executions of `new` statements within an activity account for the marks that it makes. -/
theorem Activity.record_accounts (activity : Activity) (machine : Machine) :
    Accounts machine.constructed (activity.record Activity.constructions machine)
      (endState (activity.steps machine)).constructed := by
  -- By induction on the room: every part has less of it.
  generalize size : activity.weight = weight
  induction weight using Nat.strongRecOn generalizing activity machine with
  | ind weight lower =>
      subst size
      have parts (part : Activity) (less : part.weight < activity.weight) (machine : Machine) :=
        lower part.weight less part machine rfl
      cases construction : activity.isConstruction with
      | false =>
          rw [record_eq, constructions_of_other construction, List.append_nil, steps_constructed,
            ← activity.enter_constructed]
          refine Plan.record_accounts ((activity.plan_markless construction).and activity.plan_each)
            (fun _ both => both.1) (fun part both machine => ?_) (activity.enter machine)
          exact parts part both.2.1 machine
      | true =>
          obtain ⟨context, room, span, className, arguments, rfl⟩ :=
            exists_of_isConstruction construction
          rw [record_eq]
          refine Accounts.snoc ⟨context, room, span, className, arguments, machine⟩ ?_
          match room with
          | 0 | 1 | 2 | 3 | 4 => exact .nil _
          | room + 5 =>
              have inner := parts (.construct context (room + 2) className arguments)
                (by simp only [weight]; omega) machine
              exact (record_of_construction ..).symm ▸ inner

theorem Request.plan_markless (request : Request) :
    request.plan.Each Scriptlet.Markless fun _ => True := by
  have ends : (Plan.last (pure ()) : Plan Unit).Each Scriptlet.Markless fun _ => True := .pure ()
  cases request with
  | perform | invoke => exact ⟨trivial, fun _ => ends⟩
  | call callee arguments =>
      refine ⟨.get, fun machine => ?_⟩
      cases callee with
      | closure id =>
          exact ⟨trivial, fun result => ⟨.asking _, fun data => ⟨.onStore _, fun _ => ends⟩⟩⟩
      | host id =>
          dsimp only
          split
          · exact ⟨trivial, fun _ => ends⟩
          · exact ends
      | _ => exact ends
  | run moduleRoot scope source file =>
      refine ⟨⟨fun _ => rfl⟩, fun runner => ⟨⟨fun machine => ?_⟩, fun program => ?_⟩⟩
      · rw [readProgram_endState]
      · exact ⟨⟨fun _ => rfl⟩, fun unit => ⟨.get, fun machine => ⟨trivial, fun _ => ends⟩⟩⟩
  | close => exact .onStore _

/-- Executions account for the marks that are made while requests are served. -/
theorem serveAll_accounts (machine : Machine) (requests : List Request) :
    Accounts machine.constructed (machine.constructions requests)
      (machine.serveAll requests).constructed := by
  induction requests generalizing machine with
  | nil => exact .nil _
  | cons request rest ih =>
      have first : Accounts machine.constructed
          (request.plan.record (Activity.record Activity.constructions) machine)
          (machine.serve request).constructed := by
        rw [Request.serve_eq]
        exact Plan.record_accounts request.plan_markless (fun _ => id)
          (fun activity _ machine => activity.record_accounts machine) machine
      exact first.append (ih _)

/-- Of all executions of a `new` statement the first one that comes to an instance binds it, and no
other one binds anything: each gives its own instance, or fails and leaves the binding to a later
one. -/
theorem serveAll_bindsOnce (machine : Machine) (requests : List Request) :
    (∀ construction, construction ∈ machine.constructions requests ↔
      machine.CarriesOut requests construction.occurrence) ∧
    ∀ before construction after,
      machine.constructions requests = before ++ construction :: after →
      match construction.built with
      | .ok instanceValue built =>
          (Taken machine.constructed before construction.node →
            construction.outcome = .ok (.normal instanceValue) built) ∧
          (¬ Taken machine.constructed before construction.node →
            construction.outcome =
              .ok (.normal instanceValue) (construction.binding instanceValue built))
      | .error _ failed => ∃ fault last, construction.outcome = .error fault last ∧
          last.scopes = failed.scopes ∧ last.constructed = failed.constructed := by
  constructor
  · intro construction
    refine Machine.mem_record.trans ⟨?_, fun carried => ⟨_, carried, List.mem_singleton_self _⟩⟩
    rintro ⟨⟨activity, start⟩, carried, noted⟩
    cases made : activity.isConstruction with
    | false =>
        rw [Activity.constructions_of_other made] at noted
        cases noted
    | true =>
        obtain ⟨context, room, span, className, arguments, rfl⟩ :=
          Activity.exists_of_isConstruction made
        obtain rfl := List.mem_singleton.mp noted
        exact carried
  · intro before construction after split
    have taken := (serveAll_accounts machine requests).built before construction after split
      construction.node
    cases built : construction.built with
    | ok instanceValue middle =>
        rw [built] at taken
        dsimp only [endState] at taken
        rw [outcome_of_ok built]
        refine ⟨fun earlier => ?_, fun first => ?_⟩
        · rw [if_pos (taken.mpr earlier)]
        · rw [if_neg fun marked => first (taken.mp marked)]
    | error fault middle => exact outcome_of_error built

end Scriptlet
