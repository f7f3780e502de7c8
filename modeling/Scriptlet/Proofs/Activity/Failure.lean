import Scriptlet.Proofs.Activity.Steps

/-!
# Failures

An activity that fails has come to a step of its own or to a part of it that fails.  The node of the
program whose evaluation is in progress gives a script error its place; everything around it hands
the error on as it is.
-/

namespace Scriptlet

/-! ## Ends of plans -/

namespace Plan

variable {α : Type}

/-- How a plan ends when nothing remains of it but what is given: with its last steps, or with the
failure of a step or a part. -/
inductive Ends : Plan α → Machine → EStateM.Result Fault Machine α → Prop
  | last (steps : MachineM α) (machine : Machine) : Ends (.last steps) machine (steps machine)
  | own {β : Type} {steps : MachineM β} {next : β → Plan α} {machine after : Machine}
      {fault : Fault} (run : steps machine = .error fault after) :
      Ends (.own steps next) machine (.error fault after)
  | part {activity : Activity} {next : activity.Result → Plan α} {machine after : Machine}
      {fault : Fault} (run : activity.steps machine = .error fault after) :
      Ends (.part activity next) machine (.error fault after)

/-- Every plan comes to its end. -/
theorem exists_end (plan : Plan α) (machine : Machine) :
    ∃ rest middle, Leads (plan, machine) (rest, middle) ∧ Ends rest middle (plan.run machine) := by
  induction plan generalizing machine with
  | last steps => exact ⟨_, machine, .refl, .last steps machine⟩
  | own steps next ih =>
      cases run : steps machine with
      | ok value after =>
          obtain ⟨rest, middle, leads, ends⟩ := ih value after
          have step : Step (.own steps next, machine) (next value, after) := .own run
          exact ⟨rest, middle, .head step leads, run_of_step step ▸ ends⟩
      | error fault after =>
          refine ⟨_, machine, .refl, ?_⟩
          rw [show (Plan.own steps next).run machine = .error fault after from bind_of_error run]
          exact .own run
  | part activity next ih =>
      cases run : activity.steps machine with
      | ok value after =>
          obtain ⟨rest, middle, leads, ends⟩ := ih value after
          have step : Step (.part activity next, machine) (next value, after) := .part run
          exact ⟨rest, middle, .head step leads, run_of_step step ▸ ends⟩
      | error fault after =>
          refine ⟨_, machine, .refl, ?_⟩
          have ends : (Plan.part activity next).run machine = .error fault after :=
            bind_of_error run
          rw [ends]
          exact .part run
  | attempt activity next ih =>
      cases run : activity.steps machine with
      | ok value after =>
          obtain ⟨rest, middle, leads, ends⟩ := ih (.ok value) after
          have step : Step (.attempt activity next, machine) (next (.ok value), after) :=
            .returned run
          exact ⟨rest, middle, .head step leads, run_of_step step ▸ ends⟩
      | error fault after =>
          obtain ⟨rest, middle, leads, ends⟩ := ih (.error fault) after
          have step : Step (.attempt activity next, machine) (next (.error fault), after) :=
            .failed run
          exact ⟨rest, middle, .head step leads, run_of_step step ▸ ends⟩

end Plan

/-! ## Places -/

@[simp]
theorem ScriptError.task_locate (e : ScriptError) (span : Span) (line : Option String) :
    (e.locate span line).task = e.task := by
  unfold ScriptError.locate
  split <;> rfl

@[simp]
theorem ScriptError.cause_locate (e : ScriptError) (span : Span) (line : Option String) :
    (e.locate span line).cause = e.cause := by
  unfold ScriptError.locate
  split <;> rfl

theorem ScriptError.locate_of_span_eq_none {e : ScriptError}
    (unplaced : e.span = none) (span : Span) (line : Option String) :
    e.locate span line = { e with span := some span, sourceLine := line } := by
  unfold ScriptError.locate
  rw [unplaced]

/-- What locating an error does: the failure of a job gets its place for good. -/
theorem locateFault_cases {runner : RunnerId} {span : Span} {fault handled : Fault}
    {machine after : Machine}
    (located : locateFault runner span fault machine = .ok handled after) :
    after = machine ∧ handled = fault ∧ (∀ e, fault = .script e → e.span ≠ none) ∨
      ∃ e line, fault = .script e ∧ e.span = none ∧ handled = .script (e.locate span line) ∧
        (e.task = none ∧ after = machine ∨ ∃ number, e.task = some number ∧
          endState (Machine.onStore (changeSchedule fun schedule => schedule.setState number
            (.failed (.script (e.locate span line)))) machine) = after) := by
  cases fault with
  | script e =>
      unfold locateFault at located
      dsimp only at located
      cases place : e.span with
      | some span =>
          rw [place] at located
          cases located
          refine .inl ⟨rfl, rfl, ?_⟩
          rintro other ⟨⟩ unplaced
          cases place.symm.trans unplaced
      | none =>
          rw [place] at located
          cases task : e.task with
          | none =>
              rw [task] at located
              cases located
              exact .inr ⟨e, _, rfl, place, rfl, .inl ⟨task, rfl⟩⟩
          | some number =>
              rw [task] at located
              cases located
              exact .inr ⟨e, _, rfl, place, rfl, .inr ⟨number, task, rfl⟩⟩
  | _ =>
      cases located
      exact .inl ⟨rfl, rfl, by rintro e ⟨⟩⟩

/-! ## Nodes -/

namespace Activity

/-- The span of the node of the program that the activity evaluates. -/
def span? : Activity → Option Span
  | .evaluate _ _ expression => some expression.span
  | .execute _ _ statement => some statement.span
  | _ => none

variable {activity : Activity} {e : ScriptError} {fault handled : Fault} {machine after : Machine}

/-- A node gives a script error a place unless it has one. -/
theorem handle_node {span : Span} (node : activity.span? = some span)
    (handling : activity.handle fault machine = .ok handled after) :
    ∃ runner, locateFault runner span fault machine = .ok handled after := by
  cases activity with
  | evaluate context room expression =>
      cases node
      exact ⟨context.runner, handling⟩
  | execute context room statement =>
      cases node
      exact ⟨context.runner, handling⟩
  | _ => cases node

/-- Everything but a node hands script errors on. -/
theorem handle_plain (plain : activity.span? = none)
    (handling : activity.handle (.script e) machine = .ok handled after) :
    handled = .script e ∧ after.store = machine.store := by
  cases activity with
  | evaluate | execute => cases plain
  | _ =>
      cases handling
      exact ⟨rfl, rfl⟩

/-- A script error that has a place is handed on by everything. -/
theorem handle_placed (placed : e.span ≠ none)
    (handling : activity.handle (.script e) machine = .ok handled after) : handled = .script e := by
  cases node : activity.span? with
  | none => exact (handle_plain node handling).1
  | some span =>
      obtain ⟨runner, located⟩ := handle_node node handling
      rcases locateFault_cases located with ⟨-, same, -⟩ | ⟨_, _, same, unplaced, -⟩
      · exact same
      · cases same
        exact absurd unplaced placed

/-- Other faults may become script errors, which have no place then. -/
theorem handle_other (other : ∀ e, fault ≠ .script e)
    (handling : activity.handle fault machine = .ok handled after) :
    after.store = machine.store ∧ handled.IsFresh := by
  have nodes {runner : RunnerId} {span : Span}
      (located : locateFault runner span fault machine = .ok handled after) :
      after.store = machine.store ∧ handled.IsFresh := by
    rcases locateFault_cases located with ⟨rfl, rfl, -⟩ | ⟨e, _, same, -⟩
    · refine ⟨rfl, ?_⟩
      cases handled with
      | script e => exact absurd rfl (other e)
      | _ => trivial
    · exact absurd same (other e)
  have fresh : fault.IsFresh := by
    cases fault with
    | script e => exact absurd rfl (other e)
    | _ => trivial
  cases activity with
  | evaluate | execute => exact nodes handling
  | callHost name room action arguments =>
      cases handling
      exact ⟨rfl, Fault.isFresh_report name fresh⟩
  | runBody =>
      cases fault with
      | exhausted =>
          cases handling
          exact ⟨rfl, Fault.isFresh_ofCause _⟩
      | _ =>
          cases handling
          exact ⟨rfl, fresh⟩
  | _ =>
      cases handling
      exact ⟨rfl, fresh⟩

end Activity

namespace Occurrence

variable {occurrence outer inner : Occurrence}

/-- An activity that fails has come to the end of its plan with a fault, of which it makes its own
one. -/
theorem exists_fault {handled : Fault} {last : Machine}
    (failed : occurrence.outcome = .error handled last) :
    ∃ fault middle,
      occurrence.activity.plan.run (occurrence.activity.enter occurrence.machine) =
        .error fault middle ∧
      occurrence.activity.handle fault middle = .ok handled last := by
  unfold outcome at failed
  cases run : occurrence.activity.plan.run (occurrence.activity.enter occurrence.machine) with
  | ok value middle =>
      rw [Activity.steps_of_ok run] at failed
      cases failed
  | error fault middle =>
      obtain ⟨other, after, handling⟩ := occurrence.activity.handle_ok fault middle
      rw [Activity.steps_of_error run handling] at failed
      cases failed
      exact ⟨fault, middle, rfl, handling⟩

/-- An activity whose plan ends with a fault fails with what it makes of it. -/
theorem outcome_of_ends {rest : Plan occurrence.activity.Result} {machine middle : Machine}
    {fault : Fault} (reached : occurrence.At rest machine)
    (ends : rest.run machine = .error fault middle) {handled : Fault} {last : Machine}
    (handling : occurrence.activity.handle fault middle = .ok handled last) :
    occurrence.outcome = .error handled last :=
  Activity.steps_of_error (reached.run_eq.trans ends) handling

/-- A script error that has a place goes through every activity that has begun another one. -/
theorem Enters.hands_on (enters : outer.Enters inner) {e : ScriptError} {machine : Machine}
    (failed : inner.outcome = .error (.script e) machine) (placed : e.span ≠ none) :
    ∃ last, outer.outcome = .error (.script e) last := by
  obtain ⟨next, reached⟩ := enters
  obtain ⟨handled, last, handling⟩ := outer.activity.handle_ok (.script e) machine
  have ends : (Plan.part inner.activity next).run inner.machine = .error (.script e) machine :=
    bind_of_error failed
  obtain rfl := Activity.handle_placed placed handling
  exact ⟨last, outcome_of_ends reached ends handling⟩

/-! ## Raising -/

/-- The activity fails with a script error. -/
def Fails (occurrence : Occurrence) (e : ScriptError) : Prop :=
  ∃ last, occurrence.outcome = .error (.script e) last

/-- The inner activity is carried out as a part of the outer one, at any depth, and its failure ends
the outer one. -/
def Surrounds : Occurrence → Occurrence → Prop :=
  Relation.ReflTransGen Enters

/-- No node of the program is evaluated between the activity and the inner one. -/
def Plainly : Occurrence → Occurrence → Prop :=
  Relation.ReflTransGen fun outer inner => outer.Enters inner ∧ inner.activity.span? = none

/-- The innermost node that is being evaluated around the inner activity has the span. -/
def Innermost (outer inner : Occurrence) (span : Span) : Prop :=
  ∃ node, outer.Surrounds node ∧ node.activity.span? = some span ∧ node.Plainly inner

/-- A script error is raised by the activity itself: by a step of its own, or by what it makes of a
fault that is no script error. -/
inductive Throws (occurrence : Occurrence) : ScriptError → Prop
  | own {β : Type} {steps : MachineM β} {next : β → Plan occurrence.activity.Result}
      {machine after : Machine} {e : ScriptError}
      (reached : occurrence.At (.own steps next) machine)
      (run : steps machine = .error (.script e) after) : Throws occurrence e
  | last {steps : MachineM occurrence.activity.Result} {machine after : Machine} {e : ScriptError}
      (reached : occurrence.At (.last steps) machine)
      (run : steps machine = .error (.script e) after) : Throws occurrence e
  | report {fault : Fault} {middle after : Machine} {e : ScriptError}
      (run : occurrence.activity.plan.run (occurrence.activity.enter occurrence.machine) =
        .error fault middle) (other : ∀ e, fault ≠ .script e)
      (handling : occurrence.activity.handle fault middle = .ok (.script e) after) :
      Throws occurrence e

/-- How an error that the inner activity raises comes out of the outer one: as it is if it has a
place already, and otherwise with the place of the innermost node that is being evaluated, if
there is one. -/
inductive Escapes (outer inner : Occurrence) (thrown : ScriptError) : ScriptError → Prop
  | placed (placed : thrown.span ≠ none) (around : outer.Surrounds inner) :
      Escapes outer inner thrown thrown
  | unplaced (unplaced : thrown.span = none) (plain : outer.activity.span? = none)
      (plainly : outer.Plainly inner) : Escapes outer inner thrown thrown
  | located (unplaced : thrown.span = none) {span : Span} (innermost : outer.Innermost inner span)
      (line : Option String) :
      Escapes outer inner thrown { thrown with span := some span, sourceLine := line }

theorem Plainly.surrounds (plainly : outer.Plainly inner) : outer.Surrounds inner := by
  induction plainly with
  | refl => exact .refl
  | tail _ step ih => exact ih.tail step.1

theorem Innermost.surrounds {span : Span} (innermost : outer.Innermost inner span) :
    outer.Surrounds inner := by
  obtain ⟨node, around, -, plainly⟩ := innermost
  exact around.trans plainly.surrounds

theorem Escapes.surrounds {thrown e : ScriptError} (escapes : outer.Escapes inner thrown e) :
    outer.Surrounds inner := by
  cases escapes with
  | placed _ around => exact around
  | unplaced _ _ plainly => exact plainly.surrounds
  | located _ innermost => exact innermost.surrounds

/-- An activity lets an error out that has come to it. -/
theorem escapes_of_handle {thrown before e : ScriptError} {middle last : Machine}
    (handling : outer.activity.handle (.script before) middle = .ok (.script e) last)
    (placed : before.span ≠ none → outer.Escapes inner thrown before)
    (unplaced : before.span = none → before = thrown ∧ outer.Plainly inner) :
    outer.Escapes inner thrown e := by
  cases place : before.span with
  | some =>
      have placed' : before.span ≠ none := by rw [place]; exact nofun
      cases Activity.handle_placed placed' handling
      exact placed placed'
  | none =>
      obtain ⟨rfl, plainly⟩ := unplaced place
      cases node : outer.activity.span? with
      | none =>
          cases (Activity.handle_plain node handling).1
          exact .unplaced place node plainly
      | some span =>
          obtain ⟨runner, located⟩ := Activity.handle_node node handling
          rcases locateFault_cases located with ⟨-, -, placed⟩ | ⟨_, line, same, -, handled, -⟩
          · exact absurd place (placed before rfl)
          · cases same
            rw [ScriptError.locate_of_span_eq_none place] at handled
            cases handled
            exact .located place ⟨outer, .refl, node, plainly⟩ line

/-- A part of an activity lets an error out, and then the activity does. -/
theorem Enters.escapes {part : Occurrence} (enters : outer.Enters part)
    {thrown before e : ScriptError}
    {middle last : Machine} (escapes : part.Escapes inner thrown before)
    (handling : outer.activity.handle (.script before) middle = .ok (.script e) last) :
    outer.Escapes inner thrown e := by
  refine escapes_of_handle handling (fun placed => ?_) fun unplaced => ?_
  · cases escapes with
    | placed _ around => exact .placed placed (.head enters around)
    | unplaced unplaced => exact absurd unplaced placed
    | located unplaced innermost line =>
        obtain ⟨node, around, evaluates, plainly⟩ := innermost
        exact .located unplaced ⟨node, .head enters around, evaluates, plainly⟩ line
  · cases escapes with
    | placed placed => exact absurd unplaced placed
    | unplaced _ plain plainly => exact ⟨rfl, .head ⟨enters, plain⟩ plainly⟩
    | located => cases unplaced

/-- What becomes of a fault that is no script error is raised by the activity itself. -/
theorem escapes_of_report {fault : Fault} (other : ∀ e, fault ≠ .script e) {e : ScriptError}
    {middle last : Machine} (handling : outer.activity.handle fault middle = .ok (.script e) last) :
    outer.Escapes outer e e := by
  cases node : outer.activity.span? with
  | none => exact .unplaced (Activity.handle_other other handling).2.1 node .refl
  | some span =>
      obtain ⟨runner, located⟩ := Activity.handle_node node handling
      rcases locateFault_cases located with ⟨-, same, -⟩ | ⟨before, _, same, -⟩
      · exact absurd same.symm (other e)
      · exact absurd same (other before)

/-- Every script error is raised by an activity, and comes out of all those around it. -/
theorem Fails.exists_source {e : ScriptError} (fails : outer.Fails e) :
    ∃ inner thrown, inner.Throws thrown ∧ outer.Escapes inner thrown e := by
  -- By induction on the room: the part that has failed has less of it.
  generalize size : outer.activity.weight = weight
  induction weight using Nat.strongRecOn generalizing outer e with
  | ind weight lower =>
      subst size
      obtain ⟨last, failed⟩ := fails
      obtain ⟨fault, middle, run, handling⟩ := exists_fault failed
      by_cases other : ∀ before, fault ≠ .script before
      · exact ⟨outer, e, .report run other handling, escapes_of_report other handling⟩
      · obtain ⟨before, rfl⟩ := not_forall_not.mp other
        have own (thrown : outer.Throws before) :
            ∃ inner thrown, inner.Throws thrown ∧ outer.Escapes inner thrown e :=
          ⟨outer, before, thrown, escapes_of_handle handling (fun placed => .placed placed .refl)
            fun _ => ⟨rfl, .refl⟩⟩
        obtain ⟨rest, machine, reached, ends⟩ :=
          Plan.exists_end outer.activity.plan (outer.activity.enter outer.machine)
        rw [run] at ends
        generalize result : EStateM.Result.error (Fault.script before) middle = ended at ends
        cases ends with
        | last steps => exact own (.last reached result.symm)
        | own run =>
            cases result
            exact own (.own reached run)
        | @part activity next _ _ _ run =>
            cases result
            have allowed := (outer.activity.plan_each.of_leads reached).1
            let part : Occurrence := ⟨activity, machine⟩
            have enters : outer.Enters part := ⟨next, reached⟩
            obtain ⟨inner, thrown, throws, escapes⟩ :=
              @lower activity.weight allowed.1 part before ⟨_, run⟩ rfl
            exact ⟨inner, thrown, throws, enters.escapes escapes handling⟩

end Occurrence

end Scriptlet
