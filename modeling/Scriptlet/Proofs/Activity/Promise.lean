import Scriptlet.Proofs.Activity.Steps

/-!
# Promises

A promise says what is true when an activity begins and when it has ended, and how the machine
changes on the way.  If every activity keeps it as long as its parts do, then it is kept by
all activities that occur in a run, and the machine changes in this way between any two times
of the run.
-/

namespace Scriptlet

/-- What is true at the beginning and at the end of an activity, and how machines change. -/
structure Promise where
  before : Activity → Machine → Prop
  after : (activity : Activity) → Machine → Except Fault activity.Result → Machine → Prop
  along : Machine → Machine → Prop
  refl : ∀ machine, along machine machine
  trans : ∀ {first second third}, along first second → along second third → along first third

/-- An end of steps that is as described. -/
def EndsAs {α : Type} (described : Except Fault α → Machine → Prop) :
    EStateM.Result Fault Machine α → Prop
  | .ok value machine => described (.ok value) machine
  | .error fault machine => described (.error fault) machine

theorem EndsAs.of_ok {α : Type} {described : Except Fault α → Machine → Prop}
    {result : EStateM.Result Fault Machine α} (ends : EndsAs described result) {value : α}
    {machine : Machine} (same : result = .ok value machine) : described (.ok value) machine := by
  subst same
  exact ends

theorem EndsAs.of_error {α : Type} {described : Except Fault α → Machine → Prop}
    {result : EStateM.Result Fault Machine α} (ends : EndsAs described result) {fault : Fault}
    {machine : Machine} (same : result = .error fault machine) :
    described (.error fault) machine := by
  subst same
  exact ends

theorem EndsAs.mono {α : Type} {described wider : Except Fault α → Machine → Prop}
    {result : EStateM.Result Fault Machine α} (ends : EndsAs described result)
    (weaken : ∀ outcome machine, described outcome machine → wider outcome machine) :
    EndsAs wider result := by
  cases result <;> exact weaken _ _ ends

namespace Plan

variable {α : Type} {P : Promise}

/-- A plan that is followed from a machine on ends as described if its parts keep a promise. -/
def Meets (P : Promise) (ending : Except Fault α → Machine → Prop) : Plan α → Machine → Prop
  | .last steps, machine =>
      EndsAs (fun outcome after => P.along machine after ∧ ending outcome after) (steps machine)
  | .own steps next, machine =>
      EndsAs (fun outcome after => P.along machine after ∧ match outcome with
        | .ok value => (next value).Meets P ending after
        | .error fault => ending (.error fault) after) (steps machine)
  | .part activity next, machine =>
      P.before activity machine ∧ ∀ outcome after, P.along machine after →
        P.after activity machine outcome after → match outcome with
          | .ok value => (next value).Meets P ending after
          | .error fault => ending (.error fault) after
  | .attempt activity next, machine =>
      P.before activity machine ∧ ∀ outcome after, P.along machine after →
        P.after activity machine outcome after → (next outcome).Meets P ending after

variable {ending : Except Fault α → Machine → Prop} {β : Type} {steps : MachineM β}
  {next : β → Plan α} {machine after : Machine}

theorem Meets.of_ok (meets : (Plan.own steps next).Meets P ending machine) {value : β}
    (run : steps machine = .ok value after) :
    P.along machine after ∧ (next value).Meets P ending after := by
  unfold Meets at meets
  exact meets.of_ok run

theorem Meets.of_error (meets : (Plan.own steps next).Meets P ending machine) {fault : Fault}
    (run : steps machine = .error fault after) :
    P.along machine after ∧ ending (.error fault) after := by
  unfold Meets at meets
  exact meets.of_error run

/-- The rest of a plan meets its end after steps that succeed. -/
theorem Meets.step {value : β} (run : steps machine = .ok value after) (way : P.along machine after)
    (meets : (next value).Meets P ending after) : (Plan.own steps next).Meets P ending machine := by
  unfold Meets
  rw [run]
  exact ⟨way, meets⟩

/-- The rest of a plan meets its end after a look at the machine. -/
theorem Meets.looking {next : Machine → Plan α} (meets : (next machine).Meets P ending machine) :
    (Plan.own get next).Meets P ending machine :=
  .step rfl (P.refl machine) meets

/-- The rest of a plan meets its end after an answer. -/
theorem Meets.answering {answer : Except Fault β}
    (good : ∀ value, answer = .ok value → (next value).Meets P ending machine)
    (bad : ∀ fault, answer = .error fault → ending (.error fault) machine) :
    (Plan.own (ofExcept answer) next).Meets P ending machine := by
  cases answer with
  | ok value => exact .step rfl (P.refl machine) (good value rfl)
  | error fault =>
      unfold Meets
      exact ⟨P.refl machine, bad fault rfl⟩

/-- The rest of a plan meets its end after a question about the store. -/
theorem Meets.asking {question : Store → Except Fault β}
    (good : ∀ value, question machine.store = .ok value → (next value).Meets P ending machine)
    (bad : ∀ fault, question machine.store = .error fault → ending (.error fault) machine) :
    (Plan.own (Machine.askStore question) next).Meets P ending machine := by
  unfold Meets Machine.askStore
  cases answer : question machine.store with
  | ok value => exact ⟨P.refl machine, good value answer⟩
  | error fault => exact ⟨P.refl machine, bad fault answer⟩

/-- The last steps of a plan end as described. -/
theorem Meets.last {steps : MachineM α}
    (ends : EndsAs (fun outcome after => P.along machine after ∧ ending outcome after)
      (steps machine)) : (Plan.last steps).Meets P ending machine := by
  unfold Meets
  exact ends

theorem Meets.mono {plan : Plan α} {wider : Except Fault α → Machine → Prop}
    (meets : plan.Meets P ending machine)
    (weaken : ∀ outcome machine, ending outcome machine → wider outcome machine) :
    plan.Meets P wider machine := by
  induction plan generalizing machine with
  | last steps =>
      unfold Meets at meets ⊢
      revert meets
      cases steps machine <;> exact fun meets => ⟨meets.1, weaken _ _ meets.2⟩
  | own steps next ih =>
      unfold Meets at meets ⊢
      revert meets
      cases steps machine with
      | ok value after =>
          rintro ⟨way, meets⟩
          exact ⟨way, ih value meets⟩
      | error fault after => exact fun meets => ⟨meets.1, weaken _ _ meets.2⟩
  | part activity next ih =>
      refine ⟨meets.1, fun outcome after way promised => ?_⟩
      have meets := meets.2 outcome after way promised
      cases outcome with
      | ok value => exact ih value meets
      | error fault => exact weaken _ _ meets
  | attempt activity next ih =>
      exact ⟨meets.1, fun outcome after way promised =>
        ih outcome (meets.2 outcome after way promised)⟩

end Plan

namespace Promise

variable {P : Promise}

/-- How the plan of an activity must end. -/
def ending (P : Promise) (activity : Activity) (start : Machine) :
    Except Fault activity.Result → Machine → Prop
  | .ok value, machine => P.along machine (activity.leave machine) ∧
      P.after activity start (.ok value) (activity.leave machine)
  | .error fault, machine => ∀ handled after, activity.handle fault machine = .ok handled after →
      P.along machine after ∧ P.after activity start (.error handled) after

/-- Every activity keeps the promise as long as its parts do. -/
def Kept (P : Promise) : Prop :=
  ∀ activity machine, P.before activity machine → P.along machine (activity.enter machine) ∧
    activity.plan.Meets P (P.ending activity machine) (activity.enter machine)

/-- The promise is kept by an activity from a machine on. -/
def KeptBy (P : Promise) (activity : Activity) (machine : Machine) : Prop :=
  EndsAs (fun outcome after => P.along machine after ∧ P.after activity machine outcome after)
    (activity.steps machine)

/-- A plan ends as it must if its parts keep the promise. -/
theorem run_of_meets {α : Type} {ending : Except Fault α → Machine → Prop} {plan : Plan α}
    {own : {β : Type} → MachineM β → Prop} {part : Activity → Prop} (each : plan.Each own part)
    (parts : ∀ activity, part activity → ∀ machine, P.before activity machine →
      P.KeptBy activity machine) {machine : Machine} (meets : plan.Meets P ending machine) :
    EndsAs (fun outcome after => P.along machine after ∧ ending outcome after)
      (plan.run machine) := by
  induction plan generalizing machine with
  | last steps => exact meets
  | own steps next ih =>
      change EndsAs _ (EStateM.bind steps _ machine)
      unfold EStateM.bind
      cases run : steps machine with
      | ok value middle =>
          obtain ⟨way, meets⟩ := meets.of_ok run
          have ended := ih value (each.2 value) meets
          dsimp only
          revert ended
          cases (next value).run middle <;> exact fun ended => ⟨P.trans way ended.1, ended.2⟩
      | error fault middle => exact meets.of_error run
  | part activity next ih =>
      have kept := parts activity each.1 machine meets.1
      change EndsAs _ (EStateM.bind activity.steps _ machine)
      unfold EStateM.bind
      cases run : activity.steps machine with
      | ok value middle =>
          obtain ⟨way, kept⟩ := EndsAs.of_ok kept run
          have ended := ih value (each.2 value) (meets.2 (.ok value) middle way kept)
          dsimp only
          revert ended
          cases (next value).run middle <;> exact fun ended => ⟨P.trans way ended.1, ended.2⟩
      | error fault middle =>
          obtain ⟨way, kept⟩ := EndsAs.of_error kept run
          exact ⟨way, meets.2 (.error fault) middle way kept⟩
  | attempt activity next ih =>
      have kept := parts activity each.1.2 machine meets.1
      unfold Plan.run
      cases run : activity.steps machine with
      | ok value middle =>
          obtain ⟨way, kept⟩ := EndsAs.of_ok kept run
          have ended := ih (.ok value) (each.2 _) (meets.2 (.ok value) middle way kept)
          dsimp only
          revert ended
          cases (next (.ok value)).run middle <;> exact fun ended => ⟨P.trans way ended.1, ended.2⟩
      | error fault middle =>
          obtain ⟨way, kept⟩ := EndsAs.of_error kept run
          have ended := ih (.error fault) (each.2 _) (meets.2 (.error fault) middle way kept)
          dsimp only
          revert ended
          cases (next (.error fault)).run middle <;>
            exact fun ended => ⟨P.trans way ended.1, ended.2⟩

namespace Kept

variable (kept : P.Kept)

include kept

/-- Every activity keeps the promise. -/
theorem by_all (activity : Activity) (machine : Machine) (begins : P.before activity machine) :
    P.KeptBy activity machine := by
  -- By induction on the room: every part of the plan has less of it.
  generalize size : activity.weight = weight
  induction weight using Nat.strongRecOn generalizing activity machine with
  | ind weight lower =>
      subst size
      obtain ⟨entered, meets⟩ := kept activity machine begins
      have ended := run_of_meets activity.plan_each (fun part allowed machine begins =>
        lower part.weight allowed.1 part machine begins rfl) meets
      unfold KeptBy
      cases run : activity.plan.run (activity.enter machine) with
      | ok value middle =>
          rw [Activity.steps_of_ok run]
          rw [run] at ended
          exact ⟨P.trans (P.trans entered ended.1) ended.2.1, ended.2.2⟩
      | error fault middle =>
          obtain ⟨handled, after, handling⟩ := activity.handle_ok fault middle
          rw [Activity.steps_of_error run handling]
          rw [run] at ended
          obtain ⟨way, promised⟩ := ended.2 handled after handling
          exact ⟨P.trans (P.trans entered ended.1) way, promised⟩

/-- A plan that meets its end still meets it later on. -/
theorem meets_of_leads {α : Type} {ending : Except Fault α → Machine → Prop}
    {before after : Plan α × Machine} (leads : Plan.Leads before after)
    (meets : before.1.Meets P ending before.2) :
    P.along before.2 after.2 ∧ after.1.Meets P ending after.2 := by
  induction leads with
  | refl => exact ⟨P.refl _, meets⟩
  | tail _ step ih =>
      obtain ⟨way, meets⟩ := ih
      cases step with
      | own run =>
          obtain ⟨onward, meets⟩ := meets.of_ok run
          exact ⟨P.trans way onward, meets⟩
      | part run | returned run =>
          obtain ⟨onward, promised⟩ := EndsAs.of_ok (kept.by_all _ _ meets.1) run
          exact ⟨P.trans way onward, meets.2 _ _ onward promised⟩
      | failed run =>
          obtain ⟨onward, promised⟩ := EndsAs.of_error (kept.by_all _ _ meets.1) run
          exact ⟨P.trans way onward, meets.2 _ _ onward promised⟩

/-- What own steps keep, and activities that keep the promise, holds all along a plan. -/
theorem holds_of_leads {α : Type} {ending : Except Fault α → Machine → Prop}
    {own : {β : Type} → MachineM β → Prop} {part : Activity → Prop} {holds : Machine → Prop}
    (steps : ∀ {β : Type} (steps : MachineM β), own steps → ∀ machine, holds machine →
      holds (endState (steps machine)))
    (parts : ∀ activity, part activity → ∀ start outcome machine, P.before activity start →
      P.after activity start outcome machine → holds start → holds machine)
    {before after : Plan α × Machine}
    (leads : Plan.Leads before after) (each : before.1.Each own part)
    (meets : before.1.Meets P ending before.2) (held : holds before.2) : holds after.2 := by
  induction leads with
  | refl => exact held
  | tail leads step held =>
      have each := each.of_leads leads
      have meets := (kept.meets_of_leads leads meets).2
      cases step with
      | own run =>
          have kept := steps _ each.1 _ held
          rw [run] at kept
          exact kept
      | part run =>
          exact parts _ each.1 _ _ _ meets.1 ((kept.by_all _ _ meets.1).of_ok run).2 held
      | returned run =>
          exact parts _ each.1.2 _ _ _ meets.1 ((kept.by_all _ _ meets.1).of_ok run).2 held
      | failed run =>
          exact parts _ each.1.2 _ _ _ meets.1 ((kept.by_all _ _ meets.1).of_error run).2 held

section Occurrences

variable {root outer inner : Occurrence}

/-- What remains of the plan of an activity meets the end of the activity. -/
theorem meets_at {rest : Plan outer.activity.Result} {machine : Machine}
    (begins : P.before outer.activity outer.machine) (reached : outer.At rest machine) :
    P.along outer.machine machine ∧
      rest.Meets P (P.ending outer.activity outer.machine) machine := by
  obtain ⟨entered, meets⟩ := kept outer.activity outer.machine begins
  obtain ⟨way, meets⟩ := kept.meets_of_leads reached meets
  exact ⟨P.trans entered way, meets⟩

theorem before_of_holds (begins : P.before outer.activity outer.machine)
    (holds : outer.Holds inner) : P.before inner.activity inner.machine := by
  rcases holds with ⟨next, reached⟩ | ⟨next, reached⟩ <;>
    exact (kept.meets_at begins reached).2.1

/-- What is promised of the beginning of activities is true inside as well. -/
theorem before_of_inside (begins : P.before root.activity root.machine)
    (inside : root.Inside inner) : P.before inner.activity inner.machine := by
  induction inside with
  | refl => exact begins
  | tail _ holds ih => exact kept.before_of_holds ih holds

/-- From any time to the end of an activity the machine changes as promised. -/
theorem along_to_last (begins : P.before outer.activity outer.machine)
    {rest : Plan outer.activity.Result} {machine : Machine} (reached : outer.At rest machine) :
    P.along machine outer.last := by
  have ended := run_of_meets (outer.activity.plan_each.of_leads reached)
    (fun part _ machine begins => kept.by_all part machine begins) (kept.meets_at begins reached).2
  have same := reached.run_eq
  unfold Occurrence.last Occurrence.outcome
  cases run : rest.run machine with
  | ok value middle =>
      rw [Activity.steps_of_ok (same.trans run)]
      rw [run] at ended
      exact P.trans ended.1 ended.2.1
  | error fault middle =>
      obtain ⟨handled, after, handling⟩ := outer.activity.handle_ok fault middle
      rw [Activity.steps_of_error (same.trans run) handling]
      rw [run] at ended
      exact P.trans ended.1 (ended.2 handled after handling).1

/-- Between any two times of an activity the machine changes as promised. -/
theorem along_of_passes (begins : P.before root.activity root.machine) {first second : Machine}
    (passes : root.Passes first second) : P.along first second := by
  induction passes with
  | enter inside => exact (kept _ _ (kept.before_of_inside begins inside)).1
  | follow inside reached leads =>
      have meets := (kept.meets_at (kept.before_of_inside begins inside) reached).2
      exact (kept.meets_of_leads leads meets).1
  | leave inside reached => exact kept.along_to_last (kept.before_of_inside begins inside) reached
  | trans _ _ first second => exact P.trans first second

end Occurrences

end Kept

/-- A plan meets its end if all its own steps and all its parts keep a condition on the machine, and
fail only in ways that the end allows. -/
theorem meets_of_each {α : Type} {plan : Plan α} {own : {β : Type} → MachineM β → Prop}
    {part : Activity → Prop} (each : plan.Each own part) (holds : Machine → Prop)
    (failing : Fault → Machine → Prop)
    (steps : ∀ {β : Type} (steps : MachineM β), own steps → ∀ machine, holds machine →
      EndsAs (fun outcome after => P.along machine after ∧ holds after ∧
        ∀ fault, outcome = .error fault → failing fault after) (steps machine))
    (parts : ∀ activity, part activity → ∀ machine, holds machine → P.before activity machine ∧
      ∀ outcome after, P.along machine after → P.after activity machine outcome after →
        holds after ∧ ∀ fault, outcome = .error fault → failing fault after)
    {ending : Except Fault α → Machine → Prop}
    (ends : ∀ outcome machine, holds machine →
      (∀ fault, outcome = .error fault → failing fault machine) → ending outcome machine)
    {machine : Machine} (held : holds machine) : plan.Meets P ending machine := by
  induction plan generalizing machine with
  | last last =>
      have ended := steps last each machine held
      unfold Plan.Meets
      revert ended
      cases last machine <;> exact fun ⟨way, held, failed⟩ => ⟨way, ends _ _ held failed⟩
  | own first next ih =>
      have ended := steps first each.1 machine held
      unfold Plan.Meets
      revert ended
      cases first machine with
      | ok value after => exact fun ⟨way, held, _⟩ => ⟨way, ih value (each.2 value) held⟩
      | error fault after =>
          exact fun ⟨way, held, failed⟩ => ⟨way, ends _ _ held fun other same => by
            cases same
            exact failed fault rfl⟩
  | part activity next ih =>
      obtain ⟨begins, ended⟩ := parts activity each.1 machine held
      refine ⟨begins, fun outcome after way promised => ?_⟩
      obtain ⟨held, failed⟩ := ended outcome after way promised
      cases outcome with
      | ok value => exact ih value (each.2 value) held
      | error fault =>
          refine ends _ _ held fun other same => ?_
          cases same
          exact failed fault rfl
  | attempt activity next ih =>
      obtain ⟨begins, ended⟩ := parts activity each.1.2 machine held
      refine ⟨begins, fun outcome after way promised => ?_⟩
      exact ih outcome (each.2 outcome) (ended outcome after way promised).1

end Promise

end Scriptlet
