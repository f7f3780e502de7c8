import Scriptlet.Proofs.Activity.Request

/-!
# Records of a run

Whatever is noted when an activity ends makes a record of the run, in the order in which the
activities end.  The record of an activity is that of its parts, in their order, and its own note at
the end; nothing is in it but the notes on what is carried out, and all of them are.
-/

namespace Scriptlet

variable {α ε : Type}

/-! ## Records -/

/-- The records of the parts of a plan, as it is followed from a machine on. -/
def Plan.record (recorded : Activity → Machine → List ε) : Plan α → Machine → List ε
  | .last _, _ => []
  | .own steps next, machine => match steps machine with
      | .ok value after => (next value).record recorded after
      | .error _ _ => []
  | .part activity next, machine => recorded activity machine ++
      match activity.steps machine with
      | .ok value after => (next value).record recorded after
      | .error _ _ => []
  | .attempt activity next, machine => recorded activity machine ++
      match activity.steps machine with
      | .ok value after => (next (.ok value)).record recorded after
      | .error fault after => (next (.error fault)).record recorded after

/-- The record of an activity. -/
def Activity.record (note : Activity → Machine → List ε) (activity : Activity)
    (machine : Machine) : List ε :=
  activity.plan.record
      (fun part middle => if part.weight < activity.weight then part.record note middle else [])
      (activity.enter machine) ++
    note activity machine
termination_by activity.weight

/-- The record of a machine that serves requests. -/
def Machine.record (note : Activity → Machine → List ε) (machine : Machine) :
    List Request → List ε
  | [] => []
  | request :: rest => request.plan.record (Activity.record note) machine ++
      (machine.serve request).record note rest

/-- A plan has the same record if all its parts have. -/
theorem Plan.record_congr {plan : Plan α} {own : {β : Type} → MachineM β → Prop}
    {part : Activity → Prop} (each : plan.Each own part)
    {recorded other : Activity → Machine → List ε}
    (same : ∀ activity, part activity → recorded activity = other activity) (machine : Machine) :
    plan.record recorded machine = plan.record other machine := by
  induction plan generalizing machine with
  | last => rfl
  | own steps next ih =>
      unfold record
      cases steps machine with
      | ok value after => exact ih value (each.2 value) after
      | error => rfl
  | part activity next ih =>
      unfold record
      rw [same activity each.1]
      cases activity.steps machine with
      | ok value after => exact congrArg _ (ih value (each.2 value) after)
      | error => rfl
  | attempt activity next ih =>
      unfold record
      rw [same activity each.1.2]
      cases activity.steps machine with
      | ok value after => exact congrArg _ (ih (.ok value) (each.2 _) after)
      | error fault after => exact congrArg _ (ih (.error fault) (each.2 _) after)

theorem Activity.record_eq (note : Activity → Machine → List ε) (activity : Activity)
    (machine : Machine) :
    activity.record note machine =
      activity.plan.record (Activity.record note) (activity.enter machine) ++
        note activity machine := by
  rw [Activity.record]
  congr 1
  refine Plan.record_congr activity.plan_each (fun part allowed => ?_) _
  exact funext fun middle => if_pos allowed.1

theorem Machine.record_append (note : Activity → Machine → List ε) (machine : Machine)
    (first second : List Request) :
    machine.record note (first ++ second) =
      machine.record note first ++ (machine.serveAll first).record note second := by
  induction first generalizing machine with
  | nil => rfl
  | cons request rest ih =>
      simp only [List.cons_append, record, ih, List.append_assoc]
      rfl

/-! ## What is recorded -/

/-- A plan that is followed from a machine on begins a part of it. -/
def Plan.Begins (plan : Plan α) (machine : Machine) (inner : Occurrence) : Prop :=
  (∃ next, Leads (plan, machine) (.part inner.activity next, inner.machine)) ∨
    ∃ next, Leads (plan, machine) (.attempt inner.activity next, inner.machine)

/-- The activity is carried out while the requests are served. -/
def Machine.CarriesOut (start : Machine) (requests : List Request) (occurrence : Occurrence) :
    Prop :=
  ∃ earlier request later root, requests = earlier ++ request :: later ∧
    request.plan.Begins (start.serveAll earlier) root ∧ root.Inside occurrence

section Members

variable {recorded : Activity → Machine → List ε} {note : Activity → Machine → List ε} {event : ε}

theorem Plan.Begins.after {before after : Plan α × Machine} (step : Step before after)
    {inner : Occurrence} (begins : after.1.Begins after.2 inner) :
    before.1.Begins before.2 inner :=
  begins.imp (Exists.imp fun _ => .head step) (Exists.imp fun _ => .head step)

/-- The rest of the record of a plan is the record of what remains of the plan. -/
theorem Plan.record_of_leads {before after : Plan α × Machine} (leads : Leads before after)
    (found : event ∈ after.1.record recorded after.2) :
    event ∈ before.1.record recorded before.2 := by
  induction leads using Relation.ReflTransGen.head_induction_on with
  | refl => exact found
  | head step _ ih =>
      cases step with
      | own run =>
          dsimp only
          unfold record
          rwa [run]
      | part run | returned run | failed run =>
          dsimp only
          unfold record
          rw [run]
          exact List.mem_append_right _ ih

/-- What is recorded of a plan is recorded of one of the parts that it begins. -/
theorem Plan.mem_record {plan : Plan α} {machine : Machine} :
    event ∈ plan.record recorded machine ↔
      ∃ inner, plan.Begins machine inner ∧ event ∈ recorded inner.activity inner.machine := by
  constructor
  · intro found
    induction plan generalizing machine with
    | last => cases found
    | own steps next ih =>
        unfold record at found
        split at found
        · rename_i value after run
          exact (ih value found).imp fun _ => And.imp_left (.after (.own run))
        · cases found
    | part activity next ih =>
        unfold record at found
        rcases List.mem_append.mp found with here | found
        · exact ⟨⟨activity, machine⟩, .inl ⟨next, .refl⟩, here⟩
        · split at found
          · rename_i value after run
            exact (ih value found).imp fun _ => And.imp_left (.after (.part run))
          · cases found
    | attempt activity next ih =>
        unfold record at found
        rcases List.mem_append.mp found with here | found
        · exact ⟨⟨activity, machine⟩, .inr ⟨next, .refl⟩, here⟩
        · split at found
          · rename_i value after run
            exact (ih (.ok value) found).imp fun _ => And.imp_left (.after (.returned run))
          · rename_i fault after run
            exact (ih (.error fault) found).imp fun _ => And.imp_left (.after (.failed run))
  · rintro ⟨inner, ⟨next, leads⟩ | ⟨next, leads⟩, found⟩
    all_goals
      refine record_of_leads leads ?_
      dsimp only
      unfold record
      exact List.mem_append_left _ found

/-- The record of an activity has the notes on everything that is carried out as a part of it. -/
theorem Activity.mem_record {root : Occurrence} :
    event ∈ root.activity.record note root.machine ↔
      ∃ occurrence, root.Inside occurrence ∧
        event ∈ note occurrence.activity occurrence.machine := by
  constructor
  · intro found
    -- By induction on the room: every part has less of it.
    generalize size : root.activity.weight = weight
    induction weight using Nat.strongRecOn generalizing root with
    | ind weight lower =>
        subst size
        rw [record_eq] at found
        rcases List.mem_append.mp found with found | here
        · obtain ⟨inner, begins, found⟩ := Plan.mem_record.mp found
          have holds : root.Holds inner := begins
          obtain ⟨occurrence, inside, noted⟩ := lower _ holds.allowed.1 found rfl
          exact ⟨occurrence, .head holds inside, noted⟩
        · exact ⟨root, .refl, here⟩
  · rintro ⟨occurrence, inside, noted⟩
    induction inside using Relation.ReflTransGen.head_induction_on with
    | refl =>
        rw [record_eq]
        exact List.mem_append_right _ noted
    | head holds _ ih =>
        rw [record_eq]
        exact List.mem_append_left _ (Plan.mem_record.mpr ⟨_, holds, ih⟩)

/-- The record of a machine has the notes on everything that is carried out. -/
theorem Machine.mem_record {start : Machine} {requests : List Request} :
    event ∈ start.record note requests ↔
      ∃ occurrence, start.CarriesOut requests occurrence ∧
        event ∈ note occurrence.activity occurrence.machine := by
  constructor
  · intro found
    induction requests generalizing start with
    | nil => cases found
    | cons request rest ih =>
        rcases List.mem_append.mp found with here | found
        · obtain ⟨root, begins, found⟩ := Plan.mem_record.mp here
          obtain ⟨occurrence, inside, noted⟩ := Activity.mem_record.mp found
          exact ⟨occurrence, ⟨[], request, rest, root, rfl, begins, inside⟩, noted⟩
        · obtain ⟨occurrence, ⟨earlier, next, later, root, rfl, carried⟩, noted⟩ := ih found
          exact ⟨occurrence, ⟨request :: earlier, next, later, root, rfl, carried⟩, noted⟩
  · rintro ⟨occurrence, ⟨earlier, request, later, root, rfl, begins, inside⟩, noted⟩
    rw [Machine.record_append]
    refine List.mem_append_right _ (List.mem_append_left _ (Plan.mem_record.mpr ?_))
    exact ⟨root, begins, Activity.mem_record.mpr ⟨occurrence, inside, noted⟩⟩

end Members

end Scriptlet
