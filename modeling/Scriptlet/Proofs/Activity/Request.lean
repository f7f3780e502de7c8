import Scriptlet.Proofs.Activity.Promise
import Scriptlet.Proofs.Jobs.Order

/-!
# The plans of requests

What is asked of a machine from outside begins at most one activity.
-/

namespace Scriptlet

namespace Request

/-- What a request consists of. -/
def plan : Request → Plan Unit
  | .perform room action arguments =>
      .part (.perform room action arguments) fun _ => .last (pure ())
  | .invoke room job => .part (.callJob 0 room job) fun _ => .last (pure ())
  | .call callee arguments => .own get fun machine => match callee with
      | .closure id =>
          .part (.callBack (stackRoom machine.depthLimit) id arguments) fun result =>
          .own (Machine.askStore fun store =>
            store.unwrap (stackRoom machine.depthLimit) result) fun data =>
          .own (Machine.onStore data.wrap) fun _ => .last (pure ())
      | .host id => match machine.store.objects[id]?.bind HostObject.callable? with
          | some (_, action) =>
              .part (.perform (stackRoom machine.depthLimit) action arguments) fun _ =>
              .last (pure ())
          | none => .last (pure ())
      | _ => .last (pure ())
  | .run moduleRoot scope source file =>
      .own (Machine.addRunner
        { source := source, file := file, moduleRoot := moduleRoot, globals := scope })
          fun runner =>
      .own (readProgram source file) fun program =>
      .own Machine.addUnit fun unit =>
      .own get fun machine =>
      .part (.runBody ⟨runner, unit, scope⟩ (stackRoom machine.depthLimit) program.body) fun _ =>
      .last (pure ())
  | .close => .last (Machine.onStore closeSchedule)

/-- Steps whose result is dropped end at the same machine. -/
theorem endState_drop {α : Type} (steps : MachineM α) (machine : Machine) :
    endState ((steps >>= fun _ => pure ()) machine) = endState (steps machine) := by
  change endState (EStateM.bind steps _ machine) = _
  unfold EStateM.bind
  cases steps machine <;> rfl

theorem run_call (callee : Value) (arguments : List Value) :
    (Request.call callee arguments).plan.run =
      callFromHost callee arguments >>= fun _ => pure () := by
  unfold callFromHost
  rw [bind_assoc]
  refine bind_congr fun machine => ?_
  cases callee with
  | closure id =>
      simp only [Plan.run, bind_assoc, pure_bind]
      rfl
  | host id =>
      dsimp only
      cases machine.store.objects[id]?.bind HostObject.callable? with
      | some called =>
          simp only [bind_assoc, pure_bind]
          rfl
      | none => rfl
  | _ => rfl

theorem run_run (moduleRoot : Option String) (scope : ScopeId) (source : String)
    (file : Option String) :
    (Request.run moduleRoot scope source file).plan.run =
      runSource moduleRoot scope source file >>= fun _ => pure () := by
  unfold runSource runProgram
  simp only [bind_assoc, pure_bind]
  rfl

/-- To serve a request is to follow its plan. -/
theorem serve_eq (machine : Machine) (request : Request) :
    machine.serve request = endState (request.plan.run machine) := by
  cases request with
  | perform room action arguments =>
      exact (endState_drop (Scriptlet.perform room action arguments) machine).symm
  | invoke room job => exact (endState_drop (callJob room job) machine).symm
  | call callee arguments =>
      rw [run_call]
      exact (endState_drop (callFromHost callee arguments) machine).symm
  | run moduleRoot scope source file =>
      rw [run_run]
      exact (endState_drop (runSource moduleRoot scope source file) machine).symm
  | close => rfl

/-! ## What requests do themselves and what they begin -/

/-- The steps that requests take apart from the activities that they begin. -/
inductive Owns : {β : Type} → MachineM β → Prop
  | modest {β : Type} {steps : MachineM β} (modest : Modest steps) : Owns steps
  | newRunner {runner : Runner} (idle : runner.depth = 0) : Owns (Machine.addRunner runner)
  | read (source : String) (file : Option String) : Owns (readProgram source file)
  | close : Owns (Machine.onStore closeSchedule)

/-- Whether an activity can be begun from outside. -/
def canBegin : Activity → Bool
  | .perform .. | .callJob .. | .callBack .. | .runBody .. => true
  | _ => false

theorem addUnit_modest : Modest Machine.addUnit :=
  ⟨fun _ _ kept => .ok ⟨kept.limit, kept.depths⟩ trivial, fun _ _ obeys => .ok obeys trivial,
    fun machine => ⟨0, fun _ => .unit 0 machine⟩⟩

/-- Reading a program leaves the machine. -/
theorem readProgram_endState (source : String) (file : Option String) (machine : Machine) :
    endState (readProgram source file machine) = machine := by
  change endState (guarded (ofExcept (Program.ofSource _ source file)) machine) = machine
  unfold guarded Machine.mapFault
  cases Program.ofSource (stackRoom machine.depthLimit) source file with
  | ok program => rfl
  | error fault => cases fault <;> rfl

/-- What every request does itself, and which activities it begins. -/
theorem plan_each (request : Request) :
    request.plan.Each Owns (fun activity => canBegin activity = true) := by
  have ends :
      (Plan.last (pure ()) : Plan Unit).Each Owns (fun activity => canBegin activity = true) :=
    .modest (.pure ())
  cases request with
  | perform | invoke => exact ⟨rfl, fun _ => ends⟩
  | call callee arguments =>
      refine ⟨.modest .get, fun machine => ?_⟩
      cases callee with
      | closure id =>
          refine ⟨rfl, fun result => ⟨.modest (unwrap_modest _ result), fun data => ?_⟩⟩
          refine ⟨.modest (.onStore (fun _ => wrap_steady trivial) (wrap_alters data)), ?_⟩
          exact fun _ => ends
      | host id =>
          dsimp only
          split
          · exact ⟨rfl, fun _ => ends⟩
          · exact ends
      | _ => exact ends
  | run moduleRoot scope source file =>
      refine ⟨.newRunner rfl, fun runner => ⟨.read source file, fun program => ?_⟩⟩
      exact ⟨.modest addUnit_modest, fun unit =>
        ⟨.modest .get, fun machine => ⟨rfl, fun _ => ends⟩⟩⟩
  | close => exact .close

end Request

/-- A request begins an activity. -/
def Machine.Begins (machine : Machine) (request : Request) (root : Occurrence) : Prop :=
  ∃ next, Plan.Leads (request.plan, machine) (.part root.activity next, root.machine)

/-- What every request keeps is kept by all of them. -/
theorem serveAll_keeps {holds : Machine → Prop} {requests : List Request}
    (each : ∀ request ∈ requests, ∀ machine, holds machine → holds (machine.serve request))
    {machine : Machine} (start : holds machine) : holds (machine.serveAll requests) := by
  induction requests generalizing machine with
  | nil => exact start
  | cons request rest ih =>
      refine ih (fun later found => each later (List.mem_cons_of_mem _ found)) ?_
      exact each request List.mem_cons_self machine start

/-! ## Requests in turn -/

/-- The activity is carried out while requests are served, from the given machine on. -/
def Machine.Carries (start : Machine) (occurrence : Occurrence) : Prop :=
  ∃ requests request root, (start.serveAll requests).Begins request root ∧ root.Inside occurrence

/-- What a machine passes through while it serves requests, from the one machine to
the other one. -/
inductive Machine.Passes (start : Machine) : Machine → Machine → Prop
  | follow (requests : List Request) (request : Request) {before after : Plan Unit × Machine}
      (reached : Plan.Leads (request.plan, start.serveAll requests) before)
      (leads : Plan.Leads before after) : Passes start before.2 after.2
  | inside (requests : List Request) (request : Request) {root : Occurrence}
      (begins : (start.serveAll requests).Begins request root) {first second : Machine}
      (passes : root.Passes first second) : Passes start first second
  | finish (requests : List Request) (request : Request) {rest : Plan Unit} {machine : Machine}
      (reached : Plan.Leads (request.plan, start.serveAll requests) (rest, machine)) :
      Passes start machine ((start.serveAll requests).serve request)
  | trans {first second third : Machine} (before : Passes start first second)
      (after : Passes start second third) : Passes start first third

/-- Every machine between two requests is passed through. -/
theorem Machine.Passes.between (start : Machine) (requests : List Request) :
    start.Passes (start.serveAll requests) (start.serveAll requests) :=
  @follow start requests .close (Request.close.plan, start.serveAll requests)
    (Request.close.plan, start.serveAll requests) .refl .refl

/-- Activities keep the promise, and requests keep what is true between them. -/
structure Promise.Served (P : Promise) (rests : Machine → Prop) : Prop where
  kept : P.Kept
  meets : ∀ (request : Request) machine, rests machine →
    request.plan.Meets P (fun _ after => rests after) machine

namespace Promise.Served

variable {P : Promise} {rests : Machine → Prop} {start : Machine}

/-- The rest of a request that is being served is carried out as promised. -/
theorem ends (served : P.Served rests) {request : Request} {machine : Machine}
    (rested : rests machine) {rest : Plan Unit} {middle : Machine}
    (reached : Plan.Leads (request.plan, machine) (rest, middle)) :
    P.along middle (machine.serve request) ∧ rests (machine.serve request) := by
  have meets := (served.kept.meets_of_leads reached (served.meets request machine rested)).2
  have ended := run_of_meets (request.plan_each.of_leads reached)
    (fun activity _ machine begins => served.kept.by_all activity machine begins) meets
  have same := Plan.run_of_leads reached
  dsimp only at ended same
  rw [Request.serve_eq, same]
  revert ended
  cases rest.run middle <;> exact fun ended => ended

theorem serveAll (served : P.Served rests) (rested : rests start) (requests : List Request) :
    rests (start.serveAll requests) := by
  refine serveAll_keeps (fun request _ machine (rested : rests machine) => ?_) rested
  exact (served.ends rested .refl).2

theorem along_serveAll (served : P.Served rests) (rested : rests start) (requests : List Request) :
    P.along start (start.serveAll requests) := by
  have kept : rests (start.serveAll requests) ∧ P.along start (start.serveAll requests) := by
    refine serveAll_keeps
      (fun request _ machine (held : rests machine ∧ P.along start machine) => ?_)
      ⟨rested, P.refl start⟩
    have step : P.along machine (machine.serve request) ∧ rests (machine.serve request) :=
      served.ends held.1 .refl
    exact ⟨step.2, P.trans held.2 step.1⟩
  exact kept.2

/-- The promise is kept by everything that is carried out. -/
theorem before (served : P.Served rests) (rested : rests start) {occurrence : Occurrence}
    (carried : start.Carries occurrence) : P.before occurrence.activity occurrence.machine := by
  obtain ⟨requests, request, root, ⟨next, begins⟩, inside⟩ := carried
  have meets := served.meets request _ (served.serveAll rested requests)
  exact served.kept.before_of_inside (served.kept.meets_of_leads begins meets).2.1 inside

/-- While requests are served, the machine changes as promised. -/
theorem along (served : P.Served rests) (rested : rests start) {first second : Machine}
    (passes : start.Passes first second) : P.along first second := by
  induction passes with
  | follow requests request reached leads =>
      have meets := served.meets request _ (served.serveAll rested requests)
      have meets := (served.kept.meets_of_leads reached meets).2
      exact (served.kept.meets_of_leads leads meets).1
  | inside requests request begins passes =>
      refine served.kept.along_of_passes ?_ passes
      exact served.before rested ⟨requests, request, _, begins, .refl⟩
  | finish requests request reached =>
      exact (served.ends (served.serveAll rested requests) reached).1
  | trans _ _ before after => exact P.trans before after

end Promise.Served

end Scriptlet
