import Scriptlet.Proofs.Activity.Request

/-!
# The depth of calls

Every runner counts the calls of functions that it is inside of.  At any time of any run this count
is the number of functions that are active for the runner on the stack, and it is never above the
limit.  A call is refused exactly when the limit is reached, and nothing is done then.
-/

namespace Scriptlet

/-! ## Counts at the beginning and at the end of activities -/

namespace Activity

/-- Whether the body of a function is active for a runner. -/
def activates (runner : RunnerId) : Activity → Bool
  | .activate context _ _ => context.runner = runner
  | _ => false

@[simp]
theorem enter_depthLimit (activity : Activity) (machine : Machine) :
    (activity.enter machine).depthLimit = machine.depthLimit := by
  cases activity <;> rfl

theorem enter_depths (activity : Activity) (machine : Machine) (runner : RunnerId) :
    (activity.enter machine).depths[runner]? =
      machine.depths[runner]?.map (· + (activity.activates runner).toNat) := by
  cases activity with
  | activate context room body =>
      have counted : ((activate context room body).enter machine).depths =
          machine.depths.modify context.runner (· + 1) :=
        depths_changeRunner machine context.runner (· + 1) fun _ => rfl
      rw [counted, Array.getElem?_modify]
      by_cases same : context.runner = runner <;> simp [activates, same]
  | _ => simp [enter, activates]

/-- A call that is counted in is counted out again. -/
theorem leave_sameCounts {activity : Activity} {start machine : Machine}
    (same : (activity.enter start).SameCounts machine) :
    start.SameCounts (activity.leave machine) := by
  cases activity with
  | activate context room body =>
      have counted : ((activate context room body).leave machine).depths =
          machine.depths.modify context.runner (· - 1) :=
        depths_changeRunner machine context.runner (· - 1) fun _ => rfl
      refine ⟨same.limit, Array.ext_getElem? fun index => ?_⟩
      rw [counted, same.depths, Array.getElem?_modify, enter_depths]
      by_cases here : context.runner = index <;> simp [activates, here, Function.comp_def]
  | _ => exact same

theorem locateFault_counting (runner : RunnerId) (span : Span) (fault : Fault) :
    Counting (locateFault runner span fault) := by
  unfold locateFault
  split
  · split
    · exact .pure _
    · refine .bind .get fun machine => ?_
      dsimp only
      split
      · exact .bind (.onStore _) fun _ => .pure _
      · exact .bind (.pure _) fun _ => .pure _
  · exact .pure _

/-- However an activity ends, it leaves the counts that it began with. -/
theorem handle_sameCounts {activity : Activity} {start machine after : Machine}
    {fault handled : Fault} (same : (activity.enter start).SameCounts machine)
    (handling : activity.handle fault machine = .ok handled after) : start.SameCounts after := by
  have located (runner : RunnerId) (span : Span)
      (handling : locateFault runner span fault machine = .ok handled after) :
      machine.SameCounts after := by
    have counted := (locateFault_counting runner span fault).endState machine
    rw [handling] at counted
    exact counted
  cases activity with
  | evaluate | execute => exact same.trans (located _ _ handling)
  | activate context room body =>
      cases handling
      exact (leave_sameCounts same : start.SameCounts ((activate context room body).leave machine))
  | runBody =>
      cases fault <;> cases handling <;> exact same
  | _ =>
      cases handling
      exact same

/-- All own steps of activities leave the counts. -/
theorem Owns.counting {activity : Activity} {β : Type} {steps : MachineM β}
    (owned : activity.Owns steps) : Counting steps := by
  cases owned with
  | modest modest => exact modest.counting
  | fetch room arguments number =>
      refine .bind .get fun machine => ?_
      split
      · unfold resultOf
        split
        · exact .pure _
        · exact .throw _
        · exact .throw _
      · exact .throw _
  | take | cancel | start => exact .onStore _
  | finish => exact .bind (.onStore _) fun _ => .onStore _

end Activity

/-- Activities leave the counts as they are, and a function becomes active only below the limit. -/
def Promise.counted : Promise where
  before activity machine := match activity with
    | .activate context _ _ =>
        ∃ depth, machine.depths[context.runner]? = some depth ∧ depth < machine.depthLimit
    | _ => True
  after _ start _ machine := start.SameCounts machine
  along _ _ := True
  refl _ := trivial
  trans _ _ := trivial

theorem counted_ending {activity : Activity} {start machine : Machine}
    (same : (activity.enter start).SameCounts machine) (outcome : Except Fault activity.Result) :
    Promise.counted.ending activity start outcome machine := by
  cases outcome with
  | ok value => exact ⟨trivial, Activity.leave_sameCounts same⟩
  | error fault => exact fun _ _ handling => ⟨trivial, Activity.handle_sameCounts same handling⟩

/-- A plan ends with the counts that it began with, if no part of it makes a function active. -/
theorem counted_meets {α : Type} {plan : Plan α} {own : {β : Type} → MachineM β → Prop}
    {part : Activity → Prop} (each : plan.Each own part)
    (counting : ∀ {β : Type} {steps : MachineM β}, own steps → Counting steps)
    (begins : ∀ activity, part activity → ∀ machine, Promise.counted.before activity machine)
    {start machine : Machine} (same : start.SameCounts machine)
    {ending : Except Fault α → Machine → Prop}
    (ends : ∀ outcome machine, start.SameCounts machine → ending outcome machine) :
    plan.Meets .counted ending machine := by
  refine Promise.meets_of_each each start.SameCounts (fun _ _ => True) ?_ ?_ ?_ same
  · intro β steps owned machine same
    have ended := same.trans ((counting owned).endState machine)
    revert ended
    cases steps machine <;> exact fun ended => ⟨trivial, ended, fun _ _ => trivial⟩
  · intro activity allowed machine same
    exact ⟨begins activity allowed machine, fun _ _ _ kept => ⟨same.trans kept, fun _ _ => trivial⟩⟩
  · exact fun outcome machine same _ => ends outcome machine same

/-- A function is called only below the limit. -/
theorem callClosure_counted (runner : RunnerId) (room : Nat) (id : ClosureId)
    (arguments : List Value) (machine : Machine) :
    (Activity.planCallClosure runner room id arguments).Meets .counted
      (Promise.counted.ending (.callClosure runner room id arguments) machine) machine := by
  have closing {after : Machine} (same : machine.SameCounts after) (outcome : Except Fault Value) :
      Promise.counted.ending (.callClosure runner room id arguments) machine outcome after :=
    @counted_ending (.callClosure runner room id arguments) machine after same outcome
  have ends {middle : Machine} (same : machine.SameCounts middle) {steps : MachineM Value}
      (counting : Counting steps) : (Plan.last steps).Meets .counted
        (Promise.counted.ending (.callClosure runner room id arguments) machine) middle := by
    refine .last ?_
    have ended := same.trans (counting.endState middle)
    revert ended
    cases steps middle <;> exact fun ended => ⟨trivial, closing ended _⟩
  match room with
  | 0 => exact ends (.refl machine) (.throw _)
  | room + 1 =>
      refine .looking ?_
      unfold Activity.planCalled
      split
      · rename_i current closure found _
        split
        · exact ends (.refl machine) (.throw _)
        · rename_i below
          refine .step rfl trivial ⟨⟨current.depth, ?_, Nat.lt_of_not_le below⟩, ?_⟩
          · change (machine.runners.map Runner.depth)[runner]? = _
            rw [Array.getElem?_map, found]
            rfl
          · intro outcome after _ kept
            -- The new scope has no part in the counts.
            have same : machine.SameCounts after := ⟨kept.limit, kept.depths⟩
            cases outcome with
            | ok completion => exact ends same (.pure _)
            | error fault => exact closing same (.error fault)
      · exact ends (.refl machine) (refuseCall_counting _ _)

theorem counted_kept : Promise.counted.Kept := by
  intro activity machine _
  refine ⟨trivial, ?_⟩
  have plain (notCall : ∀ inner, activity.Allows inner → ∀ machine,
      Promise.counted.before inner machine) :
      activity.plan.Meets .counted (Promise.counted.ending activity machine)
        (activity.enter machine) :=
    counted_meets activity.plan_each (fun owned => owned.counting) notCall (.refl _)
      fun outcome _ same => counted_ending same outcome
  cases activity with
  | callClosure => exact callClosure_counted ..
  | _ =>
      refine plain fun inner allowed machine => ?_
      cases inner with
      | activate =>
          obtain ⟨_, _, _, _, same⟩ := allowed.2
          cases same
      | _ => trivial

/-! ## Activities on the stack -/

/-- How many functions are active for a runner with the given activities on the stack. -/
def activations (runner : RunnerId) (stack : List Activity) : Nat :=
  stack.countP (Activity.activates runner)

namespace Occurrence

/-- The activities on the stack while an activity is carried out, the innermost first. -/
inductive Stacked (root : Occurrence) : List Activity → Occurrence → Prop
  | bottom : Stacked root [root.activity] root
  | above {stack : List Activity} {outer inner : Occurrence} (below : Stacked root stack outer)
      (holds : outer.Holds inner) : Stacked root (inner.activity :: stack) inner

variable {root outer inner : Occurrence} {stack : List Activity}

theorem Stacked.inside (stacked : root.Stacked stack inner) : root.Inside inner := by
  induction stacked with
  | bottom => exact .refl
  | above _ holds ih => exact ih.tail holds

/-- While an activity follows its plan, the counts are those with which it entered the plan. -/
theorem At.sameCounts (begins : Promise.counted.before outer.activity outer.machine)
    {rest : Plan outer.activity.Result} {machine : Machine} (reached : outer.At rest machine) :
    (outer.activity.enter outer.machine).SameCounts machine := by
  refine counted_kept.holds_of_leads (fun steps owned machine same => ?_)
    (fun _ _ _ _ _ _ kept same => same.trans kept) reached outer.activity.plan_each
    (counted_kept _ _ begins).2 (.refl _)
  exact same.trans ((Activity.Owns.counting owned).endState machine)

theorem Holds.sameCounts (begins : Promise.counted.before outer.activity outer.machine)
    (holds : outer.Holds inner) :
    (outer.activity.enter outer.machine).SameCounts inner.machine := by
  rcases holds with ⟨_, reached⟩ | ⟨_, reached⟩ <;> exact reached.sameCounts begins

/-- The count of a runner is the number of its active functions on the stack. -/
theorem Stacked.depths (begins : Promise.counted.before root.activity root.machine)
    (stacked : root.Stacked stack inner) (runner : RunnerId) :
    (inner.activity.enter inner.machine).depths[runner]? =
      root.machine.depths[runner]?.map (· + activations runner stack) := by
  have counted (activity : Activity) (stack : List Activity) :
      activations runner (activity :: stack) =
        activations runner stack + (activity.activates runner).toNat := by
    unfold activations
    rw [List.countP_cons]
    cases activity.activates runner <;> rfl
  induction stacked with
  | bottom =>
      rw [Activity.enter_depths, counted]
      simp [activations]
  | @above stack outer inner below holds ih =>
      have same := holds.sameCounts (counted_kept.before_of_inside begins below.inside)
      rw [Activity.enter_depths, same.depths, ih, Option.map_map, counted]
      exact congrArg (Option.map · _) (funext fun _ => Nat.add_assoc ..)

/-- No count is above the limit. -/
theorem Stacked.depth_le (begins : Promise.counted.before root.activity root.machine)
    (below : ∀ (runner : RunnerId) (depth : Nat),
      (root.activity.enter root.machine).depths[runner]? = some depth →
      depth ≤ root.machine.depthLimit)
    (stacked : root.Stacked stack inner) {runner : RunnerId} {depth : Nat}
    (counted : (inner.activity.enter inner.machine).depths[runner]? = some depth) :
    depth ≤ inner.machine.depthLimit := by
  induction stacked generalizing runner depth with
  | bottom => exact below runner depth counted
  | @above stack outer inner below holds ih =>
      have outside := counted_kept.before_of_inside begins below.inside
      have inside := counted_kept.before_of_holds outside holds
      have same := holds.sameCounts outside
      have limit : inner.machine.depthLimit = outer.machine.depthLimit :=
        same.limit.trans (Activity.enter_depthLimit _ _)
      rw [Activity.enter_depths] at counted
      obtain ⟨old, found, rfl⟩ := Option.map_eq_some_iff.mp counted
      cases active : inner.activity.activates runner with
      | false =>
          rw [limit]
          exact ih (same.depths ▸ found)
      | true =>
          -- The count is one more than that of the call, which was below the limit.
          cases activity : inner.activity with
          | activate context room body =>
              rw [activity] at active inside
              obtain ⟨depth, counted, less⟩ := inside
              have here : context.runner = runner := by simpa [Activity.activates] using active
              rw [here, found] at counted
              cases counted
              exact less
          | _ =>
              rw [activity] at active
              cases active

/-! ## Calls at the limit -/

/-- The activity refuses a call at once: it fails as too deep a nesting, does nothing to the machine
and begins nothing. -/
def Refuses (occurrence : Occurrence) : Prop :=
  occurrence.outcome = .error (.ofCause (.tooDeep occurrence.machine.depthLimit))
      occurrence.machine ∧
    ∀ inner, ¬ occurrence.Holds inner

section Calls

variable {runner : RunnerId} {room : Nat} {id : ClosureId} {arguments : List Value}
  {machine : Machine} {current : Runner} {closure : Closure}
  (known : machine.runners[runner]? = some current)
  (found : machine.store.closures[id]? = some closure)

include known found

theorem refuses_of_limit_le (reached : machine.depthLimit ≤ current.depth) :
    Refuses ⟨.callClosure runner (room + 1) id arguments, machine⟩ := by
  -- The plan ends in a refusal after one look at the machine, before any part of it.
  have refused : Activity.planCalled runner room id arguments machine =
      .last (throw (.ofCause (.tooDeep machine.depthLimit))) := by
    simp only [Activity.planCalled, known, found, if_pos reached]
  have run : (Activity.planCallClosure runner (room + 1) id arguments).run machine =
      .error (.ofCause (.tooDeep machine.depthLimit)) machine := by
    refine (bind_of_ok rfl : (Plan.own get _).run machine = _).trans ?_
    rw [refused]
    rfl
  let nothing : Promise := ⟨fun _ _ => False, fun _ _ _ _ => True, fun _ _ => True,
    fun _ => trivial, fun _ _ => trivial⟩
  have meets : (Activity.planCallClosure runner (room + 1) id arguments).Meets nothing
      (fun _ _ => True) machine := by
    refine .looking ?_
    rw [refused]
    exact .last ⟨trivial, trivial⟩
  have kept : nothing.Kept := fun _ _ => False.elim
  refine ⟨?_, fun inner => ?_⟩
  · exact @Activity.steps_of_error (.callClosure runner (room + 1) id arguments) machine machine _ _
      machine run rfl
  · rintro (⟨_, reached⟩ | ⟨_, reached⟩) <;> exact (kept.meets_of_leads reached meets).2.1

theorem enters_of_depth_lt (below : current.depth < machine.depthLimit) :
    ∃ held, Enters ⟨.callClosure runner (room + 1) id arguments, machine⟩ held ∧
      held.activity = .activate ⟨runner, closure.unit, machine.scopes.size⟩ room closure.body := by
  let opening := Machine.openScope ("fn " ++ closure.name.getD "anonymous") closure.scope
    (bindArguments closure.params arguments [])
  have called : Activity.planCalled runner room id arguments machine = .own opening fun scope =>
      .part (.activate ⟨runner, closure.unit, scope⟩ room closure.body) fun completion =>
      .last (pure (Completion.returned completion)) := by
    simp only [Activity.planCalled, known, found, if_neg (Nat.not_le_of_lt below)]
    rfl
  have leads : Plan.Leads (Activity.planCallClosure runner (room + 1) id arguments, machine)
      (.part (.activate ⟨runner, closure.unit, machine.scopes.size⟩ room closure.body)
        (fun completion => .last (pure (Completion.returned completion))),
        endState (opening machine)) := by
    refine .head (.own rfl) (.single ?_)
    rw [called]
    exact .own rfl
  exact ⟨⟨_, endState (opening machine)⟩, ⟨_, leads⟩, rfl⟩

end Calls

/-- The counts are right while an activity is carried out with the given activities on the stack. -/
structure DepthCounted (stack : List Activity) (occurrence : Occurrence) : Prop where
  /-- At any time, a runner counts its active functions, which are no more than the limit. -/
  counted : ∀ rest machine, occurrence.At rest machine → ∀ id runner,
    machine.runner? id = some runner →
      runner.depth = activations id stack ∧ runner.depth ≤ machine.depthLimit
  /-- However the activity ends, the counts are those with which it began. -/
  restored : occurrence.machine.SameCounts occurrence.last
  /-- A call is refused exactly when the limit is reached, and makes a function active otherwise. -/
  refused : ∀ runner room id arguments current closure,
    occurrence.activity = .callClosure runner (room + 1) id arguments →
    occurrence.machine.runner? runner = some current →
    occurrence.machine.store.closures[id]? = some closure →
      (occurrence.Refuses ↔ occurrence.machine.depthLimit ≤ activations runner stack) ∧
      (activations runner stack < occurrence.machine.depthLimit →
        ∃ held, occurrence.Enters held ∧ held.activity =
          .activate ⟨runner, closure.unit, occurrence.machine.scopes.size⟩ room closure.body)

theorem getElem?_depths (machine : Machine) (id : RunnerId) :
    machine.depths[id]? = (machine.runner? id).map Runner.depth :=
  Array.getElem?_map ..

end Occurrence

/-! ## Between requests -/

/-- No function is active. -/
def Machine.Resting (machine : Machine) : Prop :=
  ∀ runner ∈ machine.runners, runner.depth = 0

theorem resting_iff {machine : Machine} :
    machine.Resting ↔ ∀ (id : RunnerId) (depth : Nat),
      machine.depths[id]? = some depth → depth = 0 := by
  refine ⟨fun resting id depth counted => ?_, fun resting runner found => ?_⟩
  · rw [Occurrence.getElem?_depths] at counted
    obtain ⟨runner, found, rfl⟩ := Option.map_eq_some_iff.mp counted
    exact resting runner (Array.mem_of_getElem? found)
  · obtain ⟨id, found⟩ := Array.mem_iff_getElem?.mp found
    refine resting id runner.depth ?_
    rw [Occurrence.getElem?_depths, Machine.runner?, found]
    rfl

theorem Machine.SameCounts.resting {before after : Machine} (same : before.SameCounts after)
    (resting : before.Resting) : after.Resting := by
  rw [resting_iff, same.depths]
  exact resting_iff.mp resting

theorem Request.Owns.resting {β : Type} {steps : MachineM β} (owned : Request.Owns steps)
    {machine : Machine} (resting : machine.Resting) : (endState (steps machine)).Resting := by
  cases owned with
  | modest modest => exact (modest.counting.endState machine).resting resting
  | newRunner idle =>
      intro other found
      rcases Array.mem_push.mp found with found | rfl
      · exact resting other found
      · exact idle
  | read => rwa [Request.readProgram_endState]
  | close => exact ((Counting.onStore closeSchedule).endState machine).resting resting

/-- A request that is made while no function is active ends in the same way. -/
theorem resting_meets {machine : Machine} (resting : machine.Resting) (request : Request) :
    request.plan.Meets .counted (fun _ after => after.Resting) machine := by
  refine Promise.meets_of_each request.plan_each Machine.Resting (fun _ _ => True) ?_ ?_ ?_ resting
  · intro β steps owned machine resting
    have ended := owned.resting resting
    revert ended
    cases steps machine <;> exact fun ended => ⟨trivial, ended, fun _ _ => trivial⟩
  · intro activity begun machine resting
    refine ⟨?_, fun _ _ _ kept => ⟨Machine.SameCounts.resting kept resting, fun _ _ => trivial⟩⟩
    cases activity with
    | activate => cases begun
    | _ => trivial
  · exact fun _ _ resting _ => resting

/-- Whatever is carried out inside an activity that is begun while no function is active has the
counts right. -/
theorem Occurrence.Stacked.depthCounted {root inner : Occurrence} {stack : List Activity}
    (begun : Request.canBegin root.activity = true) (resting : root.machine.Resting)
    (stacked : root.Stacked stack inner) : inner.DepthCounted stack := by
  have entered : root.activity.enter root.machine = root.machine := by
    cases activity : root.activity with
    | activate =>
        rw [activity] at begun
        cases begun
    | _ => rfl
  have begins : Promise.counted.before root.activity root.machine := by
    cases activity : root.activity with
    | activate =>
        rw [activity] at begun
        cases begun
    | _ => trivial
  have depths {id : RunnerId} {depth : Nat}
      (counted : (inner.activity.enter inner.machine).depths[id]? = some depth) :
      depth = activations id stack := by
    rw [stacked.depths begins] at counted
    obtain ⟨old, found, rfl⟩ := Option.map_eq_some_iff.mp counted
    rw [resting_iff.mp resting id old found, Nat.zero_add]
  have inside := counted_kept.before_of_inside begins stacked.inside
  refine ⟨fun rest machine reached id runner found => ?_, ?_, ?_⟩
  · have same := reached.sameCounts inside
    have counted : (inner.activity.enter inner.machine).depths[id]? = some runner.depth := by
      rw [← same.depths, Occurrence.getElem?_depths, found]
      rfl
    refine ⟨depths counted, ?_⟩
    rw [same.limit, Activity.enter_depthLimit]
    refine stacked.depth_le begins (fun id depth counted => ?_) counted
    rw [entered] at counted
    rw [resting_iff.mp resting id depth counted]
    exact Nat.zero_le _
  · have kept := counted_kept.by_all inner.activity inner.machine inside
    unfold Occurrence.last Occurrence.outcome
    revert kept
    unfold Promise.KeptBy
    cases inner.activity.steps inner.machine <;> exact fun kept => kept.2
  · intro runner room id arguments current closure called known found
    obtain ⟨activity, machine⟩ := inner
    cases called
    have depth : current.depth = activations runner stack := by
      refine depths ?_
      rw [Occurrence.getElem?_depths]
      exact congrArg (Option.map Runner.depth) known
    rw [← depth]
    refine ⟨⟨fun refuses => ?_, Occurrence.refuses_of_limit_le known found⟩,
      Occurrence.enters_of_depth_lt known found⟩
    by_contra above
    obtain ⟨held, enters, -⟩ := @Occurrence.enters_of_depth_lt runner room id arguments machine
      current closure known found (Nat.lt_of_not_le above)
    exact refuses.2 held (.inl enters)

/-- Whatever is asked of a machine in which no function is active, none is active afterwards, and at
any time the count of a runner is the number of its functions on the stack, at most the limit.  A
call is refused exactly when the limit is reached, and then nothing is done. -/
theorem serveAll_depthCounted (machine : Machine) (resting : machine.Resting)
    (requests : List Request) :
    (machine.serveAll requests).Resting ∧ ∀ request root stack inner,
      (machine.serveAll requests).Begins request root → root.Stacked stack inner →
        inner.DepthCounted stack := by
  have served : (machine.serveAll requests).Resting := by
    refine serveAll_keeps (fun request _ machine resting => ?_) resting
    have ended := Promise.run_of_meets request.plan_each (fun activity _ machine begins =>
      counted_kept.by_all activity machine begins) (resting_meets resting request)
    rw [Request.serve_eq]
    revert ended
    cases request.plan.run machine <;> exact fun ended => ended.2
  refine ⟨served, fun request root stack inner begins stacked => ?_⟩
  obtain ⟨next, leads⟩ := begins
  have begun := (request.plan_each.of_leads leads).1
  refine stacked.depthCounted begun ?_
  exact counted_kept.holds_of_leads (fun _ owned _ resting => Request.Owns.resting owned resting)
    (fun _ _ _ _ _ _ kept resting => Machine.SameCounts.resting kept resting) leads
    request.plan_each
    (resting_meets served request) served

/-- With room for one call, a call inside another one is refused: only the outer call has had a
scope, and none is active afterwards. -/
theorem serveAll_depthCounted_nested :
    let machine : Machine := .unused ((FileTree.directory []).disk "/") 1 0.0
    let served := machine.serveAll
      [.run none 0 "(fn() \x7b (fn() \x7b \x7d)() \x7d)()" none]
    machine.Resting ∧ served.scopes.size = 1 ∧ served.depths = #[0] ∧
      Occurrence.DepthCounted [.perform 9 (.control .yield) []]
        ⟨.perform 9 (.control .yield) [], served⟩ := by
  intro machine served
  have resting : machine.Resting := nofun
  have counted (requests : List Request) : Occurrence.DepthCounted
      [.perform 9 (.control .yield) []]
      ⟨.perform 9 (.control .yield) [], machine.serveAll requests⟩ := by
    let root : Occurrence := ⟨.perform 9 (.control .yield) [], machine.serveAll requests⟩
    exact (serveAll_depthCounted machine resting requests).2 (.perform 9 (.control .yield) []) root
      [root.activity] root ⟨_, .refl⟩ .bottom
  exact ⟨resting, by decide +kernel, by decide +kernel, counted _⟩

end Scriptlet
