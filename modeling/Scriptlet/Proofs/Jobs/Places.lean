import Scriptlet.Proofs.Jobs.Recorded

/-!
# The places of errors

A script error that comes out of a program has the place of the innermost node that was evaluated
when it was raised.  A job that fails keeps its error, and a join raises it again as it is; an error
that a job raises outside of all nodes gets the place of the join.
-/

namespace Scriptlet

namespace Occurrence

variable {root outer inner : Occurrence}

/-! ## Where errors come from -/

/-- An error has been raised inside of the activity and has got the place of the innermost node that
was being evaluated. -/
def RaisesAt (outer : Occurrence) (e : ScriptError) (span : Span) : Prop :=
  ∃ inner thrown line, inner.Throws thrown ∧ (Fault.script thrown).IsFresh ∧
    outer.Innermost inner span ∧ e = { thrown with span := some span, sourceLine := line }

/-- An error has been raised inside of the activity while no node was being evaluated. -/
def RaisesBare (outer : Occurrence) (e : ScriptError) : Prop :=
  ∃ inner, inner.Throws e ∧ (Fault.script e).IsFresh ∧ outer.activity.span? = none ∧
    outer.Plainly inner

/-- A job is executed inside of the activity and fails. -/
structure LosesJob (root : Occurrence) (number : Nat) (job : Occurrence) (error : ScriptError) :
    Prop where
  inside : root.Inside job
  executes : ∃ room spawned, job.activity = .callJob number room spawned
  fails : job.Fails error

/-- How an error that comes out of an activity has got its place.  An error that a job
has failed with is raised again by a join; it is placed at the join if no node of the job
was being evaluated. -/
inductive Places (root outer : Occurrence) : ScriptError → Span → Prop
  | raised {e : ScriptError} {span : Span} (raises : outer.RaisesAt e span) :
      Places root outer e span
  | rejoined {number : Nat} {job join : Occurrence} {error : ScriptError} {span : Span}
      (loses : root.LosesJob number job error) (raises : job.RaisesAt error span)
      (joins : join.IsJoin) (throws : join.Throws { error with task := some number })
      (around : outer.Surrounds join) : Places root outer { error with task := some number } span
  | joined {number : Nat} {job join : Occurrence} {error : ScriptError} {span : Span}
      (loses : root.LosesJob number job error) (raises : job.RaisesBare error)
      (joins : join.IsJoin) (throws : join.Throws { error with task := some number })
      (innermost : outer.Innermost join span) (line : Option String) :
      Places root outer
        { error with task := some number, span := some span, sourceLine := line } span

theorem Surrounds.inside {root outer inner : Occurrence} (inside : root.Inside outer)
    (surrounds : outer.Surrounds inner) : root.Inside inner := by
  induction surrounds with
  | refl => exact inside
  | tail _ enters ih => exact ih.tail (.inl enters)

/-- What is raised without a place comes out with the place of the innermost node, if
there is one. -/
theorem Escapes.raises {thrown e : ScriptError} (escapes : outer.Escapes inner thrown e)
    (throws : inner.Throws thrown) (fresh : (Fault.script thrown).IsFresh) :
    (∃ span, e.span = some span ∧ outer.RaisesAt e span) ∨ e.span = none ∧ outer.RaisesBare e := by
  cases escapes with
  | placed placed => exact absurd fresh.1 placed
  | unplaced unplaced plain plainly => exact .inr ⟨unplaced, inner, throws, fresh, plain, plainly⟩
  | @located _ span innermost line =>
      exact .inl ⟨span, rfl, inner, thrown, line, throws, fresh, innermost, rfl⟩

theorem InJob.raises {job : Occurrence} (inJob : job.InJob) {error : ScriptError}
    (fails : job.Fails error) :
    (∃ span, error.span = some span ∧ job.RaisesAt error span) ∨
      error.span = none ∧ job.RaisesBare error := by
  obtain ⟨inner, thrown, throws, escapes⟩ := fails.exists_source
  exact escapes.raises throws ((inJob.surrounds escapes.surrounds).isFresh throws)

section Sources

variable (begins : Promise.lasting.before root.activity root.machine)
  (records : root.machine.store.schedule.Records root.Remembers)

include begins records

/-- What is raised is fresh, or a join has raised the failure of a job again. -/
theorem Throws.remembers (inside : root.Inside inner) {thrown : ScriptError}
    (throws : inner.Throws thrown) : (Fault.script thrown).IsFresh ∨
      inner.IsJoin ∧ ∃ number, root.Remembers number thrown := by
  rcases throws.isFresh_or_rejoins with fresh | ⟨number, rejoins⟩
  · exact .inl fresh
  · exact .inr ⟨rejoins.1, number, rejoins.remembers begins records inside⟩

/-- Every error that comes out of an activity with a place has got it from the innermost node. -/
theorem Fails.places (inside : root.Inside outer) {e : ScriptError} (fails : outer.Fails e)
    {span : Span} (placed : e.span = some span) : root.Places outer e span := by
  obtain ⟨inner, thrown, throws, escapes⟩ := fails.exists_source
  rcases throws.remembers begins records (escapes.surrounds.inside inside) with
    fresh | ⟨joins, number, job, error, within, inJob, executes, failed, rfl⟩
  · rcases escapes.raises throws fresh with ⟨other, same, raises⟩ | ⟨unplaced, -⟩
    · cases same.symm.trans placed
      exact .raised raises
    · cases unplaced.symm.trans placed
  · have loses : root.LosesJob number job error := ⟨within, executes, failed⟩
    rcases inJob.raises failed with ⟨other, same, raises⟩ | ⟨unplaced, raises⟩
    · cases escapes with
      | placed _ around =>
          cases same.symm.trans placed
          exact .rejoined loses raises joins throws around
      | unplaced unplaced | located unplaced => cases same.symm.trans unplaced
    · cases escapes with
      | placed has => exact absurd unplaced has
      | unplaced => cases unplaced.symm.trans placed
      | located _ innermost line =>
          cases placed
          exact .joined loses raises joins throws innermost line

end Sources

/-! ## Programs -/

/-- A program that is run. -/
def ofProgram (context : Context) (program : Program) (machine : Machine) : Occurrence :=
  ⟨.runBody context (stackRoom machine.depthLimit) program.body, machine⟩

variable {context : Context} {program : Program} {machine : Machine}

/-- The parts of a program are nodes, and it does nothing itself that could fail. -/
theorem program_each (context : Context) (program : Program) (machine : Machine) :
    (ofProgram context program machine).activity.plan.Each
      (@fun β steps => ∀ machine, ∃ value : β, steps machine = .ok value machine)
      (fun activity => activity.span? ≠ none) := by
  refine Plan.Each.executeAll (fun _ => nofun) (fun completion => ?_) program.body .absent
  exact fun machine => ⟨completion, rfl⟩

end Occurrence

/-- The run of a program has exhausted the stack, which is reported as too deep a
nesting of calls. -/
def Machine.Exhausts (machine : Machine) (context : Context) (program : Program) (e : ScriptError) :
    Prop :=
  ∃ middle, sequence (execute context (stackRoom machine.depthLimit)) program.body .absent machine =
    .error .exhausted middle ∧ e = { cause := .tooDeep middle.depthLimit }

namespace Occurrence

variable {context : Context} {program : Program} {machine : Machine} {e : ScriptError}

/-- A program raises nothing itself unless it exhausts the stack. -/
theorem exhausts_of_throws (throws : (ofProgram context program machine).Throws e) :
    machine.Exhausts context program e := by
  have each := program_each context program machine
  cases throws with
  | own reached run =>
      obtain ⟨value, succeeds⟩ := (each.of_leads reached).1 _
      cases succeeds.symm.trans run
  | last reached run =>
      obtain ⟨value, succeeds⟩ := each.of_leads reached _
      cases succeeds.symm.trans run
  | @report fault middle _ _ run other handling =>
      cases fault with
      | exhausted =>
          cases handling
          exact ⟨middle, (congrFun (Activity.run_body ..) machine).symm.trans run, rfl⟩
      | script error => exact absurd rfl (other error)
      | _ => cases handling

/-- What comes out of a program has a place, unless the stack has been exhausted. -/
theorem placed_or_exhausts (fails : (ofProgram context program machine).Fails e) :
    (∃ span, e.span = some span) ∨ machine.Exhausts context program e := by
  obtain ⟨inner, thrown, throws, escapes⟩ := fails.exists_source
  cases escapes with
  | placed placed => exact .inl (Option.ne_none_iff_exists'.mp placed)
  | located => exact .inl ⟨_, rfl⟩
  | unplaced unplaced plain plainly =>
      rcases plainly.cases_head with rfl | ⟨first, ⟨⟨next, reached⟩, plain⟩, -⟩
      · exact .inr (exhausts_of_throws throws)
      · exact absurd plain ((program_each context program machine).of_leads reached).1

/-- A program fails with what its body fails with. -/
theorem fails_of_runProgram {last : Machine}
    (run : runProgram context.runner context.unit context.scope program machine =
      .error (.script e) last) : (ofProgram context program machine).Fails e := by
  unfold runProgram at run
  rw [bind_of_ok (rfl : (get : MachineM Machine) machine = .ok machine machine)] at run
  cases body : guarded
      (sequence (execute context (stackRoom machine.depthLimit)) program.body .absent) machine with
  | ok completion middle => cases run.symm.trans (bind_of_ok body)
  | error fault middle =>
      cases run.symm.trans (bind_of_error body)
      exact ⟨last, body⟩

end Occurrence

/-- How the script errors of a program get their places. -/
structure Machine.PlacesErrors (machine : Machine) (context : Context) (program : Program) :
    Prop where
  /-- An error that comes out of the program has the place of the innermost node that was being
  evaluated when it was raised, unless the stack has been exhausted. -/
  placed : ∀ e last, runProgram context.runner context.unit context.scope program machine =
      .error (.script e) last → machine.Exhausts context program e ∨
    ∃ span, e.span = some span ∧ (Occurrence.ofProgram context program machine).Places
      (.ofProgram context program machine) e span
  /-- An error that has a place comes out of everything around as it is. -/
  handed : ∀ outer inner e, (Occurrence.ofProgram context program machine).Inside outer →
    outer.Enters inner → inner.Fails e → e.span ≠ none → outer.Fails e
  /-- A join raises the error of a job as it came out of the job. -/
  rejoined : ∀ join number e, (Occurrence.ofProgram context program machine).Inside join →
    join.Throws e → e.task = some number → join.IsJoin ∧ ∃ job error,
      (Occurrence.ofProgram context program machine).LosesJob number job error ∧
      e = { error with task := some number }

/-- Whatever program is run on a machine without jobs, each script error that comes out of it
has the place of the innermost node that was being evaluated when it was raised, or of the join
that has raised it again if it was raised by a job outside of all nodes; and no place is changed
on the way. -/
theorem runProgram_placesErrors (machine : Machine) (context : Context) (program : Program)
    (fresh : machine.store.schedule = {}) : machine.PlacesErrors context program := by
  have begins :
      Promise.lasting.before (.runBody context (stackRoom machine.depthLimit) program.body)
      machine := by
    refine ⟨none, [], fun _ => rfl, ?_⟩
    rw [fresh]
    exact .empty
  have records : machine.store.schedule.Records
      (Occurrence.ofProgram context program machine).Remembers := by
    intro number job found
    rw [fresh, Schedule.job?_empty] at found
    cases found
  refine ⟨fun e last run => ?_, ?_, ?_⟩
  · have fails := Occurrence.fails_of_runProgram run
    rcases Occurrence.placed_or_exhausts fails with ⟨span, placed⟩ | exhausts
    · exact .inr ⟨span, placed, fails.places begins records .refl placed⟩
    · exact .inl exhausts
  · rintro outer inner e - enters ⟨last, failed⟩ placed
    exact enters.hands_on failed placed
  · intro join number e inside throws task
    rcases throws.remembers begins records inside with
      isFresh | ⟨joins, other, job, error, within, -, executes, failed, rfl⟩
    · cases isFresh.2.symm.trans task
    · cases task
      exact ⟨joins, job, error, ⟨within, executes, failed⟩, rfl⟩

/-! ## New environments -/

/-- The steps leave a store without jobs as one without jobs. -/
def Jobless {α : Type} (steps : StoreM α) : Prop :=
  ∀ store, Keeps (fun store : Store => store.schedule = {}) (fun _ => True) (fun _ => True) steps
    store

theorem addObject_jobless (object : HostObject) : Jobless (Store.addObject object) :=
  fun _ none => .ok none trivial

theorem addFunctions_jobless (functions : List (String × Action)) :
    Jobless (Builtin.addFunctions functions) := by
  induction functions with
  | nil => exact fun _ => .pure trivial
  | cons function rest ih =>
      refine fun _ => .bind (addObject_jobless _ _) fun id _ _ _ => ?_
      exact .bind (ih _) fun _ _ _ _ => .pure trivial

/-- Functions that are added and then collected in an object. -/
theorem collected_jobless (functions : List (String × Action)) (collect : Assoc Data → HostObject) :
    Jobless (do
      let members ← Builtin.addFunctions functions
      Store.addObject (collect members)) :=
  fun store => .bind (addFunctions_jobless functions store) fun _ _ _ _ => addObject_jobless _ _

theorem make_jobless (seed : Int) (builtin : Builtin) : Jobless (builtin.make seed) := by
  cases builtin with
  | math => exact fun _ => .bind (.modify fun none => none) fun _ _ _ _ => collected_jobless _ _ _
  | date => exact collected_jobless _ _
  | json => exact collected_jobless _ _
  | print | log => exact addObject_jobless _
  | task => exact fun _ => .bind (.modify fun _ => rfl) fun _ _ _ _ => collected_jobless _ _ _

/-- A new environment has no jobs. -/
theorem openEnvironment_jobless (settings : Settings) (entropy : Int) {machine : Machine}
    (fresh : machine.store.schedule = {}) :
    (endState (openEnvironment settings entropy machine)).store.schedule = {} := by
  have install (scope : ScopeId) (seed : Int) (builtins : List Builtin) (machine : Machine) :
      Keeps (fun machine : Machine => machine.store.schedule = {}) (fun _ => True) (fun _ => True)
        (Builtin.install scope seed builtins) machine := by
    induction builtins generalizing machine with
    | nil => exact .pure trivial
    | cons builtin rest ih =>
        refine .bind (.onStore (make_jobless seed builtin _)) fun id middle _ _ => ?_
        exact .bind (.modify fun none => none) fun _ middle _ _ => ih middle
  have root : Keeps (fun machine : Machine => machine.store.schedule = {}) (fun _ => True)
      (fun _ => True) (Machine.openRoot "global") machine := fun none => .ok none trivial
  have opens : Keeps (fun machine : Machine => machine.store.schedule = {}) (fun _ => True)
      (fun _ => True) (openEnvironment settings entropy) machine :=
    root.bind fun scope _ _ _ => .bind (install scope _ _ _) fun _ _ _ _ => .pure trivial
  exact opens.endState fresh

/-- A job that is given to a host function fails while no node of it is evaluated, so the error has
the place of the join. -/
theorem runProgram_placesErrors_joined :
    let span (offset : Nat) : Span := ⟨{ offset := offset }, { offset := offset + 1 }⟩
    let spawn : Expr := .call (span 2) (.member (span 3) (.name (span 4) "Task") "spawn")
      [.member (span 5) (.name (span 6) "Math") "floor"]
    let join : Expr := .call (span 7) (.member (span 8) (.name (span 9) "Task") "join") [spawn]
    let program : Program := ⟨span 0, [.expression (span 1) join], none⟩
    let machine : Machine :=
      endState (openEnvironment {} 0 (.unused ((FileTree.directory []).disk "/") 1 0.0))
    let e : ScriptError := ⟨.misuse (.mathArity "floor" 1 0), some (span 7), none, some 1⟩
    machine.store.schedule = {} ∧
      (∃ last, runProgram 0 0 0 program machine = .error (.script e) last) ∧
      (Occurrence.ofProgram ⟨0, 0, 0⟩ program machine).Places
        (.ofProgram ⟨0, 0, 0⟩ program machine) e
        (span 7) := by
  intro span spawn join program machine e
  have ended (machine start : Machine) (opened : machine = endState (openEnvironment {} 0 start))
      (none : start.store.schedule = {})
      (failed : faultOf (runProgram 0 0 0 program machine) = some (.script e)) :
      machine.store.schedule = {} ∧
        (∃ last, runProgram 0 0 0 program machine = .error (.script e) last) ∧
        (Occurrence.ofProgram ⟨0, 0, 0⟩ program machine).Places
          (.ofProgram ⟨0, 0, 0⟩ program machine) e (span 7) := by
    have fresh : machine.store.schedule = {} := opened ▸ openEnvironment_jobless {} 0 none
    obtain ⟨last, run⟩ := exists_of_faultOf failed
    refine ⟨fresh, ⟨last, run⟩, ?_⟩
    rcases (runProgram_placesErrors machine ⟨0, 0, 0⟩ program fresh).placed e last run with
      ⟨middle, -, same⟩ | ⟨place, same, places⟩
    · cases congrArg ScriptError.cause same
    · cases same
      exact places
  exact ended machine (.unused ((FileTree.directory []).disk "/") 1 0.0) rfl rfl (by decide +kernel)

end Scriptlet
