import Scriptlet.Proofs.Mirror.Machine
import Scriptlet.Proofs.Machine.Loading
import Scriptlet.Proofs.Scope.Frame

/-!
# Mirrored steps

The steps from which evaluation is built do the same on mirrored machines: errors are located,
names are looked up, modules are loaded, calls are entered and jobs get their turns.
-/

namespace Scriptlet

variable {M : Translation} {room : Nat} {α β : Type} {results : α → β → Prop}

/-! ## Changes of a machine -/

theorem define_mirrored (scope : ScopeId) (name : String) (value : Value) :
    Mirrored M room (Images id) (Machine.define scope name value)
      (Machine.define scope name (M.value value)) :=
  .modifyScopes fun _ _ scopes => scopes.define scope name value

theorem assign_mirrored (scope : ScopeId) {name : String} (seen : M.hidden name = false)
    (value : Value) :
    Mirrored M room (Images id) (Machine.assign scope name value)
      (Machine.assign scope name (M.value value)) :=
  .modifyScopes fun _ _ scopes => scopes.assign scope seen value

theorem openScope_mirrored (name : String) (parent : ScopeId) {bindings there : Assoc Value}
    (alike : M.Bindings bindings there) :
    Mirrored M room (Images id) (Machine.openScope name parent bindings)
      (Machine.openScope name parent there) where
  grows machine := { Machine.Grown.refl machine with }
  ended machine other machines _ _ := by
    have size : other.scopes.size = machine.scopes.size := by
      rw [machines.scopes.size, Nat.zero_add]
    exact .ok size ⟨{ machines with scopes := machines.scopes.child name parent alike },
      ⟨rfl, rfl, rfl⟩, ⟨rfl, rfl, rfl⟩⟩

/-! ## Errors -/

theorem locateFault_mirrored (runner : RunnerId) (span : Span) {fault there : Fault}
    (alike : fault.Alike there) :
    Mirrored M room Fault.Alike (locateFault runner span fault)
      (locateFault (M.runner runner) span there) := by
  have script (e : ScriptError) (line : Option String) :
      Mirrored M room Fault.Alike (locateFault runner span (.script e))
        (locateFault (M.runner runner) span (.script { e with sourceLine := line })) := by
    have grows : Grows (locateFault runner span (.script e)) :=
      .of_follows fun machine => (locateFault_follows runner span _ machine : Follows _ 0 _ _)
    rcases e with ⟨cause, _ | place, before, task⟩
    · refine .looking grows fun machine other _ _ => ?_
      dsimp only
      generalize ((machine.runner? runner).bind (·.quotedLine span)) = quoted
      generalize ((other.runner? (M.runner runner)).bind (·.quotedLine span)) = quotedThere
      have located : Fault.Alike (.script ⟨cause, some span, quoted, task⟩)
          (.script ⟨cause, some span, quotedThere, task⟩) :=
        .requoted ⟨cause, some span, quoted, task⟩ quotedThere
      cases task with
      | none => exact .pure located
      | some number =>
          refine .bind (.onStore (changeSchedule_reflects fun _ _ schedules => ?_)) ?_
          · exact schedules.setState number (.failed located)
          · exact fun _ => .pure located
    · exact .pure (.requoted ⟨cause, some place, before, task⟩ line)
  cases alike with
  | requoted e line => exact script e line
  | refl =>
      cases fault with
      | script e => exact script e e.sourceLine
      | _ => exact .pure (.refl _)

theorem locating_mirrored {runner : RunnerId} {span : Span} {left : MachineM α} {right : MachineM β}
    (mirrored : Mirrored M room results left right) :
    Mirrored M room results (locating runner span left) (locating (M.runner runner) span right) :=
  .mapFault mirrored fun _ _ alike => locateFault_mirrored runner span alike

theorem guarded_mirrored {left : MachineM α} {right : MachineM β}
    (mirrored : Mirrored M room results left right) :
    Mirrored M room results (guarded left) (guarded right) := by
  refine .mapFault mirrored fun fault there alike => ?_
  cases alike with
  | requoted e line => exact .pure (.requoted e line)
  | refl =>
      cases fault with
      | exhausted =>
          refine .looking (.looking fun _ => .pure) fun machine other machines _ => ?_
          rw [machines.depthLimit]
          exact .pure (.refl _)
      | _ => exact .pure (.refl _)

theorem reportFailure_alike (function : String) {fault there : Fault} (alike : fault.Alike there) :
    (reportFailure function fault).Alike (reportFailure function there) := by
  cases alike with
  | refl => exact .refl _
  | requoted e line => exact .requoted e line

theorem callingHost_mirrored (function : String) {left : MachineM α} {right : MachineM β}
    (mirrored : Mirrored M room results left right) :
    Mirrored M room results (callingHost function left) (callingHost function right) :=
  .mapFault mirrored fun _ _ alike => .pure (reportFailure_alike function alike)

/-! ## Sequences and loops -/

theorem sequence_mirrored {step there : Stmt → MachineM Completion} (statements : List Stmt)
    (each : ∀ statement ∈ statements,
      Mirrored M room (Images M.completion) (step statement) (there statement)) (last : Value) :
    Mirrored M room (Images M.completion) (sequence step statements last)
      (sequence there statements (M.value last)) := by
  induction statements generalizing last with
  | nil => exact .pure rfl
  | cons statement rest ih =>
      refine .bind (each statement List.mem_cons_self) fun completion => ?_
      cases completion with
      | normal value =>
          exact ih (fun other found => each other (List.mem_cons_of_mem _ found)) value
      | result | leave | proceed => exact .pure rfl

theorem repeatWhile_mirrored {condition conditionThere : MachineM Bool}
    {body bodyThere : MachineM Completion}
    (test : Mirrored M room (Images id) condition conditionThere)
    (round : Mirrored M room (Images M.completion) body bodyThere) (bound : Nat) :
    Mirrored M room (Images M.completion) (repeatWhile condition body bound)
      (repeatWhile conditionThere bodyThere bound) := by
  induction bound with
  | zero => exact .throw _
  | succ bound ih =>
      refine .bind test fun holds => ?_
      cases holds with
      | false => exact .pure rfl
      | true =>
          refine .bind round fun completion => ?_
          cases completion with
          | normal | proceed => exact ih
          | result | leave => exact .pure rfl

/-! ## Names and modules -/

theorem lookupName_mirrored (space : Nat) (scope : ScopeId) (levels : Nat) (name : String)
    (free : M.Free (namesTried levels name)) :
    Mirrored M room (Images M.value) (lookupName space scope levels name)
      (lookupName space scope levels name) := by
  induction levels generalizing name with
  | zero => exact .throw _
  | succ levels ih =>
      have grows : Grows (lookupName space scope (levels + 1) name) :=
        .of_follows fun machine =>
          (lookupName_follows space scope (levels + 1) name machine : Follows _ 0 _ _)
      have seen : M.hidden name = false := free name List.mem_cons_self
      have later : M.Free _ := fun tried found => free tried (List.mem_cons_of_mem name found)
      refine .looking grows fun machine other machines _ => ?_
      rw [machines.scopes.lookup? seen]
      cases machine.scopes.lookup? name scope with
      | some value => exact .pure rfl
      | none =>
          dsimp only [Option.map_none]
          cases known : itemName? name with
          | some item =>
              rw [known] at later
              refine .bind (ih item.1 later) fun value => .asking fun store there stores => ?_
              exact foldlM_renamed (stores.itemAt name) item.2 value
          | none =>
              rw [known] at later
              dsimp only at later ⊢
              generalize (Text.cutAt '.' name.toList).map String.ofList = parts at later ⊢
              match parts, later with
              | [], _ | [_], _ => exact .throw _
              | first :: segment :: rest, later =>
                  refine .bind (ih first later) fun value => .onStore ?_
                  exact .foldlM (fun value segment => segmentOf_reflects space name value segment)
                    (segment :: rest) value

theorem resolve_mirrored (space : Nat) (scope : ScopeId) (name : String)
    (free : M.Free (namesAsked name)) :
    Mirrored M room (Images M.value) (resolve space scope name) (resolve space scope name) :=
  lookupName_mirrored space scope 3 name free

theorem checkModulePath_mirrored (value : Value) :
    Mirrored M room (Images id) (checkModulePath value) (checkModulePath (M.value value)) := by
  cases value with
  | text path => exact .pure rfl
  | _ => exact .throw _

theorem Runner.bare_reading (file source : String) (runner : Runner) :
    (runner.reading file source).bare = runner.bare :=
  rfl

theorem Runner.alike_reading (file source : String) (runner : Runner) :
    runner.Alike (runner.reading file source) :=
  ⟨rfl, rfl⟩

theorem moduleRoot?_mirrored {machine other : Machine} (machines : M.Machines machine other)
    (runner : RunnerId) : other.moduleRoot? (M.runner runner) = machine.moduleRoot? runner := by
  unfold Machine.moduleRoot? Machine.runner?
  have related := machines.runners runner
  generalize machine.runners[runner]? = found at related
  generalize other.runners[M.runner runner]? = foundThere at related
  cases related with
  | none => rfl
  | some alike => exact alike.moduleRoot

theorem loadModule_mirrored (space : Nat) (runner : RunnerId) (path : String) :
    Mirrored M room
      (fun loaded there => there = (loaded.1, M.unit loaded.2) ∧ M.Free (bodyNames loaded.1.body))
      (loadModule space runner path) (loadModule space (M.runner runner) path) where
  grows := .of_follows fun machine => (loadModule_follows space runner path machine :
    Follows _ 0 _ _)
  ended machine other machines _ safe := by
    have file : other.moduleFile (M.runner runner) path = machine.moduleFile runner path := by
      unfold Machine.moduleFile
      rw [moduleRoot?_mirrored machines, machines.disk]
    have adrift : other.isAdrift (M.runner runner) path = machine.isAdrift runner path := by
      unfold Machine.isAdrift
      rw [moduleRoot?_mirrored machines, machines.disk]
    rw [loadModule_run] at safe ⊢
    rw [loadModule_run, file, adrift, machines.disk]
    split at safe
    · rename_i gone
      rw [if_pos gone, if_pos gone]
      exact .error (.refl _) ⟨machines, ⟨rfl, rfl, rfl⟩, ⟨rfl, rfl, rfl⟩⟩
    rename_i found
    rw [if_neg found, if_neg found]
    generalize machine.moduleFile runner path = file at safe ⊢
    have consulted : M.Machines (machine.consulting path file) (other.consulting path file) :=
      { machines with
        consulted := (congrArg (file :: ·) machines.consulted).trans (machines.read [file]).symm
        read := fun more => by
          rw [Machine.consulting, List.append_cons, machines.read, List.append_assoc]
          exact congrArg (more ++ ·) (machines.read [file]).symm
        store := machines.store.note _ }
    have reached : M.Reached machine other (machine.consulting path file)
        (other.consulting path file) :=
      ⟨consulted, ⟨rfl, rfl, rfl⟩, ⟨rfl, rfl, rfl⟩⟩
    dsimp only at safe ⊢
    cases read : machine.disk.readText file with
    | error failure => exact .error (.refl _) reached
    | ok source =>
        rw [read] at safe
        dsimp only at safe ⊢
        cases parsed : Program.ofSource space source (some file) with
        | error fault => exact .error (.refl _) reached
        | ok program =>
            rw [parsed] at safe
            have free : M.Free (bodyNames program.body) :=
              safe.free file List.mem_cons_self source space program read parsed
            refine .ok ⟨Prod.ext rfl (machines.units.next safe.units).symm, free⟩
              ⟨{ consulted with
                  runners := consulted.changeRunner runner (Runner.alike_reading file source)
                    (Runner.alike_reading file source)
                  units := machines.units.step }, ?_, ?_⟩
            · exact ⟨Runner.map_bare_modify _ _ (Runner.bare_reading file source), rfl, rfl⟩
            · exact ⟨Runner.map_bare_modify _ _ (Runner.bare_reading file source), rfl, rfl⟩

theorem newModule_mirrored (path : String) {body : List Stmt} (free : M.Free (bodyNames body))
    (unit : UnitId) (runner : RunnerId) :
    Mirrored M room (Images M.value) (Machine.onStore (newModule path body unit runner))
      (Machine.onStore (newModule path body (M.unit unit) (M.runner runner))) := by
  have added : Reflects M (Images M.objects)
      (Store.addObject (.function "run" (.control (.runModule body unit runner))))
      (Store.addObject
        (.function "run" (.control (.runModule body (M.unit unit) (M.runner runner))))) := by
    refine addModule_reflects fun other runs => ?_
    rwa [List.mem_singleton.mp runs]
  have loaded (run : ObjectId) : Reflects M (Images M.objects) (Store.addObject (.loaded path run))
      (Store.addObject (.loaded path (M.objects run))) := addObject_reflects rfl
  exact .onStore (.bind added fun run => .bind (loaded run) fun _ => .pure rfl)

/-! ## Calls -/

theorem refuseCall_mirrored (space : Nat) (callee : Value) :
    Mirrored M room results (refuseCall space callee) (refuseCall space (M.value callee)) :=
  .bind (.askingSame fun _ _ stores => stores.describe space callee) fun _ => .throw _

theorem checkConstructible_mirrored (space : Nat) (className : String) (callee : Value) :
    Mirrored M room (Images id) (checkConstructible space className callee)
      (checkConstructible space className (M.value callee)) := by
  have grows : Grows (checkConstructible space className callee) :=
    .of_follows fun machine =>
      (checkConstructible_follows space className callee machine : Follows _ 0 _ _)
  refine .looking grows fun machine other machines _ => ?_
  have described : Mirrored M room (Images id)
      ((do
        let described ← Machine.askStore fun store => store.describe space callee
        throw (.ofCause (.notConstructible (className ++ " (" ++ described ++ ")")))) :
          MachineM Unit)
      ((do
        let described ← Machine.askStore fun store => store.describe space (M.value callee)
        throw (.ofCause (.notConstructible (className ++ " (" ++ described ++ ")")))) :
          MachineM Unit) :=
    .bind (.askingSame fun _ _ stores => stores.describe space callee) fun _ => .throw _
  cases callee with
  | closure id => exact .pure rfl
  | host id =>
      dsimp only [Naming.value_host]
      rw [machines.store.objectAt]
      cases machine.store.objects[id]? with
      | none => exact described
      | some object =>
          simp only [Option.map_some, Option.getD_some, Naming.isFunction_object]
          split
          · exact .pure rfl
          · exact described
  | _ => exact described

/-- Whether a statement is marked makes the same difference in both runs: marks that are the same in
the other run are not safe. -/
theorem bindInstance_mirrored (context : Context) (span : Span) (className : String)
    (instanceValue : Value) :
    Mirrored M room (Images id) (bindInstance context span className instanceValue)
      (bindInstance (M.context context) span className (M.value instanceValue)) where
  grows := .of_follows (bindInstance_follows context span className instanceValue)
  ended machine other machines _ safe := by
    have here := bindInstance_run context span className instanceValue machine
    have there := bindInstance_run (M.context context) span className (M.value instanceValue) other
    change bindInstance _ _ _ _ other =
      .ok () (if M.mark (context.unit, span.start.offset) ∈ other.constructed then other
        else _) at there
    rw [here] at safe ⊢
    rw [there, machines.constructed]
    by_cases marked : (context.unit, span.start.offset) ∈ machine.constructed
    · rw [if_pos marked, if_pos (List.mem_map_of_mem marked)]
      exact .ok rfl ⟨machines, .refl machine, .refl other⟩
    · rw [if_neg marked] at safe ⊢
      have clear : M.mark (context.unit, span.start.offset) ∉ machine.constructed.map M.mark := by
        intro images
        obtain ⟨mark, made, same⟩ := List.mem_map.mp images
        exact marked
          (safe.distinct mark (List.mem_cons_of_mem _ made) _ List.mem_cons_self same ▸ made)
      rw [if_neg clear]
      refine .ok rfl ⟨?_, ⟨rfl, rfl, rfl⟩, ⟨rfl, rfl, rfl⟩⟩
      exact { machines with
        scopes := machines.scopes.define context.scope className instanceValue
        constructed := congrArg (_ :: ·) rfl }

/-- The machine in which a runner is one call deeper. -/
def Machine.entered (machine : Machine) (runner : RunnerId) : Machine :=
  { machine with
    runners := machine.runners.modify runner fun current =>
      { current with depth := current.depth + 1 } }

/-- The machine in which a runner is one call less deep. -/
def Machine.left (machine : Machine) (runner : RunnerId) : Machine :=
  { machine with
    runners := machine.runners.modify runner fun current =>
      { current with depth := current.depth - 1 } }

theorem Machine.Ample.entered {machine : Machine} (ample : machine.Ample (room + 1))
    (runner : RunnerId) : (machine.entered runner).Ample room := by
  intro current found
  obtain ⟨index, found⟩ := Array.mem_iff_getElem?.mp found
  unfold Machine.entered at found ⊢
  dsimp only at found ⊢
  rw [Array.getElem?_modify] at found
  split at found
  · obtain ⟨old, oldFound, rfl⟩ := Option.map_eq_some_iff.mp found
    have below := ample old (Array.mem_of_getElem? oldFound)
    dsimp only
    omega
  · have below := ample current (Array.mem_of_getElem? found)
    omega

theorem Translation.Depths.entered {left right : Machine} (depths : M.Depths (room + 1) left right)
    (runner : RunnerId) :
    M.Depths room (left.entered runner) (right.entered (M.runner runner)) := by
  cases depths with
  | ample here there => exact .ample (here.entered runner) (there.entered _)
  | equal distinct same =>
      refine .equal distinct fun id current other found foundThere => ?_
      unfold Machine.entered at found foundThere
      dsimp only at found foundThere
      rw [Array.getElem?_modify] at found foundThere
      by_cases here : runner = id
      · subst here
        rw [if_pos rfl] at found foundThere
        obtain ⟨old, oldFound, rfl⟩ := Option.map_eq_some_iff.mp found
        obtain ⟨oldThere, oldFoundThere, rfl⟩ := Option.map_eq_some_iff.mp foundThere
        exact congrArg (· + 1) (same runner old oldThere oldFound oldFoundThere)
      · rw [if_neg here] at found
        rw [if_neg fun images => here (distinct images)] at foundThere
        exact same id current other found foundThere

/-- What is done inside of a call leaves the runner as deep in calls as before it. -/
theorem Machine.Restores.left {before after : Machine} {runner : RunnerId}
    (inside : (before.entered runner).Restores after) : before.Restores (after.left runner) := by
  refine ⟨Array.ext_getElem? fun i => ?_, inside.depthLimit, inside.disk⟩
  have same : (after.runners.map Runner.bare)[i]? =
      ((before.entered runner).runners.map Runner.bare)[i]? := by
    rw [inside.runners]
  unfold Machine.entered at same
  unfold Machine.left
  dsimp only at same ⊢
  rw [Array.getElem?_map, Array.getElem?_map, Array.getElem?_modify] at same ⊢
  split at same
  · rename_i here
    rw [if_pos here]
    have shallower := congrArg
      (Option.map fun current : Runner => { current with depth := current.depth - 1 }) same
    rw [Option.map_map, Option.map_map, Option.map_map] at shallower
    rw [Option.map_map]
    exact shallower
  · rename_i elsewhere
    rw [if_neg elsewhere]
    exact same

theorem Translation.Machines.entered {left right : Machine} (machines : M.Machines left right)
    (runner : RunnerId) : M.Machines (left.entered runner) (right.entered (M.runner runner)) :=
  { machines with
    runners := machines.changeRunner runner (fun _ => ⟨rfl, rfl⟩) fun _ => ⟨rfl, rfl⟩ }

theorem Translation.Machines.left {left right : Machine} (machines : M.Machines left right)
    (runner : RunnerId) : M.Machines (left.left runner) (right.left (M.runner runner)) :=
  { machines with
    runners := machines.changeRunner runner (fun _ => ⟨rfl, rfl⟩) fun _ => ⟨rfl, rfl⟩ }

/-- Steps of a runner inside of a call. -/
def Machine.insideCall (runner : RunnerId) (steps : MachineM α) : MachineM α := do
  Machine.changeRunner runner fun current => { current with depth := current.depth + 1 }
  Machine.andFinally steps
    (Machine.changeRunner runner fun current => { current with depth := current.depth - 1 })

theorem insideCall_run (runner : RunnerId) (steps : MachineM α) (machine : Machine) :
    Machine.insideCall runner steps machine =
      match steps (machine.entered runner) with
      | .ok value inside => .ok value (inside.left runner)
      | .error fault inside => .error fault (inside.left runner) := by
  have entered : Machine.insideCall runner steps machine =
      Machine.andFinally steps (Machine.changeRunner runner fun current =>
        { current with depth := current.depth - 1 }) (machine.entered runner) := rfl
  rw [entered]
  unfold Machine.andFinally
  cases steps (machine.entered runner) <;> rfl

/-- A step inside of a call may be one call less away from the limit. -/
theorem insideCall_mirrored {image : α → β} {runner : RunnerId} {steps : MachineM α}
    {there : MachineM β} (inner : Mirrored M room (Images image) steps there) :
    Mirrored M (room + 1) (Images image) (Machine.insideCall runner steps)
      (Machine.insideCall (M.runner runner) there) where
  grows machine := by
    have grown := inner.grows (machine.entered runner)
    rw [insideCall_run]
    revert grown
    cases steps (machine.entered runner) <;>
      exact fun grown => ⟨grown.consulted, grown.constructed, grown.units, grown.objects⟩
  ended machine other machines depths safe := by
    have ended := inner.ended _ _ (machines.entered runner) (depths.entered runner)
    rw [insideCall_run] at safe ⊢
    rw [insideCall_run]
    generalize steps (machine.entered runner) = run at safe ended ⊢
    have safe : M.Safe machine.disk (endState run) := by
      revert safe
      cases run <;> exact fun safe => ⟨safe.free, safe.distinct, safe.units, safe.objects⟩
    have ended := ended safe
    generalize there (other.entered (M.runner runner)) = runThere at ended ⊢
    rcases ended with ⟨result, mirrored, here, restored⟩ | ⟨alike, mirrored, here, restored⟩
    · exact .ok result ⟨mirrored.left runner, here.left, restored.left⟩
    · exact .error alike ⟨mirrored.left runner, here.left, restored.left⟩

/-! ## Jobs -/

theorem takeReady_reflects : Reflects M (Images id) takeReady takeReady where
  retains := takeReady_alters.retains
  paired store other stores _ := by
    refine .ok ?_ { stores with schedule := { stores.schedule with ready := rfl } }
    rw [stores.schedule.ready]
    rfl

theorem resultOf_mirrored {state other : JobState} (states : M.States state other) :
    Mirrored M room (Images M.value) (resultOf state) (resultOf other) := by
  cases states with
  | returned value => exact .pure rfl
  | failed alike => exact .fail alike
  | _ => exact .throw _

theorem resultOf_grows (state : JobState) : Grows (resultOf state) := by
  unfold resultOf
  split
  · exact .pure
  · exact .throw
  · exact .throw

theorem sleepInside_reflects (milliseconds : Float) :
    Reflects M (Images id) (sleepInside milliseconds) (sleepInside milliseconds) := by
  unfold sleepInside
  split
  · exact .throw _
  · exact advanceClock_reflects milliseconds

section Rounds

variable {start there : Nat → MachineM Unit}
  (each : ∀ number, Mirrored M room (Images id) (start number) (there number))

include each

theorem runRound_mirrored : Mirrored M room (Images id) (runRound start) (runRound there) :=
  .bind (.onStore takeReady_reflects) fun ready => .forM ready each

theorem runRounds_mirrored (count : Nat) :
    Mirrored M room (Images id) (runRounds start count) (runRounds there count) := by
  induction count with
  | zero => exact .pure rfl
  | succ count ih => exact .bind (runRound_mirrored each) fun _ => ih

theorem drain_mirrored (bound : Nat) :
    Mirrored M room (Images id) (drain start bound) (drain there bound) := by
  induction bound with
  | zero => exact .pure rfl
  | succ bound ih =>
      have round := runRound_mirrored each
      have grows : Grows (drain start (bound + 1)) :=
        .looking fun _ => .choosing .pure (round.grows.bind fun _ => ih.grows)
      refine .looking grows fun machine other machines _ => ?_
      rw [machines.store.schedule.ready]
      split
      · exact .pure rfl
      · exact .bind round fun _ => ih

/-- Some rounds of jobs, and the result of a job after them. -/
theorem waitedJob_mirrored (number count : Nat) :
    Mirrored M room (Images M.value)
      (do
        Machine.onStore openSchedule
        runRounds start count
        match (← get).store.schedule.job? number with
        | some job => resultOf job.state
        | none => throw (.ofCause (.task .joinCancelled)))
      (do
        Machine.onStore openSchedule
        runRounds there count
        match (← get).store.schedule.job? number with
        | some job => resultOf job.state
        | none => throw (.ofCause (.task .joinCancelled))) := by
  refine .bind (.onStore openSchedule_reflects) fun _ => ?_
  refine .bind (runRounds_mirrored each count) fun _ => ?_
  refine .looking (.looking fun machine => ?_) fun machine other machines _ => ?_
  · cases machine.store.schedule.job? number with
    | none => exact .throw
    | some job => exact resultOf_grows job.state
  · have jobs := machines.store.schedule.job? number
    generalize machine.store.schedule.job? number = job at jobs ⊢
    generalize other.store.schedule.job? number = jobThere at jobs ⊢
    cases jobs with
    | none => exact .throw _
    | some alike => exact resultOf_mirrored alike.state

theorem joinJob_mirrored (arguments : List Value) :
    Mirrored M room (Images M.value) (joinJob start arguments)
      (joinJob there (arguments.map M.value)) := by
  have waited (number count : Nat) := waitedJob_mirrored each number count
  unfold joinJob
  rw [List.length_map, M.headD_values]
  refine .bind (.checking _) fun _ => ?_
  refine .bind (.askingSame fun _ _ stores => jobOf_mirrored stores _ _) fun number => ?_
  refine .looking (.looking fun machine => .choosing .throw ?_) fun machine other machines _ => ?_
  · cases machine.store.schedule.job? number with
    | none => exact .throw
    | some job => exact .choosing .throw (waited number _).grows
  · have jobs := machines.store.schedule.job? number
    dsimp only
    rw [machines.store.schedule.active]
    split
    · exact .throw _
    · dsimp only [id]
      generalize machine.store.schedule.job? number = job at jobs ⊢
      generalize other.store.schedule.job? number = jobThere at jobs ⊢
      cases jobs with
      | none => exact .throw _
      | some alike =>
          dsimp only
          rw [alike.state.isCancelled, alike.state.isDone]
          split
          · exact .throw _
          · exact waited number _

theorem sleepFor_mirrored (arguments : List Value) :
    Mirrored M room (Images M.value) (sleepFor start arguments)
      (sleepFor there (arguments.map M.value)) := by
  unfold sleepFor
  rw [List.length_map, M.headD_values]
  refine .bind (.checking _) fun _ => ?_
  cases arguments.headD .absent with
  | number x =>
      dsimp only [Naming.value_number]
      generalize (if 0.0 < x then x else 0.0) = milliseconds
      have inside : Mirrored M room (Images M.value)
          (do
            Machine.onStore (sleepInside milliseconds)
            return .absent)
          (do
            Machine.onStore (sleepInside milliseconds)
            return .absent) :=
        .bind (.onStore (sleepInside_reflects milliseconds)) fun _ => .pure rfl
      have outside : Mirrored M room (Images M.value)
          (do
            Machine.onStore openSchedule
            if 0.0 < milliseconds then
              drain start drainBound
              Machine.onStore (Store.advanceClock milliseconds)
            else runRounds start 3
            return .absent)
          (do
            Machine.onStore openSchedule
            if 0.0 < milliseconds then
              drain there drainBound
              Machine.onStore (Store.advanceClock milliseconds)
            else runRounds there 3
            return .absent) := by
        refine .bind (.onStore openSchedule_reflects) fun _ => ?_
        split
        · refine .bind (drain_mirrored each drainBound) fun _ => ?_
          exact .bind (.onStore (advanceClock_reflects milliseconds)) fun _ => .pure rfl
        · exact .bind (runRounds_mirrored each 3) fun _ => .pure rfl
      refine .looking (.looking fun machine => .choosing inside.grows outside.grows)
        fun machine other machines _ => ?_
      rw [machines.store.schedule.active]
      split
      · exact inside
      · exact outside
  | _ => exact .throw _

theorem yieldTurn_mirrored (arguments : List Value) :
    Mirrored M room (Images M.value) (yieldTurn start arguments)
      (yieldTurn there (arguments.map M.value)) := by
  unfold yieldTurn
  rw [List.length_map]
  refine .bind (.checking _) fun _ => ?_
  have rounds : Mirrored M room (Images M.value)
      (do
        Machine.onStore openSchedule
        runRounds start 3
        return .absent)
      (do
        Machine.onStore openSchedule
        runRounds there 3
        return .absent) :=
    .bind (.onStore openSchedule_reflects) fun _ =>
      .bind (runRounds_mirrored each 3) fun _ => .pure rfl
  refine .looking (.looking fun machine => .choosing rounds.grows .pure)
    fun machine other machines _ => ?_
  rw [machines.store.schedule.active]
  split
  · exact rounds
  · exact .pure rfl

end Rounds

theorem failureOf_alike (number : Nat) {fault there : Fault} (alike : fault.Alike there) :
    (failureOf number fault).Alike (failureOf number there) := by
  cases alike with
  | refl => exact .refl _
  | requoted e line => exact .requoted { e with task := some number } line

theorem endedNormally_mirrored (value : Value) {state there : JobState}
    (states : M.States state there) :
    M.States (endedNormally value state) (endedNormally (M.value value) there) := by
  cases states with
  | running requested =>
      cases requested with
      | true => exact .cancelled
      | false => exact .returned value
  | _ => exact .returned value

/-- The first step of a job. -/
def beginJob (number : Nat) : StoreM Unit := do
  noteJobs s!"task {number} started"
  changeSchedule fun schedule =>
    { schedule.setState number (.running false) with active := schedule.active + 1 }

theorem beginJob_reflects (number : Nat) :
    Reflects M (Images id) (beginJob number) (beginJob number) := by
  refine .bind (noteJobs_reflects _) fun _ => ?_
  refine changeSchedule_reflects fun schedule _ schedules => ?_
  exact { schedules.setState number (.running false) with
    active := congrArg (· + 1) schedules.active }

/-- The last step of a job. -/
def finishJob (number : Nat) : StoreM Unit := do
  changeSchedule fun schedule => { schedule with active := schedule.active - 1 }
  noteJobs s!"task {number} finished"

theorem finishJob_reflects (number : Nat) :
    Reflects M (Images id) (finishJob number) (finishJob number) := by
  refine .bind (changeSchedule_reflects fun _ _ schedules => ?_) fun _ => noteJobs_reflects _
  exact { schedules with active := congrArg (· - 1) schedules.active }

/-- Keeps the result of a job. -/
def keepResult (number : Nat) (value : Value) : MachineM Unit := do
  Machine.onStore (finishJob number)
  Machine.onStore (changeSchedule fun schedule =>
    match schedule.job? number with
    | some job => schedule.setState number (endedNormally value job.state)
    | none => schedule)

/-- Keeps the failure of a job. -/
def keepFailure (number : Nat) (fault : Fault) : MachineM Unit := do
  Machine.onStore (finishJob number)
  Machine.onStore (changeSchedule fun schedule =>
    schedule.setState number (.failed (failureOf number fault)))

theorem keepResult_mirrored (number : Nat) (value : Value) :
    Mirrored M room (Images id) (keepResult number value) (keepResult number (M.value value)) := by
  refine .bind (.onStore (finishJob_reflects number)) fun _ =>
    .onStore (changeSchedule_reflects ?_)
  intro schedule scheduleThere schedules
  have jobs := schedules.job? number
  generalize schedule.job? number = job at jobs ⊢
  generalize scheduleThere.job? number = jobThere at jobs ⊢
  cases jobs with
  | none => exact schedules
  | some alike => exact schedules.setState number (endedNormally_mirrored value alike.state)

theorem keepFailure_mirrored (number : Nat) {fault there : Fault} (alike : fault.Alike there) :
    Mirrored M room (Images id) (keepFailure number fault) (keepFailure number there) := by
  refine .bind (.onStore (finishJob_reflects number)) fun _ =>
    .onStore (changeSchedule_reflects fun _ _ schedules => ?_)
  exact schedules.setState number (.failed (failureOf_alike number alike))

theorem runJob_eq (number : Nat) (body : MachineM Value) :
    runJob number body = (do
      Machine.onStore (beginJob number)
      Machine.either body (keepResult number) (keepFailure number)) := by
  unfold runJob
  refine congrArg (Machine.onStore (beginJob number) >>= ·)
    (funext fun _ => funext fun machine => ?_)
  unfold Machine.either
  cases body machine <;> rfl

theorem runJob_mirrored (number : Nat) {body there : MachineM Value}
    (mirrored : Mirrored M room (Images M.value) body there) :
    Mirrored M room (Images id) (runJob number body) (runJob number there) := by
  rw [runJob_eq, runJob_eq]
  refine .bind (.onStore (beginJob_reflects number)) fun _ => ?_
  exact .either mirrored (keepResult_mirrored number) fun _ _ alike =>
    keepFailure_mirrored number alike

theorem startJob_mirrored {body there : Job → MachineM Value}
    (grows : ∀ number, Grows (startJob body number))
    (each : ∀ job other, M.Jobs job other →
      Mirrored M room (Images M.value) (body job) (there other)) (number : Nat) :
    Mirrored M room (Images id) (startJob body number) (startJob there number) := by
  refine .looking (grows number) fun machine other machines _ => ?_
  have jobs := machines.store.schedule.job? number
  generalize machine.store.schedule.job? number = job at jobs ⊢
  generalize other.store.schedule.job? number = jobThere at jobs ⊢
  cases jobs with
  | none => exact .pure rfl
  | @some job jobThere alike =>
      have states := alike.state
      have running := each job jobThere alike
      dsimp only
      generalize job.state = state at states ⊢
      generalize jobThere.state = stateThere at states ⊢
      cases states with
      | waiting requested =>
          cases requested with
          | true =>
              exact .onStore (changeSchedule_reflects fun _ _ schedules =>
                schedules.setState number .cancelled)
          | false => exact runJob_mirrored number running
      | _ => exact .pure rfl

/-! ## Callbacks from the host -/

theorem Translation.Stores.hostTypeName {store other : Store} (stores : M.Stores store other)
    (data : Data) : hostTypeName other (M.data data) = Scriptlet.hostTypeName store data := by
  cases data with
  | host id =>
      simp only [Naming.data_host, Scriptlet.hostTypeName]
      rw [stores.objectAt]
      cases store.objects[id]? with
      | none => rfl
      | some object => cases object <;> rfl
  | list | table => simp [Scriptlet.hostTypeName]
  | _ => rfl

theorem applyData_mirrored (space : Nat) {call there : ClosureId → List Value → MachineM Value}
    (each : ∀ id arguments, Mirrored M room (Images M.value) (call id arguments)
      (there (M.closures + id) (arguments.map M.value))) (arguments : List Value) :
    Mirrored M room (Images M.value) (applyData space call arguments)
      (applyData space there (arguments.map M.value)) := by
  refine .bind (.asking fun _ _ stores => stores.unwrapAll space arguments) fun data => ?_
  rw [List.length_map]
  refine .bind (.checking _) fun _ => ?_
  have refused (data : List Data) : Mirrored M room (Images M.value)
      (do
        let typeName := hostTypeName (← get).store (data.headD .null)
        throw (.host .wrongType ("'" ++ typeName ++ "' object is not callable")))
      (do
        let typeName := hostTypeName (← get).store ((data.map M.data).headD .null)
        throw (.host .wrongType ("'" ++ typeName ++ "' object is not callable"))) := by
    refine .looking (.looking fun _ => .throw) fun machine other machines _ => ?_
    have first : (data.map M.data).headD .null = M.data (data.headD .null) := by
      cases data <;> rfl
    rw [first, machines.store.hostTypeName]
    exact .throw _
  have called (id : ClosureId) (rest : List Data) : Mirrored M room (Images M.value)
      (do
        let result ← call id (← Machine.onStore (Data.wrapAll rest))
        let data ← Machine.askStore fun store => store.unwrap space result
        Machine.onStore data.wrap)
      (do
        let result ← there (M.closures + id) (← Machine.onStore (Data.wrapAll (rest.map M.data)))
        let data ← Machine.askStore fun store => store.unwrap space result
        Machine.onStore data.wrap) := by
    refine .bind (.onStore (wrapAll_reflects rest)) fun values => ?_
    refine .bind (each id values) fun result => ?_
    refine .bind (.asking fun _ _ stores => stores.unwrap space result) fun data => ?_
    exact .onStore (wrap_reflects data)
  cases data with
  | nil => exact refused []
  | cons first rest =>
      cases first with
      | closure id => exact called id rest
      | list items =>
          have same := refused (.list items :: rest)
          rw [List.map_cons, Naming.data_list] at same ⊢
          exact same
      | table fields =>
          have same := refused (.table fields :: rest)
          rw [List.map_cons, Naming.data_table] at same ⊢
          exact same
      | null => exact refused (.null :: rest)
      | bool truth => exact refused (.bool truth :: rest)
      | int n => exact refused (.int n :: rest)
      | float x => exact refused (.float x :: rest)
      | text text => exact refused (.text text :: rest)
      | host id => exact refused (.host id :: rest)
      | foreign => exact refused (.foreign :: rest)

end Scriptlet
