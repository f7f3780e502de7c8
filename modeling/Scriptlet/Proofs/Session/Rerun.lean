import Scriptlet.Proofs.Evaluator.Methods
import Scriptlet.Proofs.Parser.Allowance
import Scriptlet.Proofs.Session.Handles

/-!
# Running a module again

The handle of a module runs a program that was read once; a handle that is loaded anew has a program
of its own.  Running either of them comes to the same, if one runner has obtained both, as long as
no `new` statement of the module binds its class name in the new program and in the earlier one:
each program remembers which of its statements have done so.
-/

namespace Scriptlet

/-! ## Beside a new handle -/

/-- The relocation that leaves out the names of the next two objects and of the next unit. -/
def Machine.makingRoom (machine : Machine) : Relocation where
  objects := skipping machine.store.objects.size ∘ skipping machine.store.objects.size
  unit := skipping machine.units
  objectCount := machine.store.objects.size
  unitCount := machine.units
  injective := (skipping_injective _).comp (skipping_injective _)
  objects_eq id known := by
    rw [Function.comp_apply, skipping_eq_self.mpr known, skipping_eq_self.mpr known]
  unit_eq _ := skipping_eq_self.mpr

theorem Machine.makingRoom_objects_of_le (machine : Machine) {id : ObjectId}
    (beyond : machine.store.objects.size ≤ id) : machine.makingRoom.objects id = id + 2 := by
  change skipping _ (skipping _ id) = id + 2
  rw [skipping_of_le beyond, skipping_of_le (Nat.le_succ_of_le beyond)]

/-- How a run is named in one before which a runner has loaded a module again: the handle and its
unit come first, the file has been read once more, and this has been noted. -/
def Machine.beside (machine : Machine) (runner : RunnerId) (path : String) : Translation where
  toNaming := machine.makingRoom.translation.toNaming
  journal entries :=
    (machine.consulting path (machine.moduleFile runner path)).store.journal ++
      entries.extract machine.store.journal.size
  consulted paths :=
    paths.take (paths.length - machine.consulted.length) ++
      machine.moduleFile runner path :: machine.consulted

instance (machine : Machine) (runner : RunnerId) (path : String) :
    (machine.beside runner path).Plain :=
  ⟨skipping_injective machine.units, rfl, rfl⟩

/-- How a run that counts code of one unit to another one names that of another run. -/
def Translation.merging (fresh unit : UnitId) : Translation where
  unit id := if id = fresh then unit else id

/-- The relocation that counts code of the next unit to another one. -/
def Machine.mergingNext (machine : Machine) (unit : UnitId) : Relocation :=
  { Relocation.still machine with
    unit := (Translation.merging machine.units unit).unit
    unit_eq := fun _ known => if_neg (Nat.ne_of_lt known) }

section Namings

variable {machine : Machine} (runner : RunnerId) (path : String)

theorem Machine.reading_alike (machine : Machine) (runner id : RunnerId) (file source : String) :
    Option.Rel Runner.Alike machine.runners[id]?
      (machine.runners.modify runner (Runner.reading file source))[id]? := by
  rw [Array.getElem?_modify]
  split
  · cases machine.runners[id]? with
    | none => exact .none
    | some current => exact .some (Runner.alike_reading file source current)
  · exact Runner.Alike.rel_self _

theorem Machine.Closed.makingRoom (closed : machine.Closed) :
    machine.makingRoom.translation.Machines machine machine :=
  closed machine.makingRoom ⟨Nat.le_refl _, Nat.le_refl _⟩

/-- The objects of a closed machine keep their places beside a handle. -/
theorem Machine.Closed.handing_objects (closed : machine.Closed) (source : String)
    (body : List Stmt) (unit : UnitId) :
    Placed none machine.makingRoom.objects (machine.beside runner path).Objects
      machine.store.objects (machine.handing runner path source body unit).store.objects := by
  refine ⟨machine.makingRoom.injective, fun more _ => ?_, fun id => ?_⟩
  · rw [machine.makingRoom_objects_of_le (Nat.le_add_right _ _), machine.size_handing]
    omega
  · cases found : machine.store.objects[id]? with
    | none =>
        have beyond := Array.getElem?_eq_none_iff.mp found
        rw [machine.makingRoom_objects_of_le beyond, Array.getElem?_eq_none]
        · exact .none
        · rw [machine.size_handing]
          exact Nat.add_le_add_right beyond 2
    | some object =>
        obtain ⟨other, foundThere, alike⟩ := closed.makingRoom.store.objects.some_of_left found
        have kept := machine.handing_earlier runner path source body unit foundThere
        exact kept.symm ▸ .some alike

/-- A closed machine beside one in which the runner has been given a handle. -/
theorem Machine.Closed.beside_handing (closed : machine.Closed) (source : String) (body : List Stmt)
    (unit : UnitId) :
    (machine.beside runner path).Machines machine
      (machine.handing runner path source body unit) := by
  have machines := closed.makingRoom
  exact {
    scopes := machines.scopes
    runners := fun id => machine.reading_alike runner id _ source
    units := fun more _ => by
      change skipping machine.units _ = machine.units + 1 + more
      rw [skipping_of_le (Nat.le_add_right _ _), Nat.add_right_comm]
    constructed := machines.constructed
    depthLimit := rfl
    disk := rfl
    consulted := by simp [Machine.beside, handing, consulting, reading]
    read := fun more => by simp [Machine.beside]
    store := {
      arrays := machines.store.arrays
      closures := machines.store.closures
      objects := closed.handing_objects runner path source body unit
      methods := rfl
      schedule := machines.store.schedule
      random := rfl
      clock := rfl
      output := rfl
      journal := by simp [Machine.beside, handing, consulting, reading]
      noted := fun more => by simp [Machine.beside, Array.extract_append] } }

/-- The unit of a handle makes no difference when it counts as the other one. -/
theorem Machine.Closed.merging_handing (closed : machine.Closed) (source : String)
    (body : List Stmt) (unit : UnitId) :
    (Translation.merging machine.units unit).Machines
      (machine.handing runner path source body machine.units)
      (machine.handing runner path source body unit) := by
  have machines := closed (machine.mergingNext unit) ⟨Nat.le_refl _, Nat.le_refl _⟩
  have earlier : Placed none id (Translation.merging machine.units unit).Objects
      machine.store.objects machine.store.objects :=
    ⟨Function.injective_id, fun _ _ => rfl, machines.store.objects.items⟩
  have run : (Translation.merging machine.units unit).Objects
      (.function "run" (.control (.runModule body machine.units runner)))
      (.function "run" (.control (.runModule body unit runner))) := by
    refine ⟨?_, fun _ _ _ _ => rfl⟩
    simp [Naming.object, Naming.action, Naming.control, Translation.merging]
  exact {
    scopes := machines.scopes
    runners := fun _ => Runner.Alike.rel_self _
    units := fun more _ => by
      refine if_neg ?_
      change ¬ machine.units + 1 + more = machine.units
      omega
    constructed := machines.constructed
    depthLimit := rfl
    disk := rfl
    consulted := rfl
    read := fun _ => rfl
    store := {
      arrays := machines.store.arrays
      closures := machines.store.closures
      objects := (earlier.push (.none _) run).push (.none _) ⟨rfl, fun _ _ _ _ => rfl⟩
      methods := rfl
      schedule := machines.store.schedule
      random := rfl
      clock := rfl
      output := rfl
      journal := rfl
      noted := fun _ => rfl } }

/-- Counting one unit to another one is safe when no statement is marked in both. -/
theorem merging_safe {fresh unit : UnitId} {after : Machine} (disk : Disk)
    (apart : ∀ offset, (unit, offset) ∈ after.constructed → (fresh, offset) ∉ after.constructed) :
    (Translation.merging fresh unit).Safe disk after where
  free _ _ _ _ _ _ _ _ _ := rfl
  distinct := by
    rintro ⟨first, offset⟩ made ⟨second, other⟩ too same
    obtain rfl : offset = other := (congrArg Prod.snd same :)
    have units :
        (if first = fresh then unit else first) = if second = fresh then unit else second :=
      congrArg Prod.fst same
    by_cases isFresh : first = fresh <;> by_cases isFreshToo : second = fresh
    · rw [isFresh, isFreshToo]
    · rw [if_pos isFresh, if_neg isFreshToo] at units
      exact absurd (isFresh ▸ made) (apart offset (units ▸ too))
    · rw [if_neg isFresh, if_pos isFreshToo] at units
      exact absurd (isFreshToo ▸ too) (apart offset (units ▸ made))
    · rw [if_neg isFresh, if_neg isFreshToo] at units
      rw [units]
  units := nofun
  objects := nofun

theorem merging_value {fresh unit : UnitId} (value : Value) :
    (Translation.merging fresh unit).value value = value := by
  cases value <;> simp [Translation.merging]

theorem merging_value_eq {fresh unit : UnitId} : (Translation.merging fresh unit).value = id :=
  funext merging_value

end Namings

/-! ## The same outcome -/

/-- Two runs come to the same, from a machine and from the one in which a runner has loaded a module
again, if code of the new unit counts as code of an earlier one. -/
structure Machine.Repeats (start : Machine) (runner : RunnerId) (path : String) (unit : UnitId)
    (left right : Machine) : Prop where
  scopes : (start.beside runner path).Scopes left.scopes right.scopes
  arrays : Aligned 0 (Images (Array.map (start.beside runner path).value)) left.store.arrays
    right.store.arrays
  closures : Aligned 0 (fun closure there =>
    (Translation.merging start.units unit).closure there =
      (start.beside runner path).closure closure)
    left.store.closures right.store.closures
  objects : ∀ id, Option.Rel (fun object there =>
    (Translation.merging start.units unit).object there = (start.beside runner path).object object)
    left.store.objects[id]? right.store.objects[(start.beside runner path).objects id]?
  schedule : (start.beside runner path).Schedules left.store.schedule right.store.schedule
  constructed : right.constructed.map (Translation.merging start.units unit).mark =
    left.constructed.map (start.beside runner path).mark
  consulted : right.consulted = (start.beside runner path).consulted left.consulted
  random : right.store.random = left.store.random
  clock : right.store.clock = left.store.clock
  output : right.store.output = left.store.output
  journal : right.store.journal = (start.beside runner path).journal left.store.journal

section Common

variable {α β γ : Type} {alike : α → γ → Prop} {other : β → γ → Prop} {both : α → β → Prop}

theorem rel_of_common {first : Option α} {second : Option β} {common : Option γ}
    (left : Option.Rel alike first common) (right : Option.Rel other second common)
    (same : ∀ item there shared, alike item shared → other there shared → both item there) :
    Option.Rel both first second := by
  cases left <;> cases right
  · exact .some (same _ _ _ ‹_› ‹_›)
  · exact .none

theorem Aligned.of_common {first : Array α} {second : Array β} {common : Array γ}
    (left : Aligned 0 alike first common) (right : Aligned 0 other second common)
    (same : ∀ item there shared, alike item shared → other there shared → both item there) :
    Aligned 0 both first second where
  size := by
    have := left.size
    have := right.size
    omega
  items i := by
    have here := left.items i
    have there := right.items i
    rw [Nat.zero_add] at here there ⊢
    exact rel_of_common here there same

end Common

section Repeats

variable {start left right shared : Machine} {runner : RunnerId} {path : String} {unit : UnitId}

theorem jobs_of_common {left right shared : Job}
    (first : (start.beside runner path).Jobs left shared)
    (second : (Translation.merging start.units unit).Jobs right shared) :
    (start.beside runner path).Jobs left right := by
  obtain ⟨function, arguments, states⟩ := first
  obtain ⟨functionThere, argumentsThere, statesThere⟩ := second
  rw [merging_value] at functionThere
  rw [merging_value_eq, List.map_id] at argumentsThere
  refine ⟨functionThere.symm.trans function, argumentsThere.symm.trans arguments, ?_⟩
  revert states statesThere
  generalize left.state = state
  generalize right.state = there
  generalize shared.state = common
  rintro (requested | requested | value | alike | _) statesThere
  · cases statesThere
    exact .waiting requested
  · cases statesThere
    exact .running requested
  · generalize image : (start.beside runner path).value value = result at statesThere
    cases statesThere with
    | returned there =>
        rw [merging_value] at image
        exact image ▸ .returned value
  · cases statesThere with
    | failed alikeThere => exact .failed (alike.trans alikeThere.symm)
  · cases statesThere
    exact .cancelled

/-- Both runs are named in the one that runs the old handle beside the new one. -/
theorem Machine.Repeats.of_common (first : (start.beside runner path).Machines left shared)
    (second : (Translation.merging start.units unit).Machines right shared) :
    start.Repeats runner path unit left right where
  scopes := Aligned.of_common first.scopes second.scopes fun scope there common here other =>
    { name := other.name.symm.trans here.name
      parent := other.parent.symm.trans here.parent
      bindings := by
        have bindings := other.bindings.symm.trans here.bindings
        rwa [merging_value_eq, mapValues_id] at bindings }
  arrays := first.store.arrays.of_common second.store.arrays fun items there common here other => by
    rw [merging_value_eq, Array.map_id_fun, id] at other
    exact other.symm.trans here
  closures := first.store.closures.of_common second.store.closures
    fun closure there common here other => other.1.symm.trans here.1
  objects id := rel_of_common (first.store.objects.items id)
    (second.store.objects.items ((start.beside runner path).objects id))
    fun object there common here other => other.1.symm.trans here.1
  schedule :=
    { jobs := first.store.schedule.jobs.of_common second.store.schedule.jobs
        fun job there common here other => jobs_of_common here other
      forgotten := second.store.schedule.forgotten.symm.trans first.store.schedule.forgotten
      ready := second.store.schedule.ready.symm.trans first.store.schedule.ready
      isOpen := second.store.schedule.isOpen.symm.trans first.store.schedule.isOpen
      active := second.store.schedule.active.symm.trans first.store.schedule.active }
  constructed := second.constructed.symm.trans first.constructed
  consulted := second.consulted.symm.trans first.consulted
  random := second.store.random.symm.trans first.store.random
  clock := second.store.clock.symm.trans first.store.clock
  output := second.store.output.symm.trans first.store.output
  journal := second.store.journal.symm.trans first.store.journal

theorem Paired.repeats {first second common : EStateM.Result Fault Machine Value}
    {here there before : Machine}
    (left : Paired ((start.beside runner path).Reached here before)
      (Images (start.beside runner path).value) first common)
    (right : Paired ((Translation.merging start.units unit).Reached there before)
      (Images (Translation.merging start.units unit).value) second common) :
    Paired (start.Repeats runner path unit)
      (Images (start.beside runner path).value) first second := by
  cases left with
  | ok result reached =>
      cases right with
      | ok resultThere reachedThere =>
          rw [Images, merging_value] at resultThere
          exact .ok (resultThere.symm.trans result) (.of_common reached.1 reachedThere.1)
  | error alike reached =>
      cases right with
      | error alikeThere reachedThere =>
          exact .error (alike.trans alikeThere.symm) (.of_common reached.1 reachedThere.1)

end Repeats

/-! ## Calls of handles -/

/-- Calls the `run` of a handle without arguments. -/
def callRun (context : Context) (room : Nat) (span : Span) (handle : Value) : MachineM Value :=
  locating context.runner span do
    match ← Machine.onStore (Store.readMember (room + 2) handle "run") with
    | .value callee => callValue context.runner (room + 2) callee []
    | .method method => callingHost method.name (Machine.onStore (method.perform room handle []))

section Calls

variable {machine middle : Machine} {context : Context} {room : Nat}

/-- To evaluate a call of `run` is to call the `run` of what the receiver is. -/
theorem evaluate_call_run {object : Expr} {handle : Value}
    (receives : evaluate context (room + 2) object machine = .ok handle middle)
    (span place : Span) :
    evaluate context (room + 5) (.call span (.member place object "run") []) machine =
      callRun context room span handle middle := by
  rw [evaluate]
  refine locating_congr ((bind_of_ok receives).trans ?_)
  refine congrArg (EStateM.bind _ · middle) (funext fun member => ?_)
  cases member <;> rfl

/-- The `run` of a handle is the function that it runs. -/
theorem callRun_of_loaded {handle run : ObjectId} {path : String}
    (handles : machine.store.objects[handle]? = some (.loaded path run)) (span : Span) :
    callRun context room span (.host handle) machine =
      locating context.runner span
        (callValue context.runner (room + 2) (.host run) []) machine := by
  have member : Store.member? (.host handle) "run" machine.store =
      .ok (some (.value (.host run))) machine.store := by
    rw [member?_host, handles]
    rfl
  have read : Store.readMember (room + 2) (.host handle) "run" machine.store =
      .ok (.value (.host run)) machine.store := bind_of_ok member
  exact locating_congr (bind_of_ok (onStore_of_ok read))

theorem callHandle_mirrored (M : Translation) (runner : RunnerId) (span : Span) (room : Nat)
    (run : ObjectId) :
    Mirrored M room (Images M.value) (locating runner span (callValue runner room (.host run) []))
      (locating (M.runner runner) span
        (callValue (M.runner runner) room (.host (M.objects run)) [])) :=
  locating_mirrored ((roomMirrored M room (Nat.le_refl room)).callValue runner (.host run) [])

end Calls

/-! ## A module that constructs -/

/-- The loading of a module. -/
def loadingModule : Expr :=
  .load default (.text default "a.ml")

/-- A call of the `run` of the handle that a name is bound to. -/
def runningHandle : Expr :=
  .call default (.member default (.name default "m") "run") []

/-- A machine with a runner, and on its disk a module that constructs. -/
def constructingMachine : Machine where
  scopes := #[{ name := "global", parent := none }]
  runners := #[{ source := "", file := none, moduleRoot := none, globals := 0 }]
  units := 1
  disk := (FileTree.directory [("a.ml",
    .file "fn A() \x7b return 1; \x7d new A(); A".toUTF8.toList)]).disk "/"

/-- The machine whose runner has bound a handle for the module. -/
def boundMachine : Machine :=
  let loaded := endState (evaluate ⟨0, 0, 0⟩ 40 loadingModule constructingMachine)
  { loaded with scopes := loaded.scopes.define 0 "m" (.host 1) }

/-- The machine whose runner has run the module. -/
def ranMachine : Machine :=
  endState (evaluate ⟨0, 0, 0⟩ 45 runningHandle boundMachine)

theorem evaluate_loadingModule :
    evaluate ⟨0, 0, 0⟩ 40 loadingModule constructingMachine =
      .ok (.host 1) (endState (evaluate ⟨0, 0, 0⟩ 40 loadingModule constructingMachine)) :=
  eq_ok_of_endValue? (by decide +kernel)

theorem boundMachine_closed : boundMachine.Closed := by
  have loaded : (endState (evaluate ⟨0, 0, 0⟩ 40 loadingModule constructingMachine)).Closed :=
    ((Machine.Closed.of_new (by decide) rfl rfl).evaluate (by decide) 40 loadingModule).1
  refine loaded.define 0 "m" ?_
  rintro _ ⟨⟩
  decide +kernel

theorem boundMachine_obtained : Machine.Obtained "a.ml" (.host 1) 0 1 boundMachine :=
  have course : Machine.Course (fun _ => True) 0 _ boundMachine := .define 0 _ "m" (.host 1)
  .later (.load (evaluate_text ⟨0, 0, 0⟩ 32 default "a.ml" constructingMachine)
    evaluate_loadingModule) course rfl

/-! ## Running again -/

/-- A handle that a runner has obtained for a module may be run, or the runner may load the module
again and run the new handle: the outcome is the same, as long as no `new` statement of the module
has bound its class name both in the new program and in the earlier one. -/
theorem evaluate_runAgain {before machine obtained : Machine} (closed : machine.Closed)
    {context : Context} {path : String} {handle : Value} {unit : UnitId}
    (once : Machine.Obtained path handle context.runner unit machine) {room : Nat} {object : Expr}
    (named : evaluate context (room + 2) object before = .ok handle machine)
    {space : Nat} {loading text span place : Span} {fresh : Value}
    (loads : evaluate context space (.load loading (.text text path)) machine = .ok fresh obtained)
    (apart : ∀ offset,
      (unit, offset) ∈ (endState (callRun context room span fresh obtained)).constructed →
        (machine.units, offset) ∉
          (endState (callRun context room span fresh obtained)).constructed) :
    Paired (machine.Repeats context.runner path unit)
      (Images (machine.beside context.runner path).value)
      (evaluate context (room + 5) (.call span (.member place object "run") []) before)
      (callRun context room span fresh obtained) := by
  obtain ⟨handle, rfl, source, _, program, run, read, parsed, runs, handles⟩ := once.hasLoaded
  obtain ⟨_, _, reread, readAgain, parsedAgain, rfl, rfl⟩ := evaluate_load_text_ok loads
  cases readAgain.symm.trans read
  obtain rfl := Program.ofSource_unique parsed parsedAgain
  rw [callRun_of_loaded (machine.handing_handle ..)] at apart ⊢
  rw [evaluate_call_run named, callRun_of_loaded handles]
  -- Between the two runs stands a third one: there the earlier handle is run beside the new one,
  -- whose code counts as code of the earlier program.
  let shared := machine.handing context.runner path source reread.body unit
  have first := (callHandle_mirrored (machine.beside context.runner path) context.runner span
    (room + 2) run).paired machine shared
      (closed.beside_handing context.runner path source reread.body unit)
      ((machine.restores_handing ..).depths rfl) fun _ _ _ _ _ _ _ _ _ => rfl
  have second := (callHandle_mirrored (Translation.merging machine.units unit) context.runner span
    (room + 2) machine.store.objects.size).ended _ shared
      (closed.merging_handing context.runner path source reread.body unit)
      (Machine.Restores.depths rfl ⟨rfl, rfl, rfl⟩) (merging_safe _ apart)
  have kept : (machine.beside context.runner path).objects run = run :=
    machine.makingRoom.objects_eq run (Array.getElem?_eq_some_iff.mp runs).1
  have same : callValue context.runner (room + 2) (.host machine.store.objects.size) [] shared =
      callValue context.runner (room + 2) (.host run) [] shared :=
    (callValue_function (machine.handing_run ..) []).trans
      (callValue_function (machine.handing_earlier _ _ _ _ _ runs) []).symm
  rw [kept] at first
  have second : Paired _ _ _ (locating context.runner span
    (callValue context.runner (room + 2) (.host machine.store.objects.size) []) shared) := second
  rw [locating_congr same] at second
  exact first.repeats second

/-- The first run of a module that constructs is such a one. -/
theorem evaluate_runAgain_first :
    ∃ fresh obtained,
      evaluate ⟨0, 0, 0⟩ 40 loadingModule boundMachine = .ok fresh obtained ∧
      Paired (boundMachine.Repeats 0 "a.ml" 1) (Images (boundMachine.beside 0 "a.ml").value)
        (evaluate ⟨0, 0, 0⟩ 45 runningHandle boundMachine)
        (callRun ⟨0, 0, 0⟩ 40 default fresh obtained) := by
  have loads := eq_ok_of_endValue?
    (show endValue? (evaluate ⟨0, 0, 0⟩ 40 loadingModule boundMachine) = some (.host 3) by
      decide +kernel)
  have marks : (endState (callRun ⟨0, 0, 0⟩ 40 default (.host 3)
      (endState (evaluate ⟨0, 0, 0⟩ 40 loadingModule boundMachine)))).constructed = [(2, 21)] := by
    decide +kernel
  refine ⟨_, _, loads, evaluate_runAgain boundMachine_closed boundMachine_obtained
    (evaluate_name (by decide +kernel) 37 default) loads fun offset made => ?_⟩
  rw [marks] at made
  simp at made

/-- A machine on which a function may not call another one, and on its disk a module
that calls one. -/
def callingMachine : Machine where
  scopes := #[{ name := "global", parent := none }]
  depthLimit := 1
  disk := (FileTree.directory [("a.ml", .file "f()".toUTF8.toList)]).disk "/"

/-- The machine after a run that has obtained a handle for the module. -/
def keptMachine : Machine :=
  endState (runSource none 0 "let m = require(\"a.ml\"); fn f() \x7b return 1; \x7d" none
    callingMachine)

/-- What a script has failed for. -/
def Fault.cause? : Fault → Option Cause
  | .script e => some e.cause
  | _ => none

/-- When a module that constructs is run once more, the name of its class is no longer bound to what
it constructs; the new program of a handle that is loaded anew binds it.  And a function of a later
run may run the handle of an earlier one, where it may not run a new one: a handle counts calls with
the runner that has obtained it. -/
theorem evaluate_runAgain_apart :
    (ranMachine.Closed ∧ Machine.Obtained "a.ml" (.host 1) 0 1 ranMachine ∧
      evaluate ⟨0, 0, 0⟩ 42 (.name default "m") ranMachine = .ok (.host 1) ranMachine ∧
      ∃ fresh obtained, evaluate ⟨0, 0, 0⟩ 40 loadingModule ranMachine = .ok fresh obtained ∧
        endValue? (evaluate ⟨0, 0, 0⟩ 45 runningHandle ranMachine) = some (.closure 1) ∧
        endValue? (callRun ⟨0, 0, 0⟩ 40 default fresh obtained) = some (.number 1) ∧
        ¬ Paired (ranMachine.Repeats 0 "a.ml" 1) (Images (ranMachine.beside 0 "a.ml").value)
          (evaluate ⟨0, 0, 0⟩ 45 runningHandle ranMachine)
          (callRun ⟨0, 0, 0⟩ 40 default fresh obtained)) ∧
    endValue? (runSource none 0 "fn g() \x7b return m.run(); \x7d g()" none keptMachine) =
        some (.number 1) ∧
      (faultOf (runSource none 0 "fn g() \x7b let m = require(\"a.ml\"); return m.run(); \x7d g()"
        none keptMachine)).bind Fault.cause? = some (.tooDeep 1) := by
  have loads := eq_ok_of_endValue?
    (show endValue? (evaluate ⟨0, 0, 0⟩ 40 loadingModule ranMachine) = some (.host 3) by
      decide +kernel)
  have again : endValue? (evaluate ⟨0, 0, 0⟩ 45 runningHandle ranMachine) = some (.closure 1) := by
    decide +kernel
  have anew : endValue? (callRun ⟨0, 0, 0⟩ 40 default (.host 3)
      (endState (evaluate ⟨0, 0, 0⟩ 40 loadingModule ranMachine))) = some (.number 1) := by
    decide +kernel
  refine ⟨⟨(boundMachine_closed.evaluate (by decide +kernel) 45 runningHandle).1,
    boundMachine_obtained.evaluate boundMachine_closed (by decide +kernel) 45 runningHandle,
    evaluate_name (by decide +kernel) 37 default, _, _, loads, again, anew, fun same => ?_⟩,
    by decide +kernel, by decide +kernel⟩
  rw [eq_ok_of_endValue? again, eq_ok_of_endValue? anew] at same
  cases same with
  | ok results _ => cases results

end Scriptlet
