import Scriptlet.Proofs.Mirror.Session
import Scriptlet.Proofs.Session.Standard

/-!
# Extensions by the host

The host may bind a further name in the root scope before a program runs.  A program that does not
ask for the name, and loads no module that does, runs as if it were not bound: it prints and logs
the same and ends with the same value or the same error.
-/

namespace Scriptlet

/-- Runs a program text on a new root scope with builtins, to which the host has done something. -/
def runExtended (extend : ScopeId → MachineM Unit) (settings : Settings) (entropy : Int)
    (source : String) (file : Option String) : MachineM Value := do
  let scope ← openEnvironment settings entropy
  extend scope
  runSource settings.moduleRoot scope source file

/-- A machine whose store holds some cells already. -/
def Machine.holding (machine : Machine) (arrays : Array (Array Value)) (closures : Array Closure)
    (objects : Array HostObject) : Machine :=
  { machine with store :=
    { machine.store with arrays := arrays, closures := closures, objects := objects } }

/-- Two runs print and log the same, and end with values that are displayed in the same way or with
errors that differ at most in the line that they quote. -/
inductive SameOutcome : EStateM.Result Fault Machine Value →
    EStateM.Result Fault Machine Value → Prop
  | ok {value other : Value} {here there : Machine}
      (displayed : ∀ room nested,
        there.store.display room nested other = here.store.display room nested value)
      (output : there.store.output = here.store.output)
      (journal : there.store.journal = here.store.journal) :
      SameOutcome (.ok value here) (.ok other there)
  | error {fault other : Fault} {here there : Machine} (alike : fault.Alike other)
      (output : there.store.output = here.store.output)
      (journal : there.store.journal = here.store.journal) :
      SameOutcome (.error fault here) (.error other there)

/-- A text in which no program asks for a name. -/
def Unasked (name : String) (room : Nat) (source : String) (file : Option String) : Prop :=
  ∀ program, Program.ofSource room source file = .ok program → name ∉ bodyNames program.body

instance (name : String) (room : Nat) (source : String) (file : Option String) :
    Decidable (Unasked name room source file) :=
  match parsed : Program.ofSource room source file with
  | .ok program =>
      decidable_of_iff (name ∉ bodyNames program.body)
        ⟨fun absent _ same => Except.ok.inj (parsed.symm.trans same) ▸ absent,
          fun unasked => unasked program parsed⟩
  | .error _ => .isTrue fun _ same => nomatch parsed.symm.trans same

theorem SameOutcome.of_paired {M : Translation} (same : M.journal = id) {left right : Machine}
    {first second : EStateM.Result Fault Machine Value}
    (ended : Paired (M.Reached left right) (Images M.value) first second) :
    SameOutcome first second := by
  have journals {here there : Machine} (machines : M.Machines here there) :
      there.store.journal = here.store.journal := by rw [machines.store.journal, same, id]
  rcases ended with ⟨rfl, machines, -⟩ | ⟨alike, machines, -⟩
  · exact .ok (fun room nested => machines.store.display room nested _) machines.store.output
      (journals machines)
  · exact .error alike machines.store.output (journals machines)

theorem runExtended_run (extend : ScopeId → MachineM Unit) (settings : Settings) (entropy : Int)
    (source : String) (file : Option String) (machine : Machine) :
    runExtended extend settings entropy source file machine =
      match openEnvironment settings entropy machine with
      | .ok scope opened =>
          (do
            extend scope
            runSource settings.moduleRoot scope source file) opened
      | .error fault opened => .error fault opened := by
  change EStateM.bind (openEnvironment settings entropy) _ machine = _
  unfold EStateM.bind
  cases openEnvironment settings entropy machine <;> rfl

/-! ## Mirrored extensions -/

/-- How a run is named in one where the host has bound a further name, to a value that may need
cells. -/
def Translation.extending (name : String) (arrays : Array (Array Value)) (closures : Array Closure)
    (objects : Array HostObject) : Translation where
  arrays := arrays.size
  closures := closures.size
  objects id := objects.size + id
  hidden := (· == name)

instance (name : String) (arrays : Array (Array Value)) (closures : Array Closure)
    (objects : Array HostObject) : (Translation.extending name arrays closures objects).Plain :=
  ⟨Function.injective_id, rfl, rfl⟩

section Extending

variable {name : String} {arrays : Array (Array Value)} {closures : Array Closure}
  {objects : Array HostObject}

theorem extending_free {names : List String} (absent : name ∉ names) :
    (Translation.extending name arrays closures objects).Free names := by
  intro asked found
  exact beq_eq_false_iff_ne.mpr fun same => absent (same ▸ found)

theorem aligned_empty {α β : Type} {alike : α → β → Prop} (items : Array β) :
    Aligned items.size alike #[] items where
  size := rfl
  items i := by
    rw [Array.getElem?_eq_none (Nat.zero_le i), Array.getElem?_eq_none (Nat.le_add_right _ i)]
    exact .none

theorem extending_unused (disk : Disk) (depthLimit : Nat) (clock : Float) :
    (Translation.extending name arrays closures objects).Machines (.unused disk depthLimit clock)
      ((Machine.unused disk depthLimit clock).holding arrays closures objects) where
  scopes := aligned_empty #[]
  runners _ := .none
  units _ _ := rfl
  constructed := rfl
  depthLimit := rfl
  disk := rfl
  consulted := rfl
  read _ := rfl
  store :=
    { arrays := aligned_empty arrays
      closures := aligned_empty closures
      objects := .of_aligned (aligned_empty objects) fun _ => rfl
      methods := rfl
      schedule := ⟨aligned_empty #[], rfl, rfl, rfl, rfl⟩
      random := rfl
      clock := rfl
      output := rfl
      journal := rfl
      noted := fun _ => rfl }

/-- The host may bind a hidden name in one of the machines only. -/
theorem Translation.Machines.defineHidden {M : Translation} {left right : Machine}
    (machines : M.Machines left right) {name : String} (hidden : M.hidden name = true)
    (scope : ScopeId) (value : Value) :
    M.Machines left { right with scopes := right.scopes.define scope name value } := by
  refine { machines with scopes := ⟨?_, fun i => ?_⟩ }
  · rw [Scriptlet.Scopes.define, Array.size_modify, machines.scopes.size]
  · have related := machines.scopes.items i
    rw [Scriptlet.Scopes.define, Array.getElem?_modify]
    split
    · generalize left.scopes[i]? = here at related ⊢
      generalize right.scopes[0 + i]? = there at related ⊢
      cases related with
      | none => exact .none
      | some alike =>
          refine .some ⟨alike.name, alike.parent, ?_⟩
          unfold Naming.Bindings
          rw [Naming.visible_put, if_pos hidden]
          exact alike.bindings
    · exact related

/-- Runners without calls are equally deep in calls. -/
theorem extending_depths {room : Nat} {left right : Machine}
    (same : ∀ (id : RunnerId) runner other, left.runners[id]? = some runner →
      right.runners[id]? = some other → other.depth = runner.depth) :
    (Translation.extending name arrays closures objects).Depths room left right :=
  .equal Function.injective_id same

/-- A text is run in the same way on mirrored machines without runners. -/
theorem runSource_extending {left right : Machine}
    (machines : (Translation.extending name arrays closures objects).Machines left right)
    (here : left.runners = #[]) (there : right.runners = #[]) {moduleRoot : Option String}
    {scope : ScopeId} {source : String} {file : Option String}
    (absent : Unasked name (stackRoom left.depthLimit) source file)
    (modules : ∀ path ∈ (endState (runSource moduleRoot scope source file left)).consulted,
      (Translation.extending name arrays closures objects).FreeModule left.disk path) :
    SameOutcome (runSource moduleRoot scope source file left)
      (runSource moduleRoot scope source file right) := by
  have units : right.units = left.units := (machines.units 0 nofun).symm
  rw [runSource_run] at modules ⊢
  rw [runSource_run, machines.depthLimit, units, there]
  rw [here] at modules ⊢
  dsimp only at modules ⊢
  cases parsed : Program.ofSource (stackRoom left.depthLimit) source file with
  | error fault => exact .error (.refl _) machines.store.output machines.store.journal
  | ok program =>
      rw [parsed] at modules
      have started : (Translation.extending name arrays closures objects).Machines
          { left.joinedBy ⟨source, file, moduleRoot, [], 0, scope⟩ with units := left.units + 1 }
          { right.joinedBy ⟨source, file, moduleRoot, [], 0, scope⟩ with
            units := left.units + 1 } := by
        refine { machines with units := fun _ _ => rfl, runners := fun id => ?_ }
        dsimp only [Machine.joinedBy]
        rw [here, there]
        match id with
        | 0 => exact .some ⟨rfl, rfl⟩
        | _ + 1 => exact .none
      refine .of_paired rfl (runProgram_paired started (extending_depths ?_)
        (extending_free (absent program parsed)) modules)
      intro id runner other found foundThere
      dsimp only [Machine.joinedBy] at found foundThere
      rw [here] at found
      rw [there] at foundThere
      rw [Option.some.inj (found.symm.trans foundThere)]

end Extending

/-- The host may bind any name to any value: a program that does not ask for it, and loads no module
that does, prints, logs and ends as without it.  The cells of the value are in the store before. -/
theorem runExtended_conservative (settings : Settings) (entropy : Int) {source : String}
    {file : Option String} {disk : Disk} {depthLimit : Nat} (clock : Float) {name : String}
    (value : Value) (arrays : Array (Array Value)) (closures : Array Closure)
    (objects : Array HostObject) (absent : Unasked name (stackRoom depthLimit) source file)
    (modules : ∀ path ∈ (endState (runExtended (fun _ => pure ()) settings entropy source file
      (.unused disk depthLimit clock))).consulted, ∀ text, disk.readText path = .ok text →
        ∀ room, Unasked name room text (some path)) :
    SameOutcome
      (runExtended (fun _ => pure ()) settings entropy source file (.unused disk depthLimit clock))
      (runExtended (fun scope => Machine.define scope name value) settings entropy source file
        ((Machine.unused disk depthLimit clock).holding arrays closures objects)) := by
  have free : ∀ path ∈ (endState (runExtended (fun _ => pure ()) settings entropy source file
      (.unused disk depthLimit clock))).consulted,
      (Translation.extending name arrays closures objects).FreeModule disk path :=
    fun path found text room program read parsed =>
      extending_free (modules path found text read room program parsed)
  have start : (Translation.extending name arrays closures objects).Machines
      (.unused disk depthLimit clock)
      ((Machine.unused disk depthLimit clock).holding arrays closures objects) :=
    extending_unused disk depthLimit clock
  have level : (Translation.extending name arrays closures objects).Depths 0
      (.unused disk depthLimit clock)
      ((Machine.unused disk depthLimit clock).holding arrays closures objects) :=
    extending_depths fun _ _ _ found => nomatch found
  have opened := (openEnvironment_mirrored settings entropy).paired _ _ start level
  rw [runExtended_run] at free ⊢
  rw [runExtended_run]
  cases run : openEnvironment settings entropy (.unused disk depthLimit clock) with
  | error fault middle =>
      rw [run] at opened free
      have opened := opened free
      generalize openEnvironment settings entropy _ = there at opened ⊢
      cases opened with
      | error alike reached =>
          exact .error alike reached.1.store.output reached.1.store.journal
  | ok scope middle =>
      rw [run] at opened free
      have grows : Grows (runSource settings.moduleRoot scope source file) :=
        .of_follows (runSource_follows CodeKind.any settings.moduleRoot scope source file)
      have opened := opened fun path found => free path (grows middle found)
      generalize openEnvironment settings entropy _ = there at opened ⊢
      cases opened with
      | @ok _ scopeThere _ middleThere result reached =>
          obtain rfl : scope = scopeThere := result.symm
          obtain ⟨machines, here, restored⟩ := reached
          have none : middle.runners = #[] :=
            Array.map_eq_empty_iff.mp (here.runners.trans Array.map_empty)
          have noneThere : middleThere.runners = #[] :=
            Array.map_eq_empty_iff.mp (restored.runners.trans Array.map_empty)
          have limit : middle.depthLimit = depthLimit := here.depthLimit
          have sameDisk : middle.disk = disk := here.disk
          have extended := machines.defineHidden (beq_self_eq_true name) scope value
          exact runSource_extending extended none noneThere (limit.symm ▸ absent)
            (sameDisk.symm ▸ free)

/-- A program that greets does not see that the host has bound a list. -/
theorem runExtended_conservative_greeting :
    let source := "fn greet(who) \x7b print('hello', who) \x7d greet('world'); greet"
    let machine : Machine := .unused ((FileTree.directory []).disk "/") 1 0.0
    let plain := runExtended (fun _ => pure ()) {} 0 source none machine
    let extended := runExtended (fun scope => Machine.define scope "guests" (.array 0)) {} 0 source
      none (machine.holding #[#[.text "you"]] #[] #[])
    SameOutcome plain extended ∧ (endState plain).store.output = "hello world\n" := by
  intro source machine plain extended
  have quiet : (endState plain).consulted = [] := by decide +kernel
  have absent : Unasked "guests" (stackRoom 1) source none := by decide +kernel
  refine ⟨runExtended_conservative {} 0 0.0 (.array 0) #[#[.text "you"]] #[] #[] absent ?_, ?_⟩
  · intro path found
    rw [quiet] at found
    cases found
  · decide +kernel

end Scriptlet
