import Scriptlet.Proofs.Mirror.Evaluator
import Scriptlet.Proofs.Session.Course

/-!
# Mirrored sessions

Programs run in the same way on mirrored machines, and the builtins that a root scope starts with
mirror each other.
-/

namespace Scriptlet

variable {M : Translation}

/-! ## Builtins -/

/-- Operations that name no cells and no runners are the same in both runs. -/
def Naming.Fixes (M : Naming) (functions : List (String × Action)) : Prop :=
  ∀ function ∈ functions, M.action function.2 = function.2 ∧ function.2.moduleBodies = []

theorem addFunctions_reflects {functions : List (String × Action)} (fixed : M.Fixes functions) :
    Reflects M (Images (Assoc.mapValues M.data)) (Builtin.addFunctions functions)
      (Builtin.addFunctions functions) := by
  induction functions with
  | nil => exact .pure rfl
  | cons function rest ih =>
      obtain ⟨name, action⟩ := function
      obtain ⟨same, plain⟩ := fixed (name, action) List.mem_cons_self
      have added : Reflects M (Images M.objects) (Store.addObject (.function name action))
          (Store.addObject (M.object (.function name action))) := addObject_reflects plain
      rw [Naming.object, same] at added
      refine .bind added fun id => ?_
      refine .bind (ih fun other found => fixed other (List.mem_cons_of_mem _ found)) fun _ => ?_
      exact .pure rfl

theorem mathFunctions_fixed : M.Fixes Builtin.mathFunctions := by
  intro function found
  refine ⟨?_, mathFunctions_plain function found⟩
  simp only [Builtin.mathFunctions, List.mem_append, List.mem_map, List.mem_cons] at found
  rcases found with ⟨operation, -, rfl⟩ | rfl | rfl | rfl | found
  · rfl
  · rfl
  · rfl
  · rfl
  · cases found

theorem taskFunctions_fixed : M.Fixes Builtin.taskFunctions := by
  intro function found
  refine ⟨?_, taskFunctions_plain function found⟩
  simp only [Builtin.taskFunctions, List.mem_cons] at found
  rcases found with rfl | rfl | rfl | rfl | rfl | found
  · rfl
  · rfl
  · rfl
  · rfl
  · rfl
  · cases found

theorem make_reflects (seed : Int) (builtin : Builtin) :
    Reflects M (Images M.objects) (builtin.make seed) (builtin.make seed) := by
  cases builtin with
  | math =>
      refine .bind (.modify (fun _ => rfl) fun _ _ stores => { stores with random := rfl })
        fun _ => ?_
      exact .bind (addFunctions_reflects mathFunctions_fixed) fun _ => addObject_reflects rfl
  | date | json =>
      refine .bind (addFunctions_reflects ?_) fun _ => addObject_reflects rfl
      simp [Naming.Fixes, Naming.action, Naming.native, Action.moduleBodies]
  | print | log => exact addNative_reflects _ _
  | task =>
      refine .bind (.modify (fun _ => rfl) fun _ _ stores => { stores with schedule := ?_ })
        fun _ => ?_
      · exact ⟨⟨rfl, fun _ => .none⟩, rfl, rfl, rfl, rfl⟩
      · exact .bind (addFunctions_reflects taskFunctions_fixed) fun _ => addObject_reflects rfl

theorem install_mirrored {room : Nat} (scope : ScopeId) (seed : Int) (builtins : List Builtin) :
    Mirrored M room (Images id) (Builtin.install scope seed builtins)
      (Builtin.install scope seed builtins) := by
  induction builtins with
  | nil => exact .pure rfl
  | cons builtin rest ih =>
      refine .bind (.onStore (make_reflects seed builtin)) fun id => ?_
      exact .bind (define_mirrored scope builtin.name (.host id)) fun _ => ih

theorem openRoot_mirrored {room : Nat} (name : String) :
    Mirrored M room (Images id) (Machine.openRoot name) (Machine.openRoot name) where
  grows machine := { Machine.Grown.refl machine with }
  ended machine other machines _ _ := by
    have size : other.scopes.size = machine.scopes.size := by
      rw [machines.scopes.size, Nat.zero_add]
    exact .ok size ⟨{ machines with scopes := Aligned.push machines.scopes ⟨rfl, rfl, rfl⟩ },
      ⟨rfl, rfl, rfl⟩, ⟨rfl, rfl, rfl⟩⟩

theorem openEnvironment_mirrored {room : Nat} (settings : Settings) (entropy : Int) :
    Mirrored M room (Images id) (openEnvironment settings entropy)
      (openEnvironment settings entropy) :=
  .bind (openRoot_mirrored "global") fun scope =>
    .bind (install_mirrored scope _ settings.builtins) fun _ => .pure rfl

/-! ## Programs -/

/-- The statements of a program, with the errors that the end of the stack causes. -/
def programSteps (context : Context) (room : Nat) (body : List Stmt) : MachineM Completion :=
  guarded (sequence (execute context room) body .absent)

theorem runProgram_run (runner : RunnerId) (unit : UnitId) (scope : ScopeId) (program : Program)
    (machine : Machine) :
    runProgram runner unit scope program machine =
      match programSteps ⟨runner, unit, scope⟩ (stackRoom machine.depthLimit) program.body
          machine with
      | .ok completion after => .ok completion.value after
      | .error fault after => .error fault after := by
  have looked : runProgram runner unit scope program machine =
      EStateM.bind
        (programSteps ⟨runner, unit, scope⟩ (stackRoom machine.depthLimit) program.body)
        (fun completion => pure completion.value) machine := rfl
  rw [looked]
  unfold EStateM.bind
  cases programSteps ⟨runner, unit, scope⟩ (stackRoom machine.depthLimit) program.body machine <;>
    rfl

theorem programSteps_mirrored (context : Context) (room : Nat) {body : List Stmt}
    (free : M.Free (bodyNames body)) :
    Mirrored M room (Images M.completion) (programSteps context room body)
      (programSteps (M.context context) room body) :=
  guarded_mirrored (body_mirrored (roomMirrored M room (Nat.le_refl room)) context free)

/-- A program that asks for no hidden name ends in the same way on mirrored machines, if the limit
on the depth of calls makes no difference. -/
theorem runProgram_paired [M.Plain] {machine other : Machine}
    (machines : M.Machines machine other)
    (depths : M.Depths (stackRoom machine.depthLimit) machine other) {runner : RunnerId}
    {unit : UnitId} {scope : ScopeId} {program : Program} (free : M.Free (bodyNames program.body))
    (safe : ∀ path ∈ (endState (runProgram runner unit scope program machine)).consulted,
      M.FreeModule machine.disk path) :
    Paired (M.Reached machine other) (Images M.value) (runProgram runner unit scope program machine)
      (runProgram (M.runner runner) (M.unit unit) scope program other) := by
  have ended := (programSteps_mirrored ⟨runner, unit, scope⟩ _ free).paired machine other machines
    depths
  rw [runProgram_run] at safe ⊢
  rw [runProgram_run, machines.depthLimit]
  generalize programSteps ⟨runner, unit, scope⟩ _ _ machine = run at ended safe ⊢
  have ended := ended fun path found => safe path (by cases run <;> exact found)
  change Paired _ _ _ (programSteps ⟨M.runner runner, M.unit unit, scope⟩ _ _ other) at ended
  generalize programSteps ⟨M.runner runner, M.unit unit, scope⟩ _ _ other = runThere at ended ⊢
  rcases ended with ⟨rfl, reached⟩ | ⟨alike, reached⟩
  · exact .ok (M.completion_value _) reached
  · exact .error alike reached

/-! ## Texts -/

/-- A machine with a further runner. -/
def Machine.joinedBy (machine : Machine) (next : Runner) : Machine :=
  { machine with runners := machine.runners.push next }

/-- The fault that is reported when a text cannot be read. -/
def reportedFault (limit : Nat) : Fault → Fault
  | .exhausted => .ofCause (.tooDeep limit)
  | fault => fault

theorem readProgram_run (source : String) (file : Option String) (machine : Machine) :
    readProgram source file machine =
      match Program.ofSource (stackRoom machine.depthLimit) source file with
      | .error fault => .error (reportedFault machine.depthLimit fault) machine
      | .ok program => .ok program machine := by
  have looked : readProgram source file machine =
      guarded (ofExcept (Program.ofSource (stackRoom machine.depthLimit) source file)) machine :=
        rfl
  rw [looked]
  cases Program.ofSource (stackRoom machine.depthLimit) source file with
  | ok program => rfl
  | error fault => cases fault <;> rfl

theorem runSource_run (moduleRoot : Option String) (scope : ScopeId) (source : String)
    (file : Option String) (machine : Machine) :
    runSource moduleRoot scope source file machine =
      let started := machine.joinedBy
        { source := source, file := file, moduleRoot := moduleRoot, globals := scope }
      match Program.ofSource (stackRoom machine.depthLimit) source file with
      | .error fault => .error (reportedFault machine.depthLimit fault) started
      | .ok program =>
          runProgram machine.runners.size machine.units scope program
            { started with units := machine.units + 1 } := by
  have started : runSource moduleRoot scope source file machine =
      EStateM.bind (readProgram source file)
        (fun program => do runProgram machine.runners.size (← Machine.addUnit) scope program)
        (machine.joinedBy
          { source := source, file := file, moduleRoot := moduleRoot, globals := scope }) := rfl
  rw [started]
  unfold EStateM.bind
  rw [readProgram_run]
  dsimp only [Machine.joinedBy]
  cases Program.ofSource (stackRoom machine.depthLimit) source file <;> rfl

end Scriptlet
