import Scriptlet.Proofs.Evaluator.Course
import Scriptlet.Session

/-!
# Courses of sessions

What is done to a machine from outside also takes it along a course: making a scope with builtins,
running a text, calling a function and releasing the scope.
-/

namespace Scriptlet

variable {kind : List Stmt → Prop}

/-! ## Builtins -/

theorem addFunctions_alters (functions : List (String × Action))
    (plain : ∀ function ∈ functions, function.2.moduleBodies = []) :
    Alters (Builtin.addFunctions functions) := by
  induction functions with
  | nil => exact .pure []
  | cons function rest ih =>
      refine .bind (addObject_alters (plain function (List.mem_cons_self ..))) fun _ => ?_
      exact .bind (ih fun other found => plain other (List.mem_cons_of_mem _ found)) fun _ =>
        .pure _

theorem mathFunctions_plain : ∀ function ∈ Builtin.mathFunctions, function.2.moduleBodies = [] := by
  rintro ⟨name, action⟩ found
  simp only [Builtin.mathFunctions, List.mem_append, List.mem_map, List.mem_cons] at found
  rcases found with ⟨function, -, same⟩ | same | same | same | same <;> cases same <;> rfl

theorem taskFunctions_plain : ∀ function ∈ Builtin.taskFunctions, function.2.moduleBodies = [] := by
  simp [Builtin.taskFunctions, Action.moduleBodies]

/-- No builtin runs a module. -/
theorem make_alters (seed : Int) (builtin : Builtin) : Alters (builtin.make seed) := by
  cases builtin with
  | math =>
      refine .bind (.modify fun store => .random store _) fun _ => ?_
      exact .bind (addFunctions_alters _ mathFunctions_plain) fun _ => addObject_alters rfl
  | date | json =>
      refine .bind (addFunctions_alters _ ?_) fun _ => addObject_alters rfl
      simp [Action.moduleBodies]
  | print | log => exact addNative_alters _ _
  | task =>
      refine .bind (.modify fun store => .schedule store _) fun _ => ?_
      exact .bind (addFunctions_alters _ taskFunctions_plain) fun _ => addObject_alters rfl

theorem install_follows (scope : ScopeId) (seed : Int) (builtins : List Builtin)
    (machine : Machine) : Follows kind scope (Builtin.install scope seed builtins) machine := by
  induction builtins generalizing machine with
  | nil => exact .pure
  | cons builtin rest ih =>
      refine .bind (.onStore (make_alters seed builtin)) fun id made _ => ?_
      refine .bind (.modify (.define scope made builtin.name (.host id))) fun _ bound _ => ?_
      exact ih bound

theorem openEnvironment_follows (scope : ScopeId) (settings : Settings) (entropy : Int)
    (machine : Machine) : Follows kind scope (openEnvironment settings entropy) machine :=
  .insideRoot (.bind (install_follows _ _ _ _) fun _ _ _ => .pure)

theorem closeSchedule_alters : Alters closeSchedule :=
  .looking fun _ => .choosing
    (.bind (changeSchedule_alters _) fun _ => note_alters _ _ _) (.pure _)

theorem releaseEnvironment_follows (scope released : ScopeId) (machine : Machine) :
    Follows kind scope (releaseEnvironment released) machine := by
  refine .looking ?_
  dsimp only
  split
  · exact .choosing (.onStore closeSchedule_alters) .pure
  · exact .pure

/-! ## Runs -/

section Runs

variable (code : CodeKind)

theorem runProgram_follows (runner : RunnerId) (unit : UnitId) (scope : ScopeId)
    {program : Program} (allowed : code.body program.body) (machine : Machine) :
    Follows code.body scope (runProgram runner unit scope program) machine := by
  refine .looking (.bind (guarded_follows ?_) fun _ _ _ => .pure)
  exact body_follows (roomFollows code _) ⟨runner, unit, scope⟩ allowed machine

/-- What is read is a program of the kind of all code. -/
theorem readProgram_read {source : String} {file : Option String} {program : Program}
    {before after : Machine} (run : readProgram source file before = .ok program after) :
    code.body program.body := by
  obtain ⟨_, _, -, run⟩ := bind_ok run
  exact code.program (ofExcept_ok (mapFault_ok_iff.mp run))

theorem runSource_follows (moduleRoot : Option String) (scope : ScopeId) (source : String)
    (file : Option String) (machine : Machine) :
    Follows code.body scope (runSource moduleRoot scope source file) machine := by
  refine .bind (fun _ => .newRunner scope machine _) fun runner added _ => ?_
  refine .bind (.looking (guarded_follows .ofExcept)) fun program read run => ?_
  refine .bind (fun _ => .unit scope read) fun unit counted _ => ?_
  exact runProgram_follows code runner unit scope (readProgram_read code run) counted

theorem callFromHost_follows (scope : ScopeId) (callee : Value) (arguments : List Value)
    (machine : Machine) : Follows code.body scope (callFromHost callee arguments) machine := by
  refine .assuming fun satisfied => .looking ?_
  cases callee with
  | closure id =>
      refine .bind ((roomFollows code _).callBack scope id arguments machine) fun _ _ _ => ?_
      refine .bind .asking fun data _ _ => ?_
      exact .bind (.onStore (wrap_alters data)) fun _ _ _ => .pure
  | host id =>
      dsimp only
      split
      · rename_i found
        refine .bind ((roomFollows code _).perform scope (action_allowed satisfied found) arguments
          machine) fun _ _ _ => .pure
      · exact .pure
  | _ => exact .pure

end Runs

end Scriptlet
