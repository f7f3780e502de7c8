import Scriptlet.Proofs.Evaluator.Completion
import Scriptlet.Proofs.Machine.Loading
import Scriptlet.Proofs.Mirror.Closed

/-!
# Handles of modules

Loading a module reads its file, makes a unit for the program, and gives a handle, which runs the
program as code of that unit.  A handle stays one, whatever runs after it was given.
-/

namespace Scriptlet

/-! ## Giving handles -/

/-- The machine in which a runner has loaded a module and has been given a handle, which runs a body
as a unit. -/
def Machine.handing (machine : Machine) (runner : RunnerId) (path source : String)
    (body : List Stmt) (unit : UnitId) : Machine :=
  let file := machine.moduleFile runner path
  let loaded := (machine.consulting path file).reading runner file source
  let run : HostObject := .function "run" (.control (.runModule body unit runner))
  { loaded with store :=
    { loaded.store with
      objects := (machine.store.objects.push run).push (.loaded path machine.store.objects.size) } }

section Handing

variable (machine : Machine) (runner : RunnerId) (path source : String) (body : List Stmt)
  (unit : UnitId)

theorem Machine.restores_handing :
    machine.Restores (machine.handing runner path source body unit) :=
  ⟨Runner.map_bare_modify _ _ (Runner.bare_reading _ source), rfl, rfl⟩

theorem Machine.size_handing :
    (machine.handing runner path source body unit).store.objects.size =
      machine.store.objects.size + 2 := by
  unfold handing
  dsimp only
  rw [Array.size_push, Array.size_push]

theorem Machine.handing_run :
    (machine.handing runner path source body unit).store.objects[machine.store.objects.size]? =
      some (.function "run" (.control (.runModule body unit runner))) := by
  unfold handing
  dsimp only
  rw [Array.getElem?_push, Array.size_push, if_neg (Nat.ne_of_lt (Nat.lt_succ_self _)),
    Array.getElem?_push, if_pos rfl]

theorem Machine.handing_handle :
    (machine.handing runner path source body unit).store.objects[machine.store.objects.size + 1]? =
      some (.loaded path machine.store.objects.size) := by
  unfold handing
  dsimp only
  rw [Array.getElem?_push, if_pos (Array.size_push _).symm]

theorem Machine.handing_earlier {id : ObjectId} {object : HostObject}
    (found : machine.store.objects[id]? = some object) :
    (machine.handing runner path source body unit).store.objects[id]? = some object := by
  have earlier := (Array.getElem?_eq_some_iff.mp found).1
  unfold handing
  dsimp only
  rw [Array.getElem?_push, Array.size_push, if_neg (Nat.ne_of_lt (Nat.lt_succ_of_lt earlier)),
    Array.getElem?_push, if_neg (Nat.ne_of_lt earlier), found]

end Handing

/-- A runner gets a handle for the module at a path. -/
def Machine.Hands (machine : Machine) (runner : RunnerId) (path : String) (handle : Value)
    (after : Machine) : Prop :=
  ∃ source room program, machine.disk.readText (machine.moduleFile runner path) = .ok source ∧
    Program.ofSource room source (some (machine.moduleFile runner path)) = .ok program ∧
    handle = .host (machine.store.objects.size + 1) ∧
    after = machine.handing runner path source program.body machine.units

section Loads

variable {machine after : Machine} {context : Context} {room : Nat} {span at' : Span}
  {path : String} {value : Value}

theorem evaluate_text (context : Context) (room : Nat) (span : Span) (text : String)
    (machine : Machine) :
    evaluate context (room + 5) (.text span text) machine = .ok (.text text) machine := by
  rw [evaluate, locating, mapFault_ok_iff]
  rfl

theorem evaluate_text_ok {text : String}
    (evaluates : evaluate context room (.text span text) machine = .ok value after) :
    value = .text text ∧ after = machine := by
  match room with
  | 0 | 1 | 2 | 3 | 4 => cases evaluates
  | room + 5 =>
      cases (evaluate_text context room span text machine).symm.trans evaluates
      exact ⟨rfl, rfl⟩

theorem loadModule_ok {program : Program} {unit : UnitId}
    (loads : loadModule room context.runner path machine = .ok (program, unit) after) :
    ∃ source, machine.disk.readText (machine.moduleFile context.runner path) = .ok source ∧
      Program.ofSource room source (some (machine.moduleFile context.runner path)) = .ok program ∧
      unit = machine.units ∧
      after = (machine.consulting path (machine.moduleFile context.runner path)).reading
        context.runner (machine.moduleFile context.runner path) source := by
  rw [loadModule_run] at loads
  split at loads
  · cases loads
  dsimp only at loads
  split at loads
  · cases loads
  · rename_i source read
    split at loads
    · cases loads
    · rename_i found parsed
      cases loads
      exact ⟨source, read, parsed, rfl, rfl⟩

/-- What comes of loading a module. -/
theorem evaluate_load_ok {place : Expr}
    (loads : evaluate context (room + 5) (.load span place) machine = .ok value after) :
    ∃ path ready, evaluate context (room + 2) place machine = .ok (.text path) ready ∧
      ready.Hands context.runner path value after := by
  rw [evaluate, locating, mapFault_ok_iff] at loads
  obtain ⟨given, ready, evaluates, checks⟩ := bind_ok loads
  obtain ⟨path, middle, checked, reads⟩ := bind_ok checks
  cases given with
  | text given =>
      cases checked
      obtain ⟨⟨program, unit⟩, loaded, run, handed⟩ := bind_ok reads
      obtain ⟨source, read, parsed, rfl, rfl⟩ := loadModule_ok run
      cases handed
      exact ⟨path, ready, evaluates, source, _, program, read, parsed,
        congrArg Value.host (Array.size_push _), rfl⟩
  | _ => cases checked

/-- What comes of loading the module at a path that is written out. -/
theorem evaluate_load_text_ok
    (loads : evaluate context room (.load span (.text at' path)) machine = .ok value after) :
    machine.Hands context.runner path value after := by
  match room with
  | 0 | 1 | 2 | 3 | 4 => cases loads
  | room + 5 =>
      obtain ⟨path, ready, evaluates, hands⟩ := evaluate_load_ok loads
      obtain ⟨⟨⟩, rfl⟩ := evaluate_text_ok evaluates
      exact hands

end Loads

/-! ## Having handles -/

/-- A runner was given a handle for the module at a path.  The handle runs, as a unit of its own,
the program that the file of the module has. -/
def Machine.HasLoaded (machine : Machine) (runner : RunnerId) (path : String) (unit : UnitId)
    (handle : ObjectId) : Prop :=
  let file := machine.moduleFile runner path
  ∃ source room program run, machine.disk.readText file = .ok source ∧
    Program.ofSource room source (some file) = .ok program ∧
    machine.store.objects[run]? =
      some (.function "run" (.control (.runModule program.body unit runner))) ∧
    machine.store.objects[handle]? = some (.loaded path run)

theorem Machine.Restores.moduleFile {before after : Machine} (restores : before.Restores after)
    (runner : RunnerId) (path : String) :
    after.moduleFile runner path = before.moduleFile runner path := by
  have root : after.moduleRoot? runner = before.moduleRoot? runner := by
    change (after.runner? runner).bind Runner.moduleRoot =
      (before.runner? runner).bind Runner.moduleRoot
    have same := congrArg (·[runner]?) restores.runners
    rw [Array.getElem?_map, Array.getElem?_map] at same
    have roots := congrArg (Option.bind · Runner.moduleRoot) same
    rwa [Option.bind_map, Option.bind_map] at roots
  unfold Machine.moduleFile
  rw [root, restores.disk]

/-- Who gets a handle has one. -/
theorem Machine.Hands.hasLoaded {machine after : Machine} {runner : RunnerId} {path : String}
    {value : Value} (hands : machine.Hands runner path value after) :
    ∃ handle, value = .host handle ∧ after.HasLoaded runner path machine.units handle := by
  obtain ⟨source, room, program, read, parsed, rfl, rfl⟩ := hands
  refine ⟨_, rfl, ?_⟩
  unfold HasLoaded
  rw [(machine.restores_handing ..).moduleFile]
  exact ⟨source, room, program, machine.store.objects.size, read, parsed,
    machine.handing_run .., machine.handing_handle ..⟩

theorem Machine.Course.disk {kind : List Stmt → Prop} {scope : ScopeId} {before after : Machine}
    (course : before.Course kind scope after) : after.disk = before.disk := by
  induction course with
  | trans _ _ first second => exact second.trans first
  | inside _ _ _ inner => exact inner
  | _ => rfl

/-- A handle for a module stays one, as long as the runner finds the module in the same file. -/
theorem Machine.HasLoaded.kept {before after : Machine} {runner : RunnerId} {path : String}
    {unit : UnitId} {handle : ObjectId} (loaded : before.HasLoaded runner path unit handle)
    {kind : List Stmt → Prop} {scope : ScopeId} (course : before.Course kind scope after)
    (file : after.moduleFile runner path = before.moduleFile runner path) :
    after.HasLoaded runner path unit handle := by
  obtain ⟨source, room, program, run, read, parsed, runs, handles⟩ := loaded
  unfold HasLoaded
  rw [file, course.disk]
  exact ⟨source, room, program, run, read, parsed, course.objectAt (fun _ _ => rfl) runs,
    course.objectAt (fun _ _ => rfl) handles⟩

/-! ## Handles that were obtained -/

/-- A value is what loading the module at a path came to, at some time before: code of the module
counts to a unit, and the runner still finds the module in the same file. -/
inductive Machine.Obtained (path : String) (handle : Value) : RunnerId → UnitId → Machine → Prop
  | load {before ready after : Machine} {context : Context} {room : Nat} {span : Span}
      {place : Expr} (evaluates : evaluate context (room + 2) place before = .ok (.text path) ready)
      (loads : evaluate context (room + 5) (.load span place) before = .ok handle after) :
      Obtained path handle context.runner ready.units after
  | later {before after : Machine} {runner : RunnerId} {unit : UnitId} {kind : List Stmt → Prop}
      {scope : ScopeId} (obtained : Obtained path handle runner unit before)
      (course : before.Course kind scope after)
      (file : after.moduleFile runner path = before.moduleFile runner path) :
      Obtained path handle runner unit after

namespace Machine.Obtained

variable {machine : Machine} {path : String} {handle : Value} {runner : RunnerId} {unit : UnitId}

/-- A value that was obtained by loading a module is a handle for it. -/
theorem hasLoaded (obtained : Obtained path handle runner unit machine) :
    ∃ id, handle = .host id ∧ machine.HasLoaded runner path unit id := by
  induction obtained with
  | load evaluates loads =>
      obtain ⟨path, ready, reads, hands⟩ := evaluate_load_ok loads
      cases evaluates.symm.trans reads
      exact hands.hasLoaded
  | later _ course file ih =>
      obtain ⟨id, named, loaded⟩ := ih
      exact ⟨id, named, loaded.kept course file⟩

/-- Whatever is evaluated, a handle stays one. -/
theorem evaluate (obtained : Obtained path handle runner unit machine) (closed : machine.Closed)
    {context : Context} (known : context.unit < machine.units) (room : Nat) (expression : Expr) :
    Obtained path handle runner unit (endState (evaluate context room expression machine)) :=
  obtained.later
    ((roomFollows CodeKind.any room).evaluate context trivial machine fun _ _ => trivial)
    ((closed.evaluate known room expression).2.moduleFile runner path)

end Machine.Obtained

end Scriptlet
