import Mathlib.Logic.Function.Defs
import Scriptlet.Proofs.Mirror.Library
import Scriptlet.Proofs.Evaluator.Course

/-!
# Mirrored machines

Two machines mirror each other when their stores do, their scopes bind the names that are not hidden
to mirrored values, and their runners load modules from the same place and run in the same scope.
Steps that are mirrored take such machines to such machines, as long as the modules that they load
ask for no hidden name.
-/

namespace Scriptlet

namespace Naming

variable (M : Naming)

/-! ## Scopes -/

/-- The bindings of names that are not hidden. -/
def visible (bindings : Assoc Value) : Assoc Value :=
  bindings.filter fun entry => !M.hidden entry.1

/-- Bindings in two runs. -/
def Bindings (left right : Assoc Value) : Prop :=
  M.visible right = (M.visible left).mapValues M.value

/-- A scope in two runs. -/
structure Scope (left right : Scope) : Prop where
  name : right.name = left.name
  parent : right.parent = left.parent
  bindings : M.Bindings left.bindings right.bindings

/-- The scopes of two runs. -/
abbrev Scopes (left right : Scopes) : Prop :=
  Aligned 0 M.Scope left right

variable {M}

theorem get?_visible {name : String} (seen : M.hidden name = false) (bindings : Assoc Value) :
    (M.visible bindings).get? name = bindings.get? name := by
  induction bindings with
  | nil => rfl
  | cons entry rest ih =>
      unfold visible at ih ⊢
      obtain ⟨key, value⟩ := entry
      rw [List.filter_cons]
      by_cases here : key = name
      · subst here
        simp [seen, Assoc.get?_cons]
      · rw [Assoc.get?_cons, if_neg here, ← ih]
        split
        · rw [Assoc.get?_cons, if_neg here]
        · rfl

theorem visible_put (bindings : Assoc Value) (name : String) (value : Value) :
    M.visible (bindings.put name value) =
      if M.hidden name then M.visible bindings else (M.visible bindings).put name value := by
  induction bindings with
  | nil => cases hides : M.hidden name <;> simp [visible, Assoc.put, hides]
  | cons entry rest ih =>
      obtain ⟨key, old⟩ := entry
      unfold visible at ih ⊢
      by_cases here : key = name
      · subst here
        cases hides : M.hidden key <;> simp [Assoc.put, hides]
      · cases hidesKey : M.hidden key <;> cases hides : M.hidden name <;>
          simp_all [Assoc.put]

namespace Bindings

variable {left right : Assoc Value}

theorem get? (alike : M.Bindings left right) {name : String} (seen : M.hidden name = false) :
    right.get? name = (left.get? name).map M.value := by
  rw [← get?_visible seen right, alike, Assoc.get?_mapValues, get?_visible seen]

theorem put (alike : M.Bindings left right) (name : String) (value : Value) :
    M.Bindings (left.put name value) (right.put name (M.value value)) := by
  unfold Bindings
  rw [visible_put, visible_put, alike]
  split
  · rfl
  · exact (Assoc.mapValues_put M.value _ name value).symm

/-- The first bindings of a call. -/
theorem arguments (params : List String) (arguments : List Value)
    (alike : M.Bindings left right) :
    M.Bindings (bindArguments params arguments left)
      (bindArguments params (arguments.map M.value) right) := by
  induction params generalizing arguments left right with
  | nil => exact alike
  | cons param rest ih =>
      unfold bindArguments
      rw [M.headD_values, ← List.map_drop]
      exact ih _ (alike.put param _)

end Bindings

namespace Scopes

variable {left right : Scriptlet.Scopes} (scopes : M.Scopes left right)

include scopes

theorem scopeAt (id : ScopeId) : Option.Rel M.Scope left[id]? right[id]? := by
  simpa using scopes.items id

theorem scopeAt_cases (id : ScopeId) :
    left[id]? = none ∧ right[id]? = none ∨
      ∃ scope there, left[id]? = some scope ∧ right[id]? = some there ∧ M.Scope scope there := by
  have related := scopes.scopeAt id
  generalize left[id]? = here at related ⊢
  generalize right[id]? = across at related ⊢
  cases related with
  | none => exact .inl ⟨rfl, rfl⟩
  | some alike => exact .inr ⟨_, _, rfl, rfl, alike⟩

theorem lookup? {name : String} (seen : M.hidden name = false) (id : ScopeId) :
    right.lookup? name id = (left.lookup? name id).map M.value := by
  unfold Scriptlet.Scopes.lookup?
  generalize id + 1 = bound
  induction bound generalizing id with
  | zero => rfl
  | succ bound ih =>
      unfold Scriptlet.Scopes.lookupWithin
      rcases scopes.scopeAt_cases id with ⟨here, across⟩ | ⟨scope, there, here, across, alike⟩
      · rw [here, across]
        rfl
      · rw [here, across]
        dsimp only
        rw [alike.bindings.get? seen, alike.parent]
        cases scope.bindings.get? name with
        | some value => rfl
        | none =>
            cases scope.parent with
            | none => rfl
            | some parent => exact ih parent

theorem binder? {name : String} (seen : M.hidden name = false) (id : ScopeId) :
    right.binder? name id = left.binder? name id := by
  unfold Scriptlet.Scopes.binder?
  generalize id + 1 = bound
  induction bound generalizing id with
  | zero => rfl
  | succ bound ih =>
      unfold Scriptlet.Scopes.binderWithin
      rcases scopes.scopeAt_cases id with ⟨here, across⟩ | ⟨scope, there, here, across, alike⟩
      · rw [here, across]
      · rw [here, across]
        dsimp only
        have has : there.bindings.has name = scope.bindings.has name := by
          unfold Assoc.has
          rw [alike.bindings.get? seen]
          cases scope.bindings.get? name <;> rfl
        rw [has, alike.parent]
        split
        · rfl
        · cases scope.parent with
          | none => rfl
          | some parent => exact ih parent

theorem root (id : ScopeId) : right.root id = left.root id := by
  have chain (bound : Nat) (id : ScopeId) :
      right.chainWithin bound id = left.chainWithin bound id := by
    induction bound generalizing id with
    | zero => rfl
    | succ bound ih =>
        unfold Scriptlet.Scopes.chainWithin
        rcases scopes.scopeAt_cases id with ⟨here, across⟩ | ⟨scope, there, here, across, alike⟩
        · rw [here, across]
          rfl
        · rw [here, across, Option.bind_some, Option.bind_some, alike.parent]
          cases scope.parent with
          | none => rfl
          | some parent => exact congrArg (id :: ·) (ih parent)
  unfold Scriptlet.Scopes.root Scriptlet.Scopes.chain
  rw [chain]

theorem child (name : String) (parent : ScopeId) {bindings there : Assoc Value}
    (alike : M.Bindings bindings there) :
    M.Scopes (left.child name parent bindings) (right.child name parent there) :=
  Aligned.push scopes ⟨rfl, rfl, alike⟩

theorem define (id : ScopeId) (name : String) (value : Value) :
    M.Scopes (left.define id name value) (right.define id name (M.value value)) := by
  unfold Scriptlet.Scopes.define
  have same (scope there : Scriptlet.Scope) (alike : M.Scope scope there) :
      M.Scope { scope with bindings := scope.bindings.put name value }
        { there with bindings := there.bindings.put name (M.value value) } :=
    ⟨alike.name, alike.parent, alike.bindings.put name value⟩
  simpa using Aligned.modify scopes same id

theorem assign (id : ScopeId) {name : String} (seen : M.hidden name = false) (value : Value) :
    M.Scopes (left.assign id name value) (right.assign id name (M.value value)) := by
  unfold Scriptlet.Scopes.assign
  rw [scopes.binder? seen]
  exact scopes.define _ name value

end Scopes

end Naming

/-! ## Machines -/

/-- Two runners load modules from the same place and run in the same scope. -/
structure Runner.Alike (left right : Runner) : Prop where
  moduleRoot : right.moduleRoot = left.moduleRoot
  globals : right.globals = left.globals

namespace Runner.Alike

variable {first second third : Runner}

theorem symm (alike : first.Alike second) : second.Alike first :=
  ⟨alike.moduleRoot.symm, alike.globals.symm⟩

theorem trans (before : first.Alike second) (after : second.Alike third) : first.Alike third :=
  ⟨after.moduleRoot.trans before.moduleRoot, after.globals.trans before.globals⟩

theorem rel_self (runner : Option Runner) : Option.Rel Runner.Alike runner runner := by
  cases runner with
  | none => exact .none
  | some runner => exact .some ⟨rfl, rfl⟩

end Runner.Alike

namespace Translation

variable (M : Translation)

/-- The machines of two runs. -/
structure Machines (left right : Machine) : Prop where
  scopes : M.Scopes left.scopes right.scopes
  runners : ∀ id : RunnerId, Option.Rel Runner.Alike left.runners[id]? right.runners[M.runner id]?
  units : GoesOn M.unitLimit M.unit left.units right.units
  constructed : right.constructed = left.constructed.map M.mark
  depthLimit : right.depthLimit = left.depthLimit
  disk : right.disk = left.disk
  consulted : right.consulted = M.consulted left.consulted
  read : ∀ more, M.consulted (more ++ left.consulted) = more ++ M.consulted left.consulted
  store : M.Stores left.store right.store

variable {M} in
/-- Changes of a runner in both machines that keep the place of its modules and its scope. -/
theorem Machines.changeRunner {left right : Machine} (machines : M.Machines left right)
    (runner : RunnerId) {change other : Runner → Runner}
    (here : ∀ current, Runner.Alike current (change current))
    (there : ∀ current, Runner.Alike current (other current)) (id : RunnerId) :
    Option.Rel Runner.Alike (left.runners.modify runner change)[id]?
      (right.runners.modify (M.runner runner) other)[M.runner id]? := by
  have related := machines.runners id
  rw [Array.getElem?_modify, Array.getElem?_modify]
  generalize left.runners[id]? = found at related
  generalize right.runners[M.runner id]? = foundThere at related
  cases related with
  | none => split <;> split <;> exact .none
  | @some current currentThere alike =>
      split <;> split
      · exact .some ((here current).symm.trans (alike.trans (there currentThere)))
      · exact .some ((here current).symm.trans alike)
      · exact .some (alike.trans (there currentThere))
      · exact .some alike

/-- The module at a path asks for no hidden name. -/
def FreeModule (disk : Disk) (path : String) : Prop :=
  ∀ source room program, disk.readText path = .ok source →
    Program.ofSource room source (some path) = .ok program → M.Free (bodyNames program.body)

end Translation

/-- A runner without the texts of the modules that it has read. -/
def Runner.bare (runner : Runner) : Runner :=
  { runner with sources := [] }

theorem Runner.depth_of_bare {runner other : Runner} (same : runner.bare = other.bare) :
    runner.depth = other.depth := by
  change runner.bare.depth = other.bare.depth
  rw [same]

theorem Runner.alike_of_bare {runner other : Runner} (same : runner.bare = other.bare) :
    runner.Alike other where
  moduleRoot := (congrArg Runner.moduleRoot same.symm :)
  globals := (congrArg Runner.globals same.symm :)

/-- A change of a runner that only concerns the texts that it has read. -/
theorem Runner.map_bare_modify (runners : Array Runner) (id : RunnerId) {change : Runner → Runner}
    (same : ∀ runner, (change runner).bare = runner.bare) :
    (runners.modify id change).map bare = runners.map bare := by
  refine Array.ext_getElem? fun i => ?_
  rw [Array.getElem?_map, Array.getElem?_map, Array.getElem?_modify]
  split
  · rw [Option.map_map, show bare ∘ change = bare from funext same]
  · rfl

/-- The runners are as they were, but for the texts of modules that they have read; the limit on the
depth of calls and the disk are the same. -/
structure Machine.Restores (before after : Machine) : Prop where
  runners : after.runners.map Runner.bare = before.runners.map Runner.bare
  depthLimit : after.depthLimit = before.depthLimit
  disk : after.disk = before.disk

/-- No runner is so deep in calls that as many further calls as there is room for could reach the
limit. -/
def Machine.Ample (room : Nat) (machine : Machine) : Prop :=
  ∀ runner ∈ machine.runners, runner.depth + room < machine.depthLimit

/-- The limit on the depth of calls makes no difference between two machines: either it cannot be
reached in any of them, or their runners are equally deep in calls. -/
inductive Translation.Depths (M : Translation) (room : Nat) (left right : Machine) : Prop
  | ample (here : left.Ample room) (there : right.Ample room)
  | equal (distinct : Function.Injective M.runner)
      (same : ∀ (id : RunnerId) runner other, left.runners[id]? = some runner →
        right.runners[M.runner id]? = some other → other.depth = runner.depth)

namespace Machine.Restores

theorem refl (machine : Machine) : machine.Restores machine :=
  ⟨rfl, rfl, rfl⟩

theorem trans {before middle after : Machine} (first : before.Restores middle)
    (second : middle.Restores after) : before.Restores after :=
  ⟨second.runners.trans first.runners, second.depthLimit.trans first.depthLimit,
    second.disk.trans first.disk⟩

theorem symm {before after : Machine} (restores : before.Restores after) : after.Restores before :=
  ⟨restores.runners.symm, restores.depthLimit.symm, restores.disk.symm⟩

/-- A runner before and after. -/
theorem runnerAt {before after : Machine} (restores : before.Restores after) {id : RunnerId}
    {runner : Runner} (found : after.runners[id]? = some runner) :
    ∃ old, before.runners[id]? = some old ∧ old.bare = runner.bare := by
  have same : (after.runners.map Runner.bare)[id]? = (before.runners.map Runner.bare)[id]? := by
    rw [restores.runners]
  rw [Array.getElem?_map, Array.getElem?_map, found] at same
  cases known : before.runners[id]? with
  | none =>
      rw [known] at same
      cases same
  | some old =>
      rw [known] at same
      exact ⟨old, rfl, (Option.some.inj same).symm⟩

theorem ample {before after : Machine} (restores : before.Restores after) {room : Nat}
    (ample : before.Ample room) : after.Ample room := by
  intro runner found
  obtain ⟨id, found⟩ := Array.mem_iff_getElem?.mp found
  obtain ⟨old, oldFound, same⟩ := restores.runnerAt found
  have below := ample old (Array.mem_of_getElem? oldFound)
  have depth : runner.depth = old.depth := Runner.depth_of_bare same.symm
  rw [restores.depthLimit, depth]
  exact below

end Machine.Restores

/-- Runners that keep their names are equally deep in calls when they are as before. -/
theorem Machine.Restores.depths {M : Translation} (fixed : M.runner = id) {room : Nat}
    {before after : Machine} (restores : before.Restores after) : M.Depths room before after := by
  refine .equal (fixed ▸ Function.injective_id) fun id runner other found foundThere => ?_
  rw [fixed] at foundThere
  obtain ⟨old, oldFound, same⟩ := restores.runnerAt foundThere
  cases oldFound.symm.trans found
  exact Runner.depth_of_bare same.symm

theorem Translation.Depths.restored {M : Translation} {room : Nat}
    {left right after there : Machine}
    (depths : M.Depths room left right) (here : left.Restores after)
    (other : right.Restores there) :
    M.Depths room after there := by
  cases depths with
  | ample ample ampleThere => exact .ample (here.ample ample) (other.ample ampleThere)
  | equal distinct same =>
      refine .equal distinct fun id runner runnerThere found foundThere => ?_
      obtain ⟨old, oldFound, bare⟩ := here.runnerAt found
      obtain ⟨oldThere, oldFoundThere, bareThere⟩ := other.runnerAt foundThere
      rw [← Runner.depth_of_bare bare, ← Runner.depth_of_bare bareThere]
      exact same id old oldThere oldFound oldFoundThere

/-! ## Loading -/

/-- Nothing is taken back: neither paths that were read and marks that were made, nor units and
objects. -/
structure Machine.Grown (before after : Machine) : Prop where
  consulted : before.consulted ⊆ after.consulted
  constructed : before.constructed ⊆ after.constructed
  units : before.units ≤ after.units
  objects : before.store.objects.size ≤ after.store.objects.size

namespace Machine.Grown

theorem refl (machine : Machine) : machine.Grown machine :=
  ⟨List.Subset.refl _, List.Subset.refl _, Nat.le_refl _, Nat.le_refl _⟩

theorem trans {before middle after : Machine} (first : before.Grown middle)
    (second : middle.Grown after) : before.Grown after :=
  ⟨List.Subset.trans first.consulted second.consulted,
    List.Subset.trans first.constructed second.constructed,
    Nat.le_trans first.units second.units, Nat.le_trans first.objects second.objects⟩

/-- What was read before was read after. -/
instance {before after : Machine} :
    CoeFun (before.Grown after) fun _ => before.consulted ⊆ after.consulted :=
  ⟨consulted⟩

end Machine.Grown

/-- Steps that take nothing back. -/
def Grows {α : Type} (steps : MachineM α) : Prop :=
  ∀ machine : Machine, machine.Grown (endState (steps machine))

theorem Machine.Course.grown {kind : List Stmt → Prop} {scope : ScopeId}
    {before after : Machine} (course : before.Course kind scope after) : before.Grown after := by
  induction course with
  | trans _ _ first second => exact first.trans second
  | inside _ _ _ inner => exact ⟨inner.consulted, inner.constructed, inner.units, inner.objects⟩
  | store _ machine change =>
      exact { Machine.Grown.refl machine with
        objects := Store.Changes.objects_size_le (.single change) }
  | newObject _ machine object _ =>
      exact { Machine.Grown.refl machine with
        objects := Nat.le_trans (Nat.le_succ _) (Nat.le_of_eq (Array.size_push object).symm) }
  | unit _ machine => exact { Machine.Grown.refl machine with units := Nat.le_succ _ }
  | constructed _ machine mark =>
      exact { Machine.Grown.refl machine with constructed := List.subset_cons_self mark _ }
  | consulted _ machine path =>
      exact { Machine.Grown.refl machine with consulted := List.subset_cons_self path _ }
  | _ => exact ⟨List.Subset.refl _, List.Subset.refl _, Nat.le_refl _, Nat.le_refl _⟩

theorem Grows.of_follows {α : Type} {steps : MachineM α} {scope : ScopeId}
    (follows : ∀ machine, Follows (fun _ => True) scope steps machine) : Grows steps :=
  fun machine => (follows machine fun _ _ => trivial).grown

theorem Grows.bind {α β : Type} {first : MachineM α} {next : α → MachineM β} (before : Grows first)
    (after : ∀ value, Grows (next value)) : Grows (first >>= next) := by
  intro machine
  have start := before machine
  change machine.Grown (endState (EStateM.bind first next machine))
  unfold EStateM.bind
  cases run : first machine with
  | ok value middle =>
      rw [run] at start
      exact start.trans (after value middle)
  | error fault middle =>
      rw [run] at start
      exact start

theorem Grows.pure {α : Type} {value : α} : Grows (pure value : MachineM α) :=
  Machine.Grown.refl

theorem Grows.throw {α : Type} {fault : Fault} : Grows (throw fault : MachineM α) :=
  Machine.Grown.refl

theorem Grows.onStore {α : Type} {operation : StoreM α} (retains : Retains operation) :
    Grows (Machine.onStore operation) := by
  intro machine
  have kept := retains machine.store
  unfold Machine.onStore
  dsimp only
  cases run : operation machine.store with
  | ok value store =>
      rw [run] at kept
      exact { Machine.Grown.refl machine with objects := kept }
  | error fault store =>
      rw [run] at kept
      exact { Machine.Grown.refl machine with objects := kept }

theorem Grows.choosing {α : Type} {condition : Prop} [Decidable condition]
    {first second : MachineM α} (yes : Grows first) (no : Grows second) :
    Grows (if condition then first else second) := by
  split
  · exact yes
  · exact no

theorem Grows.looking {β : Type} {next : Machine → MachineM β}
    (after : ∀ machine, Grows (next machine)) : Grows (get >>= next) :=
  fun machine => after machine machine

/-! ## Steps of two runs -/

/-- Two machines that two others have come to, with their runners as before. -/
def Translation.Reached (M : Translation) (left right after there : Machine) : Prop :=
  M.Machines after there ∧ left.Restores after ∧ right.Restores there

theorem Paired.reached {M : Translation} {α β : Type} {results : α → β → Prop}
    {left right middle other : Machine} {first : EStateM.Result Fault Machine α}
    {second : EStateM.Result Fault Machine β} (here : left.Restores middle)
    (there : right.Restores other) (ended : Paired (M.Reached middle other) results first second) :
    Paired (M.Reached left right) results first second := by
  rcases ended with ⟨result, mirrored, later, laterThere⟩ | ⟨alike, mirrored, later, laterThere⟩
  · exact .ok result ⟨mirrored, here.trans later, there.trans laterThere⟩
  · exact .error alike ⟨mirrored, here.trans later, there.trans laterThere⟩

/-- Steps that go on in one of two ways, as the first ones end. -/
def Machine.either {α β : Type} (steps : MachineM α) (success : α → MachineM β)
    (failure : Fault → MachineM β) : MachineM β :=
  fun machine => match steps machine with
    | .ok value machine => success value machine
    | .error fault machine => failure fault machine

/-- Nothing that the first run has come to keeps the other run from doing the same: the modules that
it has loaded ask for no hidden name, no two marks that it has made are the same in the other run,
and the limits on units and objects are kept. -/
structure Translation.Safe (M : Translation) (disk : Disk) (after : Machine) : Prop where
  free : ∀ path ∈ after.consulted, M.FreeModule disk path
  distinct : ∀ mark ∈ after.constructed, ∀ other ∈ after.constructed,
    M.mark mark = M.mark other → mark = other
  units : Within M.unitLimit after.units
  objects : Within M.objectLimit after.store.objects.size

theorem Translation.Safe.before {M : Translation} {disk : Disk} {before after : Machine}
    (safe : M.Safe disk after) (grown : before.Grown after) : M.Safe disk before where
  free path found := safe.free path (grown.consulted found)
  distinct mark made other too :=
    safe.distinct mark (grown.constructed made) other (grown.constructed too)
  units := safe.units.mono grown.units
  objects := safe.objects.mono grown.objects

/-- A translation that keeps units apart and knows no limits. -/
class Translation.Plain (M : Translation) : Prop where
  unit : Function.Injective M.unit
  unitLimit : M.unitLimit = none
  objectLimit : M.objectLimit = none

theorem Translation.Safe.of_free {M : Translation} [plain : M.Plain] {disk : Disk} {after : Machine}
    (free : ∀ path ∈ after.consulted, M.FreeModule disk path) : M.Safe disk after where
  free := free
  distinct mark _ other _ same :=
    Prod.ext (plain.unit (congrArg Prod.fst same)) (congrArg Prod.snd same :)
  units := by
    rw [plain.unitLimit]
    exact nofun
  objects := by
    rw [plain.objectLimit]
    exact nofun

/-- From mirrored machines, two runs end in the same way in mirrored machines, if what the first one
comes to is safe. -/
structure Mirrored {α β : Type} (M : Translation) (room : Nat) (results : α → β → Prop)
    (left : MachineM α) (right : MachineM β) : Prop where
  grows : Grows left
  ended : ∀ machine other, M.Machines machine other → M.Depths room machine other →
    M.Safe machine.disk (endState (left machine)) →
    Paired (M.Reached machine other) results (left machine) (right other)

namespace Mirrored

variable {M : Translation} {room : Nat} {α β γ δ : Type} {results : α → β → Prop}
  {outcomes : γ → δ → Prop}

/-- Under a plain translation, only hidden names can make a difference. -/
theorem paired [M.Plain] {left : MachineM α} {right : MachineM β}
    (mirrored : Mirrored M room results left right) (machine other : Machine)
    (machines : M.Machines machine other) (depths : M.Depths room machine other)
    (free : ∀ path ∈ (endState (left machine)).consulted, M.FreeModule machine.disk path) :
    Paired (M.Reached machine other) results (left machine) (right other) :=
  mirrored.ended machine other machines depths (.of_free free)

theorem pure {value : α} {other : β} (same : results value other) :
    Mirrored M room results (pure value) (pure other) where
  grows := .pure
  ended machine there machines _ _ := .ok same ⟨machines, .refl machine, .refl there⟩

theorem fail {fault other : Fault} (alike : fault.Alike other) :
    Mirrored M room results (throw fault : MachineM α) (throw other : MachineM β) where
  grows := .throw
  ended machine there machines _ _ := .error alike ⟨machines, .refl machine, .refl there⟩

theorem throw (fault : Fault) :
    Mirrored M room results (throw fault : MachineM α) (throw fault : MachineM β) :=
  fail (.refl fault)

theorem ofExcept {image : α → β} {answer : Except Fault α} {other : Except Fault β}
    (same : other = answer.map image) :
    Mirrored M room (Images image) (ofExcept answer) (ofExcept other) := by
  subst same
  cases answer with
  | ok value => exact pure rfl
  | error fault => exact throw fault

/-- A check of something that is the same in both runs. -/
theorem checking (answer : Except Fault α) :
    Mirrored M room (Images id) (MonadExcept.ofExcept answer) (MonadExcept.ofExcept answer) := by
  cases answer with
  | ok value => exact pure rfl
  | error fault => exact throw fault

theorem onStore {operation : StoreM α} {other : StoreM β}
    (reflects : Reflects M results operation other) :
    Mirrored M room results (Machine.onStore operation) (Machine.onStore other) where
  grows := .onStore reflects.retains
  ended machine there machines _ safe := by
    have ended := reflects.paired machine.store there.store machines.store
    unfold Machine.onStore at safe ⊢
    dsimp only at safe ⊢
    generalize operation machine.store = end₁ at ended safe ⊢
    have within : Within M.objectLimit (endState end₁).objects.size := by
      cases end₁ <;> exact safe.objects
    have ended := ended within
    generalize other there.store = end₂ at ended ⊢
    rcases ended with ⟨result, state⟩ | ⟨alike, state⟩
    · exact .ok result ⟨{ machines with store := state }, ⟨rfl, rfl, rfl⟩, ⟨rfl, rfl, rfl⟩⟩
    · exact .error alike ⟨{ machines with store := state }, ⟨rfl, rfl, rfl⟩, ⟨rfl, rfl, rfl⟩⟩

theorem asking {image : α → β} {question : Store → Except Fault α} {other : Store → Except Fault β}
    (same : ∀ store there, M.Stores store there → other there = (question store).map image) :
    Mirrored M room (Images image) (Machine.askStore question) (Machine.askStore other) where
  grows machine := by
    unfold Machine.askStore
    split <;> exact .refl _
  ended machine there machines _ _ := by
    unfold Machine.askStore
    rw [same _ _ machines.store]
    cases question machine.store with
    | ok value => exact .ok rfl ⟨machines, .refl machine, .refl there⟩
    | error fault => exact .error (.refl fault) ⟨machines, .refl machine, .refl there⟩

/-- A question that has the same answer in both runs. -/
theorem askingSame {question other : Store → Except Fault α}
    (same : ∀ store there, M.Stores store there → other there = question store) :
    Mirrored M room (Images id) (Machine.askStore question) (Machine.askStore other) := by
  refine asking fun store there stores => ?_
  rw [same store there stores]
  cases question store <;> rfl

theorem isTruthy (value : Value) :
    Mirrored M room (Images id) (Machine.isTruthy value) (Machine.isTruthy (M.value value)) where
  grows := Machine.Grown.refl
  ended machine there machines _ _ :=
    .ok (machines.store.isTruthy value) ⟨machines, .refl machine, .refl there⟩

/-- Changes of the scopes that leave everything else as it is. -/
theorem modifyScopes {change other : Scopes → Scopes}
    (same : ∀ scopes there, M.Scopes scopes there → M.Scopes (change scopes) (other there)) :
    Mirrored M room (Images id)
      (modify fun machine => { machine with scopes := change machine.scopes } : MachineM PUnit)
      (modify fun machine => { machine with scopes := other machine.scopes } : MachineM PUnit) where
  grows machine := { Machine.Grown.refl machine with }
  ended _ _ machines _ _ :=
    .ok rfl ⟨{ machines with scopes := same _ _ machines.scopes }, ⟨rfl, rfl, rfl⟩, ⟨rfl, rfl, rfl⟩⟩

/-- Steps in turn, of which the first ones give more than an image of their result. -/
theorem bindKnowing {first : MachineM α} {other : MachineM β} {next : α → MachineM γ}
    {then' : β → MachineM δ} (before : Mirrored M room results first other)
    (grows : ∀ value, Grows (next value))
    (after : ∀ value there, results value there →
      Mirrored M room outcomes (next value) (then' there)) :
    Mirrored M room outcomes (first >>= next) (other >>= then') where
  grows := before.grows.bind grows
  ended machine there machines depths safe := by
    change Paired _ outcomes (EStateM.bind first next machine) (EStateM.bind other then' there)
    change M.Safe _ (endState (EStateM.bind first next machine)) at safe
    have start := before.ended machine there machines depths
    unfold EStateM.bind at safe ⊢
    cases run : first machine with
    | error fault middle =>
        rw [run] at start safe
        have start := start safe
        revert start
        generalize other there = ended
        rintro ⟨⟩
        exact .error ‹_› ‹_›
    | ok value middle =>
        rw [run] at start safe
        -- Whatever the first steps have loaded, the whole has loaded.
        have start := start (safe.before (grows value middle))
        revert start
        generalize other there = ended
        rintro ⟨result, mirrored, here, restored⟩
        exact .reached here restored ((after _ _ result).ended _ _ mirrored
          (depths.restored here restored) (here.disk.symm ▸ safe))

theorem bind {image : α → β} {first : MachineM α} {other : MachineM β} {next : α → MachineM γ}
    {then' : β → MachineM δ} (before : Mirrored M room (Images image) first other)
    (after : ∀ value, Mirrored M room outcomes (next value) (then' (image value))) :
    Mirrored M room outcomes (first >>= next) (other >>= then') := by
  refine bindKnowing before (fun value => (after value).grows) ?_
  rintro value _ rfl
  exact after value

/-- Steps after a look at the machine. -/
theorem looking {next : Machine → MachineM γ} {then' : Machine → MachineM δ}
    (grows : Grows (get >>= next))
    (after : ∀ machine there, M.Machines machine there → M.Depths room machine there →
      Mirrored M room outcomes (next machine) (then' there)) :
    Mirrored M room outcomes (get >>= next) (get >>= then') where
  grows := grows
  ended machine there machines depths safe :=
    (after machine there machines depths).ended machine there machines depths safe

theorem mapFault {change other : Fault → MachineM Fault} {left : MachineM α} {right : MachineM β}
    (before : Mirrored M room results left right)
    (after : ∀ fault there, fault.Alike there →
      Mirrored M room Fault.Alike (change fault) (other there)) :
    Mirrored M room results (Machine.mapFault change left) (Machine.mapFault other right) where
  grows machine := by
    have start := before.grows machine
    unfold Machine.mapFault
    cases run : left machine with
    | ok value middle =>
        rw [run] at start
        exact start
    | error fault middle =>
        rw [run] at start
        have last := (after fault fault (.refl fault)).grows middle
        dsimp only
        revert last
        generalize change fault middle = changed
        intro last
        cases changed <;> exact start.trans last
  ended machine there machines depths safe := by
    have start := before.ended machine there machines depths
    unfold Machine.mapFault at safe ⊢
    cases run : left machine with
    | ok value middle =>
        rw [run] at start safe
        have start := start safe
        revert start
        generalize right there = ended
        rintro ⟨⟩
        exact .ok ‹_› ‹_›
    | error fault middle =>
        rw [run] at start safe
        dsimp only at safe
        have grown := (after fault fault (.refl fault)).grows middle
        have safe : M.Safe machine.disk (endState (change fault middle)) := by
          revert safe
          cases change fault middle <;> exact id
        have start := start (safe.before grown)
        revert start
        generalize right there = ended
        rintro (_ | ⟨alike, mirrored, here, restored⟩)
        have last := Paired.reached here restored ((after _ _ alike).ended _ _ mirrored
          (depths.restored here restored) (here.disk.symm ▸ safe))
        dsimp only
        revert last
        generalize change fault middle = end₁
        generalize other _ _ = end₂
        rintro (⟨alike, state⟩ | ⟨alike, state⟩) <;> exact .error alike state

theorem mapM {image : γ → δ} {step : α → MachineM γ} {there : α → MachineM δ} (items : List α)
    (each : ∀ item ∈ items, Mirrored M room (Images image) (step item) (there item)) :
    Mirrored M room (Images (List.map image)) (items.mapM step) (items.mapM there) := by
  induction items with
  | nil => exact pure rfl
  | cons item rest ih =>
      rw [List.mapM_cons, List.mapM_cons]
      refine bind (each item List.mem_cons_self) fun value => ?_
      refine bind (ih fun later found => each later (List.mem_cons_of_mem _ found)) fun values => ?_
      exact pure rfl

theorem forM {step there : α → MachineM PUnit} (items : List α)
    (each : ∀ item, Mirrored M room (Images id) (step item) (there item)) :
    Mirrored M room (Images id) (items.forM step) (items.forM there) := by
  induction items with
  | nil => exact pure rfl
  | cons item rest ih => exact bind (each item) fun _ => ih

/-- Steps that follow however the first ones end. -/
theorem either {body : MachineM α} {other : MachineM β} {image : α → β}
    {good : α → MachineM γ} {bad : Fault → MachineM γ} {goodThere : β → MachineM δ}
    {badThere : Fault → MachineM δ} (before : Mirrored M room (Images image) body other)
    (success : ∀ value, Mirrored M room outcomes (good value) (goodThere (image value)))
    (failure : ∀ fault there, fault.Alike there →
      Mirrored M room outcomes (bad fault) (badThere there)) :
    Mirrored M room outcomes (Machine.either body good bad)
      (Machine.either other goodThere badThere) where
  grows machine := by
    have start := before.grows machine
    unfold Machine.either
    cases run : body machine with
    | ok value middle =>
        rw [run] at start
        exact start.trans ((success value).grows middle)
    | error fault middle =>
        rw [run] at start
        exact start.trans ((failure fault fault (.refl fault)).grows middle)
  ended machine there machines depths safe := by
    have start := before.ended machine there machines depths
    unfold Machine.either at safe ⊢
    cases run : body machine with
    | ok value middle =>
        rw [run] at start safe
        have start := start (safe.before ((success value).grows middle))
        revert start
        generalize other there = ended
        rintro ⟨rfl, mirrored, here, restored⟩
        exact .reached here restored ((success value).ended _ _ mirrored
          (depths.restored here restored) (here.disk.symm ▸ safe))
    | error fault middle =>
        rw [run] at start safe
        have start := start (safe.before ((failure fault fault (.refl fault)).grows middle))
        revert start
        generalize other there = ended
        rintro (_ | ⟨alike, mirrored, here, restored⟩)
        exact .reached here restored ((failure _ _ alike).ended _ _ mirrored
          (depths.restored here restored) (here.disk.symm ▸ safe))

end Mirrored

end Scriptlet
