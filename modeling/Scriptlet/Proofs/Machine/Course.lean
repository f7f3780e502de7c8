import Scriptlet.Proofs.Store.Change
import Scriptlet.Machine

/-!
# Courses of a machine

What code does to a machine while it runs in a scope.  It binds names in its own scope only, gives
names that are bound around it other values, and makes new scopes, in which other code runs.  The
functions and modules that it makes have bodies of a given kind.
-/

namespace Scriptlet

/-- A store holds a body: of a function, or of a module that a host object runs. -/
def Store.HoldsBody (store : Store) (body : List Stmt) : Prop :=
  (∃ closure ∈ store.closures, closure.body = body) ∨
    ∃ object ∈ store.objects, body ∈ object.moduleBodies

/-- All bodies that a machine holds are of a given kind. -/
def Machine.BodiesSatisfy (kind : List Stmt → Prop) (machine : Machine) : Prop :=
  ∀ body, machine.store.HoldsBody body → kind body

/-- What code that runs in a scope does to the machine. -/
inductive Machine.Course (kind : List Stmt → Prop) : ScopeId → Machine → Machine → Prop
  | refl (scope : ScopeId) (machine : Machine) : Course kind scope machine machine
  | trans {scope : ScopeId} {before middle after : Machine}
      (first : Course kind scope before middle)
      (second : Course kind scope middle after) : Course kind scope before after
  | store (scope : ScopeId) (machine : Machine) {store : Store}
      (change : machine.store.Change store) :
      Course kind scope machine { machine with store := store }
  | newClosure (machine : Machine) (closure : Closure) (allowed : kind closure.body) :
      Course kind closure.scope machine
        { machine with store :=
          { machine.store with closures := machine.store.closures.push closure } }
  | newObject (scope : ScopeId) (machine : Machine) (object : HostObject)
      (allowed : ∀ body ∈ object.moduleBodies, kind body) :
      Course kind scope machine
        { machine with store :=
          { machine.store with objects := machine.store.objects.push object } }
  | define (scope : ScopeId) (machine : Machine) (name : String) (value : Value) :
      Course kind scope machine
        { machine with scopes := machine.scopes.define scope name value }
  | assign (scope : ScopeId) (machine : Machine) (name : String) (value : Value) :
      Course kind scope machine
        { machine with scopes := machine.scopes.assign scope name value }
  | inside (scope : ScopeId) {machine after : Machine} (opened : Scope)
      (inner : Course kind machine.scopes.size
        { machine with scopes := machine.scopes.push opened } after) :
      Course kind scope machine after
  | newRunner (scope : ScopeId) (machine : Machine) (runner : Runner) :
      Course kind scope machine { machine with runners := machine.runners.push runner }
  | runner (scope : ScopeId) (machine : Machine) (id : RunnerId) (change : Runner → Runner) :
      Course kind scope machine
        { machine with runners := machine.runners.modify id change }
  | unit (scope : ScopeId) (machine : Machine) :
      Course kind scope machine { machine with units := machine.units + 1 }
  | constructed (scope : ScopeId) (machine : Machine) (mark : UnitId × Nat) :
      Course kind scope machine { machine with constructed := mark :: machine.constructed }
  | consulted (scope : ScopeId) (machine : Machine) (path : String) :
      Course kind scope machine { machine with consulted := path :: machine.consulted }

/-! ## Bodies -/

theorem HostObject.moduleBodies_withField (object : HostObject) (name : String) (value : Value) :
    (object.withField name value).moduleBodies = object.moduleBodies := by
  cases object <;> rfl

theorem Store.Change.holdsBody {before after : Store} (change : before.Change after)
    {body : List Stmt} (holds : after.HoldsBody body) : before.HoldsBody body := by
  rcases holds with ⟨closure, found, rfl⟩ | ⟨object, found, runs⟩
  · cases change <;> exact .inl ⟨closure, found, rfl⟩
  · cases change with
    | newObject plain =>
        rcases Array.mem_push.mp found with found | rfl
        · exact .inr ⟨object, found, runs⟩
        · rw [plain] at runs
          cases runs
    | field id name value =>
        obtain ⟨index, found⟩ := Array.mem_iff_getElem?.mp found
        rw [Array.getElem?_modify] at found
        split at found
        · obtain ⟨old, oldFound, rfl⟩ := Option.map_eq_some_iff.mp found
          rw [HostObject.moduleBodies_withField] at runs
          exact .inr ⟨old, Array.mem_of_getElem? oldFound, runs⟩
        · exact .inr ⟨object, Array.mem_of_getElem? found, runs⟩
    | _ => exact .inr ⟨object, found, runs⟩

/-! ## Objects -/

/-- Objects that have no fields stay as they are. -/
theorem Store.Change.objectAt {before after : Store} (change : before.Change after) {id : ObjectId}
    {object : HostObject} (fixed : ∀ name value, object.withField name value = object)
    (found : before.objects[id]? = some object) : after.objects[id]? = some object := by
  cases change with
  | newObject =>
      rw [Array.getElem?_push, if_neg (Nat.ne_of_lt (Array.getElem?_eq_some_iff.mp found).1), found]
  | field place name value =>
      rw [Array.getElem?_modify, found]
      split
      · exact congrArg some (fixed name value)
      · rfl
  | _ => exact found

theorem Store.Changes.objectAt {before after : Store} (changes : before.Changes after)
    {id : ObjectId} {object : HostObject}
    (fixed : ∀ name value, object.withField name value = object)
    (found : before.objects[id]? = some object) : after.objects[id]? = some object := by
  induction changes with
  | refl => exact found
  | tail _ change ih => exact change.objectAt fixed ih

namespace Machine.Course

variable {kind : List Stmt → Prop} {scope : ScopeId} {before after : Machine}

theorem objectAt (course : before.Course kind scope after) {id : ObjectId} {object : HostObject}
    (fixed : ∀ name value, object.withField name value = object)
    (found : before.store.objects[id]? = some object) : after.store.objects[id]? = some object := by
  induction course with
  | trans _ _ first second => exact second (first found)
  | store _ _ change => exact change.objectAt fixed found
  | newObject _ machine other =>
      rw [Array.getElem?_push, if_neg (Nat.ne_of_lt (Array.getElem?_eq_some_iff.mp found).1), found]
  | inside _ _ _ inner => exact inner found
  | _ => exact found

/-- No course brings in bodies of another kind. -/
theorem bodiesSatisfy (course : before.Course kind scope after)
    (satisfied : before.BodiesSatisfy kind) : after.BodiesSatisfy kind := by
  induction course with
  | trans _ _ first second => exact second (first satisfied)
  | store _ _ change => exact fun body holds => satisfied body (change.holdsBody holds)
  | newClosure machine closure allowed =>
      rintro body (⟨other, found, rfl⟩ | ⟨object, found, runs⟩)
      · rcases Array.mem_push.mp found with found | rfl
        · exact satisfied _ (.inl ⟨other, found, rfl⟩)
        · exact allowed
      · exact satisfied _ (.inr ⟨object, found, runs⟩)
  | newObject _ machine object allowed =>
      rintro body (⟨closure, found, rfl⟩ | ⟨other, found, runs⟩)
      · exact satisfied _ (.inl ⟨closure, found, rfl⟩)
      · rcases Array.mem_push.mp found with found | rfl
        · exact satisfied _ (.inr ⟨other, found, runs⟩)
        · exact allowed body runs
  | inside _ _ _ inner => exact inner satisfied
  | _ => exact satisfied

/-- What the store goes through while the rest of the machine stays. -/
theorem ofChanges (scope : ScopeId) (machine : Machine) {store : Store}
    (changes : machine.store.Changes store) :
    machine.Course kind scope { machine with store := store } := by
  induction changes with
  | refl => exact .refl scope machine
  | tail _ change ih => exact .trans ih (.store scope { machine with store := _ } change)

end Machine.Course

/-! ## Steps of a run -/

section Outcomes

variable {α : Type} {before after : Machine}

theorem mapFault_ok_iff {change : Fault → MachineM Fault} {steps : MachineM α} {value : α} :
    Machine.mapFault change steps before = .ok value after ↔ steps before = .ok value after := by
  unfold Machine.mapFault
  cases outcome : steps before with
  | ok result middle => simp
  | error fault middle =>
      dsimp only
      cases change fault middle <;> simp

/-- What an operation on the store does to the machine. -/
theorem onStore_of_ok {operation : StoreM α} {machine : Machine} {value : α}
    {store : Store} (run : operation machine.store = .ok value store) :
    Machine.onStore operation machine = .ok value { machine with store := store } := by
  obtain ⟨scopes, runners, units, constructed, depthLimit, disk, consulted, before⟩ := machine
  unfold Machine.onStore
  dsimp only at run ⊢
  rw [run]

theorem onStore_ok {operation : StoreM α} {machine : Machine} {value : α}
    (run : Machine.onStore operation machine = .ok value after) :
    operation machine.store = .ok value after.store := by
  unfold Machine.onStore at run
  dsimp only at run
  split at run
  · rename_i found
    cases run
    exact found
  · cases run

theorem onStore_of_error {operation : StoreM α} {machine : Machine} {fault : Fault}
    {store : Store} (run : operation machine.store = .error fault store) :
    Machine.onStore operation machine = .error fault { machine with store := store } := by
  obtain ⟨scopes, runners, units, constructed, depthLimit, disk, consulted, before⟩ := machine
  unfold Machine.onStore
  dsimp only at run ⊢
  rw [run]

theorem askStore_of_ok (question : Store → Except Fault α) {machine : Machine} {value : α}
    (answer : question machine.store = .ok value) :
    Machine.askStore question machine = .ok value machine := by
  simp only [Machine.askStore, answer]

theorem askStore_of_error (question : Store → Except Fault α) {machine : Machine} {fault : Fault}
    (answer : question machine.store = .error fault) :
    Machine.askStore question machine = .error fault machine := by
  simp only [Machine.askStore, answer]

theorem andFinally_ok {steps : MachineM α} {last : MachineM Unit} {value : α}
    (run : Machine.andFinally steps last before = .ok value after) :
    ∃ middle, steps before = .ok value middle := by
  unfold Machine.andFinally at run
  cases outcome : steps before with
  | ok result middle =>
      rw [outcome] at run
      dsimp only at run
      cases ended : last middle <;> rw [ended] at run <;> cases run
      exact ⟨middle, rfl⟩
  | error fault middle =>
      rw [outcome] at run
      dsimp only at run
      cases ended : last middle <;> rw [ended] at run <;> cases run

end Outcomes

/-- The steps take a machine with bodies of the given kind along a course, also when they fail. -/
def Follows {α : Type} (kind : List Stmt → Prop) (scope : ScopeId) (steps : MachineM α)
    (machine : Machine) : Prop :=
  machine.BodiesSatisfy kind → machine.Course kind scope (endState (steps machine))

namespace Follows

variable {α β : Type} {kind : List Stmt → Prop} {scope : ScopeId} {machine : Machine}

/-- The kind of the bodies may be used. -/
theorem assuming {steps : MachineM α}
    (follows : machine.BodiesSatisfy kind → Follows kind scope steps machine) :
    Follows kind scope steps machine :=
  fun satisfied => follows satisfied satisfied

theorem pure {value : α} : Follows kind scope (pure value) machine :=
  fun _ => .refl scope machine

theorem throw {fault : Fault} : Follows kind scope (throw fault : MachineM α) machine :=
  fun _ => .refl scope machine

theorem ofExcept {result : Except Fault α} :
    Follows kind scope (ofExcept result : MachineM α) machine := by
  intro _
  cases result <;> exact .refl scope machine

theorem asking {question : Store → Except Fault α} :
    Follows kind scope (Machine.askStore question) machine := by
  intro _
  unfold Machine.askStore
  split <;> exact .refl scope machine

theorem isTruthy {value : Value} : Follows kind scope (Machine.isTruthy value) machine :=
  fun _ => .refl scope machine

theorem modify {change : Machine → Machine} (course : machine.Course kind scope (change machine)) :
    Follows kind scope (modify change : MachineM PUnit) machine :=
  fun _ => course

theorem onStore {operation : StoreM α} (alters : Alters operation) :
    Follows kind scope (Machine.onStore operation) machine := by
  intro _
  have course : machine.Course kind scope _ := .ofChanges scope machine (alters machine.store)
  unfold Machine.onStore
  dsimp only
  cases outcome : operation machine.store <;>
  · rw [outcome] at course
    exact course

theorem bind {first : MachineM α} {next : α → MachineM β}
    (before : Follows kind scope first machine)
    (after : ∀ value middle, first machine = .ok value middle →
      Follows kind scope (next value) middle) :
    Follows kind scope (first >>= next) machine := by
  intro satisfied
  have start := before satisfied
  change machine.Course kind scope (endState (EStateM.bind first next machine))
  unfold EStateM.bind
  cases outcome : first machine with
  | ok value middle =>
      rw [outcome] at start
      exact start.trans (after value middle outcome (start.bodiesSatisfy satisfied))
  | error fault middle =>
      rw [outcome] at start
      exact start

/-- Steps after a look at the machine. -/
theorem looking {next : Machine → MachineM β} (after : Follows kind scope (next machine) machine) :
    Follows kind scope (get >>= next) machine :=
  after

/-- Steps in a new root scope. -/
theorem insideRoot {name : String} {next : ScopeId → MachineM β}
    (inner : Follows kind machine.scopes.size (next machine.scopes.size)
      { machine with scopes := machine.scopes.push { name := name, parent := none } }) :
    Follows kind scope (Machine.openRoot name >>= next) machine :=
  fun satisfied => .inside scope _ (inner satisfied)

/-- Steps in a new scope. -/
theorem inside {name : String} {parent : ScopeId} {bindings : Assoc Value}
    {next : ScopeId → MachineM β}
    (inner : Follows kind machine.scopes.size (next machine.scopes.size)
      { machine with scopes := machine.scopes.child name parent bindings }) :
    Follows kind scope (Machine.openScope name parent bindings >>= next) machine :=
  fun satisfied => .inside scope _ (inner satisfied)

theorem choosing {condition : Prop} [Decidable condition] {first second : MachineM α}
    (yes : Follows kind scope first machine) (no : Follows kind scope second machine) :
    Follows kind scope (if condition then first else second) machine := by
  split
  · exact yes
  · exact no

theorem mapFault {change : Fault → MachineM Fault} {steps : MachineM α}
    (before : Follows kind scope steps machine)
    (after : ∀ fault middle, Follows kind scope (change fault) middle) :
    Follows kind scope (Machine.mapFault change steps) machine := by
  intro satisfied
  have start := before satisfied
  unfold Machine.mapFault
  cases outcome : steps machine with
  | ok value middle =>
      rw [outcome] at start
      exact start
  | error fault middle =>
      rw [outcome] at start
      have last := after fault middle (start.bodiesSatisfy satisfied)
      dsimp only
      cases changed : change fault middle <;>
      · rw [changed] at last
        exact start.trans last

theorem andFinally {steps : MachineM α} {last : MachineM Unit}
    (before : Follows kind scope steps machine)
    (after : ∀ middle, Follows kind scope last middle) :
    Follows kind scope (Machine.andFinally steps last) machine := by
  intro satisfied
  have start := before satisfied
  unfold Machine.andFinally
  cases outcome : steps machine <;>
  · rename_i middle
    rw [outcome] at start
    have ending := after middle (start.bodiesSatisfy satisfied)
    dsimp only
    cases ended : last middle <;>
    · rw [ended] at ending
      exact start.trans ending

theorem mapM {step : α → MachineM β} (items : List α)
    (each : ∀ item ∈ items, ∀ machine, Follows kind scope (step item) machine)
    (machine : Machine) : Follows kind scope (items.mapM step) machine := by
  induction items generalizing machine with
  | nil => exact pure
  | cons item rest ih =>
      rw [List.mapM_cons]
      refine bind (each item (List.mem_cons_self ..) machine) fun _ _ _ => ?_
      refine bind (ih (fun other found => each other (List.mem_cons_of_mem _ found)) _) ?_
      exact fun _ _ _ => pure

theorem forM {step : α → MachineM PUnit} (items : List α)
    (each : ∀ item ∈ items, ∀ machine, Follows kind scope (step item) machine)
    (machine : Machine) : Follows kind scope (items.forM step) machine := by
  induction items generalizing machine with
  | nil => exact pure
  | cons item rest ih =>
      refine bind (each item (List.mem_cons_self ..) machine) fun _ _ _ => ?_
      exact ih (fun other found => each other (List.mem_cons_of_mem _ found)) _

end Follows

end Scriptlet
