import Scriptlet.Store
import Scriptlet.Scope
import Scriptlet.Stack
import Scriptlet.Files.Disk

/-!
# The machine

The machine is the store together with everything else that a run works on: the scopes, the runners
and the disk. A runner executes one program text: it knows the text, to quote its lines, the modules
that it has read, and how many calls it is inside of.
-/

namespace Scriptlet

/-- One execution of a program text. -/
structure Runner where
  source : String
  file : Option String
  /-- Where the paths of modules start, if not at the working directory. -/
  moduleRoot : Option String
  /-- The texts of the modules that were read, by the names of their files. -/
  sources : Assoc String := []
  /-- How many calls of functions it is inside of. -/
  depth : Nat := 0
  /-- The scope in which the program runs. -/
  globals : ScopeId
  deriving Repr, Inhabited

/-- Everything that a run works on. -/
structure Machine where
  scopes : Scopes := #[]
  runners : Array Runner := #[]
  /-- How many program texts have been read. -/
  units : Nat := 0
  /-- The `new` statements that have bound their class name, each by its unit and its offset. -/
  constructed : List (UnitId × Nat) := []
  /-- How deep calls may nest. -/
  depthLimit : Nat := defaultDepthLimit
  disk : Disk
  /-- The paths that were read from the disk, the latest first. -/
  consulted : List String := []
  store : Store := {}

/-- Steps of a run. A step that fails keeps what it has done. -/
abbrev MachineM := EStateM Fault Machine

namespace Machine

/-- Performs an operation on the store. -/
def onStore {α : Type} (operation : StoreM α) : MachineM α
  | ⟨scopes, runners, units, constructed, depthLimit, disk, consulted, store⟩ =>
      match operation store with
      | .ok result store =>
          .ok result ⟨scopes, runners, units, constructed, depthLimit, disk, consulted, store⟩
      | .error fault store =>
          .error fault ⟨scopes, runners, units, constructed, depthLimit, disk, consulted, store⟩

/-- Reads something off the store, which may fail. -/
def askStore {α : Type} (question : Store → Except Fault α) : MachineM α :=
  fun machine => match question machine.store with
    | .ok result => .ok result machine
    | .error fault => .error fault machine

/-- Makes a scope inside another one, with some first bindings. -/
def openScope (name : String) (parent : ScopeId) (bindings : Assoc Value := []) :
    MachineM ScopeId :=
  modifyGet fun machine =>
    (machine.scopes.size, { machine with scopes := machine.scopes.child name parent bindings })

/-- Makes a scope that lies inside no other. -/
def openRoot (name : String) : MachineM ScopeId :=
  modifyGet fun machine =>
    (machine.scopes.size,
      { machine with scopes := machine.scopes.push { name := name, parent := none } })

/-- Binds a name in a scope. -/
def define (scope : ScopeId) (name : String) (value : Value) : MachineM Unit :=
  modify fun machine => { machine with scopes := machine.scopes.define scope name value }

/-- Gives a name a new value where it is bound, or binds it in the given scope. -/
def assign (scope : ScopeId) (name : String) (value : Value) : MachineM Unit :=
  modify fun machine => { machine with scopes := machine.scopes.assign scope name value }

/-- The runner with a given name. -/
def runner? (machine : Machine) (id : RunnerId) : Option Runner :=
  machine.runners[id]?

/-- Adds a runner. -/
def addRunner (runner : Runner) : MachineM RunnerId :=
  modifyGet fun machine =>
    (machine.runners.size, { machine with runners := machine.runners.push runner })

/-- Changes a runner. -/
def changeRunner (id : RunnerId) (change : Runner → Runner) : MachineM Unit :=
  modify fun machine => { machine with runners := machine.runners.modify id change }

/-- Counts a program text that is about to be read. -/
def addUnit : MachineM UnitId :=
  modifyGet fun machine => (machine.units, { machine with units := machine.units + 1 })

/-- Whether a value counts as true. -/
def isTruthy (value : Value) : MachineM Bool :=
  fun machine => .ok (machine.store.isTruthy value) machine

/-- Performs a last step whether or not the first steps fail. -/
@[inline]
def andFinally {α : Type} (steps : MachineM α) (last : MachineM Unit) : MachineM α :=
  fun machine => match steps machine with
    | .ok result machine => match last machine with
      | .ok _ machine => .ok result machine
      | .error fault machine => .error fault machine
    | .error fault machine => match last machine with
      | .ok _ machine => .error fault machine
      | .error other machine => .error other machine

/-- Turns the failure of steps into another one. -/
@[inline]
def mapFault {α : Type} (change : Fault → MachineM Fault) (steps : MachineM α) : MachineM α :=
  fun machine => match steps machine with
    | .ok result machine => .ok result machine
    | .error fault machine => match change fault machine with
      | .ok changed machine => .error changed machine
      | .error other machine => .error other machine

end Machine

end Scriptlet
