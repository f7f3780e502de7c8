import Scriptlet.Settings
import Scriptlet.Evaluator

/-!
# Sessions

A session runs program texts on a scope. The scope can be made for one run, with the builtins that
the settings choose, and is then released when the run ends; or it can be kept, and later runs see
what earlier runs have bound.
-/

namespace Scriptlet

/-- Makes a root scope with the builtins that the settings choose; `entropy` is the seed of random
numbers for settings without one. -/
def openEnvironment (settings : Settings) (entropy : Int) : MachineM ScopeId := do
  let scope ← Machine.openRoot "global"
  Builtin.install scope (settings.randomSeed.getD entropy) settings.builtins
  return scope

/-- Whether a value is the group of the operations on jobs. -/
def Store.isScheduler (store : Store) : Value → Bool
  | .host id => match store.objects[id]? with
    | some (.scheduler _) => true
    | _ => false
  | _ => false

/-- Closes the schedule of jobs that the root scope around a scope binds. -/
def releaseEnvironment (scope : ScopeId) : MachineM Unit := do
  let machine ← get
  let root := machine.scopes.root scope
  match (machine.scopes[root]?.map Scope.bindings).bind (Assoc.get? · "Task") with
  | some value =>
      if machine.store.isScheduler value then Machine.onStore closeSchedule else return ()
  | none => return ()

/-- Executes a program in a scope. -/
def runProgram (runner : RunnerId) (unit : UnitId) (scope : ScopeId) (program : Program) :
    MachineM Value := do
  let room := stackRoom (← get).depthLimit
  let completion ←
    guarded (sequence (execute ⟨runner, unit, scope⟩ room) program.body .absent)
  return completion.value

/-- Reads a program from its text. -/
def readProgram (source : String) (file : Option String) : MachineM Program := do
  let room := stackRoom (← get).depthLimit
  guarded (ofExcept (Program.ofSource room source file))

/-- Runs a program text on a scope: the value of its last statement. -/
def runSource (moduleRoot : Option String) (scope : ScopeId) (source : String)
    (file : Option String) : MachineM Value := do
  let runner ← Machine.addRunner
    { source := source, file := file, moduleRoot := moduleRoot, globals := scope }
  let program ← readProgram source file
  runProgram runner (← Machine.addUnit) scope program

/-- Runs a program text on a new scope with builtins, which is released however the run ends. -/
def runFresh (settings : Settings) (entropy : Int) (source : String) (file : Option String) :
    MachineM Value := do
  let scope ← openEnvironment settings entropy
  Machine.andFinally (runSource settings.moduleRoot scope source file) (releaseEnvironment scope)

/-- Calls a value from the host, if it is a function. A function of a script is called with values
and gives plain data, which becomes a value again; a host function is invoked as it is. -/
def callFromHost (callee : Value) (arguments : List Value) : MachineM (Option Value) := do
  let machine ← get
  let room := stackRoom machine.depthLimit
  match callee with
  | .closure id =>
      let result ← callBack room id arguments
      let data ← Machine.askStore fun store => store.unwrap room result
      return some (← Machine.onStore data.wrap)
  | .host id =>
      match machine.store.objects[id]?.bind HostObject.callable? with
      | some (_, action) => return some (← perform room action arguments)
      | none => return none
  | _ => return none

/-- A scope with the names that it binds, in order. -/
def Scope.render (scope : Scope) : String :=
  let names := scope.bindings.names.mergeSort fun a b => !(b < a : Bool)
  "Environment(" ++ Text.quoted scope.name ++ ", [" ++
    ", ".intercalate (names.map Text.quoted) ++ "])"

end Scriptlet
