import Scriptlet.Machine
import Scriptlet.Library.Native

/-!
# Built-in bindings

The names that the root scope of a run can bind from the start, and the host objects behind them.
-/

namespace Scriptlet

/-- The built-in bindings. -/
inductive Builtin where
  | math
  | date
  | json
  | print
  | log
  | task
  deriving DecidableEq, Repr

namespace Builtin

/-- The name that a builtin is bound to. -/
def name : Builtin → String
  | .math => "Math"
  | .date => "Date"
  | .json => "JSON"
  | .print => "print"
  | .log => "log"
  | .task => "Task"

/-- All builtins, in the order in which they are bound. -/
def all : List Builtin :=
  [.math, .date, .json, .print, .log, .task]

/-- The builtin with a given name. -/
def ofName? (name : String) : Option Builtin :=
  all.find? fun builtin => builtin.name == name

/-- Adds host functions, each under its own name. -/
def addFunctions : List (String × Action) → StoreM (Assoc Data)
  | [] => return []
  | (name, action) :: rest => do
      let id ← Store.addObject (.function name action)
      return (name, .host id) :: (← addFunctions rest)

/-- The ratio of the circumference of a circle to its diameter. -/
def pi : Float := 3.141592653589793

/-- The base of the natural logarithm. -/
def euler : Float := 2.718281828459045

/-- The functions of the `Math` group. -/
def mathFunctions : List (String × Action) :=
  MathFunction.all.map (fun function => (function.name, .native (.math function))) ++
    [("min", .native .least), ("max", .native .greatest), ("random", .native .random)]

/-- The functions of the `Task` group. -/
def taskFunctions : List (String × Action) :=
  [("spawn", .native .spawn), ("join", .control .join), ("cancel", .native .cancel),
    ("sleep", .control .sleep), ("yield", .control .yield)]

/-- Makes the host object of a builtin. Random numbers follow from the seed. -/
def make (seed : Int) : Builtin → StoreM ObjectId
  | .math => do
      modify fun store => { store with random := Twister.ofSeed seed }
      let members ← addFunctions mathFunctions
      Store.addObject (.group "Math" ([("PI", .float pi), ("E", .float euler)] ++ members))
  | .date => do
      let members ← addFunctions [("now", .native .now), ("iso", .native .isoNow)]
      Store.addObject (.factory "Date" (.native .date) members)
  | .json => do
      let members ← addFunctions [("stringify", .native .writeJson), ("parse", .native .readJson)]
      Store.addObject (.group "JSON" members)
  | .print => Store.addNative "print" .print
  | .log => Store.addNative "log" .log
  | .task => do
      modify fun store => { store with schedule := {} }
      Store.addObject (.scheduler (← addFunctions taskFunctions))

/-- Binds builtins in a scope. -/
def install (scope : ScopeId) (seed : Int) : List Builtin → MachineM Unit
  | [] => return ()
  | builtin :: rest => do
      let id ← Machine.onStore (builtin.make seed)
      Machine.define scope builtin.name (.host id)
      install scope seed rest

end Builtin

end Scriptlet
