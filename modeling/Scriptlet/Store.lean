import Scriptlet.Host
import Scriptlet.Tree
import Scriptlet.Journal
import Scriptlet.Random.Twister

/-!
# The store

The store holds the cells that values name: arrays, functions and host objects. It also holds what
the operations of the host work on: the spawned jobs, the random generator, the clock, the output
and the journal. Scopes are not part of the store, so whatever works on the store alone leaves every
binding as it is.
-/

namespace Scriptlet

/-- The methods that arrays and texts have in every run. -/
inductive Method where
  | push
  | pop
  | join
  | upper
  | lower
  | split
  deriving DecidableEq, Repr

namespace Method

/-- The kind of values that have the method. -/
def owner : Method → Kind
  | .push | .pop | .join => .array
  | .upper | .lower | .split => .text

/-- The name of a method. -/
def name : Method → String
  | .push => "push"
  | .pop => "pop"
  | .join => "join"
  | .upper => "upper"
  | .lower => "lower"
  | .split => "split"

/-- All methods. -/
def all : List Method :=
  [.push, .pop, .join, .upper, .lower, .split]

end Method

/-- A method that values have in a run: one that works on its receiver itself, or one of the host,
which works on a copy. -/
inductive MethodEntry where
  | standard (method : Method)
  | hosted (method : HostMethod)

namespace MethodEntry

/-- The kind of values that have the method. -/
def owner : MethodEntry → Kind
  | .standard method => method.owner
  | .hosted method => method.owner

/-- The name of a method. -/
def name : MethodEntry → String
  | .standard method => method.name
  | .hosted method => method.name

/-- Whether the method works on plain data, that is on a copy of its receiver. -/
def copies : MethodEntry → Bool
  | .standard _ => false
  | .hosted _ => true

end MethodEntry

/-- The functions on a fixed number of numbers. -/
inductive MathFunction where
  | floor
  | ceil
  | round
  | abs
  | sqrt
  | sin
  | cos
  | tan
  | log
  | exp
  | pow
  | atan2
  deriving DecidableEq, Repr

/-- Operations of the host that work on the store alone. -/
inductive Native where
  /-- A method with its receiver. -/
  | bound (method : Method) (receiver : Value)
  /-- A method of the host with a copy of its receiver. -/
  | boundCopy (method : HostMethod) (receiver : Data)
  | math (function : MathFunction)
  | least
  | greatest
  | random
  /-- The date of a number of milliseconds, or the present one. -/
  | date
  | now
  /-- The text of the present date. -/
  | isoNow
  /-- The text of the date of a number of milliseconds. -/
  | isoAt (milliseconds : Float)
  | writeJson
  | readJson
  | print
  | log
  | spawn
  | cancel
  /-- Whether a job has ended. -/
  | isDone (job : Nat)
  /-- Whether a job has ended by being cancelled. -/
  | isCancelled (job : Nat)
  /-- A function that the host offers. -/
  | hosted (implementation : Implementation)

/-- Operations of the host that run code of the script. -/
inductive Control where
  | join
  | sleep
  | yield
  /-- Calls its first argument with the others. -/
  | apply
  /-- Runs the body of a loaded module. -/
  | runModule (body : List Stmt) (unit : UnitId) (runner : RunnerId)

/-- What a host function does. -/
inductive Action where
  | native (operation : Native)
  | control (operation : Control)

/-- What a field of a record holds: a value that a script has put there, or data of the host, which
is made a value anew whenever it is read. -/
inductive Field where
  | value (value : Value)
  | raw (data : Data)
  deriving Repr

/-- The objects of the host. -/
inductive HostObject where
  /-- A function. -/
  | function (name : String) (action : Action)
  /-- A function that makes instances and has members. -/
  | factory (name : String) (action : Action) (members : Assoc Data)
  /-- A named collection of members. -/
  | group (name : String) (members : Assoc Data)
  /-- The collection of the operations on jobs. -/
  | scheduler (members : Assoc Data)
  /-- An object with fields that scripts can set. -/
  | record (typeName : String) (fields : Assoc Field)
  /-- A module that has been read; `run` is the function that runs it. -/
  | loaded (path : String) (run : ObjectId)

/-- The stages of a job. -/
inductive JobState where
  | waiting (cancelRequested : Bool)
  | running (cancelRequested : Bool)
  | returned (value : Value)
  | failed (fault : Fault)
  | cancelled
  deriving Repr

/-- Whether a job in this stage has ended. -/
def JobState.isDone : JobState → Bool
  | .waiting _ | .running _ => false
  | .returned _ | .failed _ | .cancelled => true

/-- Whether a job in this stage has ended by being cancelled. -/
def JobState.isCancelled : JobState → Bool
  | .cancelled => true
  | _ => false

/-- A function that was spawned with its arguments. -/
structure Job where
  function : Value
  arguments : List Value
  state : JobState
  deriving Repr

/-- The jobs of a run. Jobs are numbered from one in the order in which they are spawned. -/
structure Schedule where
  jobs : Array Job := #[]
  /-- How many of the first jobs can no longer be joined or cancelled. -/
  forgotten : Nat := 0
  /-- The jobs that wait for their turn. -/
  ready : Array Nat := #[]
  isOpen : Bool := false
  /-- How many functions of jobs are being executed. -/
  active : Nat := 0
  deriving Repr

/-- A function of a script with the scope in which it was made. -/
structure Closure where
  name : Option String
  params : List String
  body : List Stmt
  scope : ScopeId
  unit : UnitId
  runner : RunnerId

/-- The cells that values name, and what the host works on. -/
structure Store where
  arrays : Array (Array Value) := #[]
  closures : Array Closure := #[]
  objects : Array HostObject := #[]
  /-- The methods that arrays and texts have. Of several with one name the first one counts. -/
  methods : List MethodEntry := Method.all.map .standard
  schedule : Schedule := {}
  random : Twister := default
  /-- The time in milliseconds. -/
  clock : Float := 0.0
  output : String := ""
  journal : Array Entry := #[]

/-- Operations on the store. An operation that fails keeps what it has done. -/
abbrev StoreM := EStateM Fault Store

namespace Store

/-- The items of an array. -/
def items (store : Store) (id : ArrayId) : Array Value :=
  store.arrays.getD id #[]

/-- Whether a value counts as true. -/
def isTruthy (store : Store) : Value → Bool
  | .bool value => value
  | .absent => false
  | .number x => x != 0.0 && !x.isNaN
  | .text value => !value.isEmpty
  | .array id => !(store.items id).isEmpty
  | .closure _ | .host _ => true

/-- Adds an array. -/
def addArray (items : Array Value) : StoreM Value :=
  modifyGet fun store =>
    (.array store.arrays.size, { store with arrays := store.arrays.push items })

/-- Changes the items of an array. -/
def changeArray (id : ArrayId) (change : Array Value → Array Value) : StoreM Unit :=
  modify fun store => { store with arrays := store.arrays.modify id change }

/-- Adds a function. -/
def addClosure (closure : Closure) : StoreM Value :=
  modifyGet fun store =>
    (.closure store.closures.size, { store with closures := store.closures.push closure })

/-- Adds a host object. -/
def addObject (object : HostObject) : StoreM ObjectId :=
  modifyGet fun store =>
    (store.objects.size, { store with objects := store.objects.push object })

/-- Adds a host function that works on the store. -/
def addNative (name : String) (operation : Native) : StoreM ObjectId :=
  addObject (.function name (.native operation))

/-- Gives a field of a record a value; other objects have no fields and stay. -/
def setField (id : ObjectId) (name : String) (value : Value) : StoreM Unit :=
  modify fun store =>
    { store with
      objects := store.objects.modify id fun object =>
        match object with
        | .record typeName fields => .record typeName (fields.put name (.value value))
        | other => other }

/-- Appends to the output. -/
def emit (text : String) : StoreM Unit :=
  modify fun store => { store with output := store.output ++ text }

/-- Writes an entry to the journal. -/
def note (level : Level) (origin : Origin) (message : String) : StoreM Unit :=
  modify fun store => { store with journal := store.journal.push ⟨level, origin, message⟩ }

/-- Lets time pass, in milliseconds. -/
def advanceClock (milliseconds : Float) : StoreM Unit :=
  modify fun store => { store with clock := store.clock + milliseconds }

/-- The present time in whole milliseconds. -/
def now (store : Store) : Float :=
  match Number.floor? store.clock with
  | some n => Number.ofInt n
  | none => store.clock

end Store

namespace HostObject

/-- Whether an object can be called. -/
def isFunction : HostObject → Bool
  | .function .. | .factory .. => true
  | _ => false

/-- The name of the type of an object that has members. -/
def typeName? : HostObject → Option String
  | .function .. => none
  | .factory .. => some "HostClass"
  | .group name _ => some name
  | .scheduler _ => some "Task"
  | .record typeName _ => some typeName
  | .loaded .. => some "Module"

/-- The members of an object, in order; nothing if it has none by its nature. -/
def members? : HostObject → Option (Assoc Field)
  | .function .. => none
  | .factory _ _ members | .group _ members | .scheduler members =>
      some (members.map fun (name, data) => (name, .raw data))
  | .record _ fields => some fields
  | .loaded path run => some [("path", .raw (.text path)), ("run", .raw (.host run))]

end HostObject

end Scriptlet
