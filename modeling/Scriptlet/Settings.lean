import Scriptlet.Builtin
import Scriptlet.Yaml
import Scriptlet.Text.Case

/-!
# Settings

What a run can be told, and how a table of values says it. A table is taken as settings only if
every key is known and every value is of the right kind; the first fault that is found is reported.
-/

namespace Scriptlet

/-- What a run can be told. -/
structure Settings where
  /-- Where the paths of modules start. -/
  moduleRoot : Option String := none
  builtins : List Builtin := Builtin.all
  /-- What random numbers follow from, if they are to be the same every time. -/
  randomSeed : Option Int := none
  logLevel : Level := .warning
  deriving DecidableEq, Repr

/-- What is wrong with settings. -/
inductive SettingsProblem where
  | unknownKeys (names : List String)
  | builtinsNotList
  | unknownBuiltins (names : List String)
  | seedNotInteger (shown : String)
  | unknownLevel
  | unreadable (path reason : String)
  /-- The file is no YAML. -/
  | malformed (path : String)
  | notTable (path : String)
  deriving DecidableEq, Repr

/-- The wording of a problem. -/
def SettingsProblem.message : SettingsProblem → String
  | .unknownKeys names => "unknown configuration keys: " ++ ", ".intercalate names
  | .builtinsNotList => "builtins must be a list of names"
  | .unknownBuiltins names => "unknown builtins: " ++ ", ".intercalate names
  | .seedNotInteger shown => s!"random_seed must be an integer, got {shown}"
  | .unknownLevel => "log_level must be one of " ++ ", ".intercalate (Level.all.map Level.label)
  | .unreadable path reason => s!"cannot read configuration {path}: {reason}"
  | .malformed path => s!"invalid YAML in {path}"
  | .notTable path => s!"configuration {path} must be a mapping"

/-- Why there are no settings. -/
inductive SettingsFailure where
  | invalid (problem : SettingsProblem)
  /-- The host failed on its own account. -/
  | host (failure : HostFailure) (message : String)
  /-- The file is not UTF-8. -/
  | undecodable (message : String)
  deriving DecidableEq, Repr

namespace Settings

/-- The keys of settings. -/
def moduleRootKey : String := "module_root"

/-- The key of the builtins. -/
def builtinsKey : String := "builtins"

/-- The key of the seed. -/
def randomSeedKey : String := "random_seed"

/-- The key of the level. -/
def logLevelKey : String := "log_level"

/-- All keys of settings. -/
def keys : List String :=
  [moduleRootKey, builtinsKey, randomSeedKey, logLevelKey]

/-- The texts among names that are to be listed; a name that is no text cannot be listed. -/
def listedNames : (index : Nat) → List Yaml → Except SettingsFailure (List String)
  | _, [] => .ok []
  | index, .text name :: rest => do return name :: (← listedNames (index + 1) rest)
  | index, other :: _ =>
      .error (.host .wrongType
        s!"sequence item {index}: expected str instance, {other.typeName} found")

/-- Whether two values can be put in order: two texts can, two numbers, two runs of bytes, two
dates, and two moments that both have a time zone or both have none. -/
def areOrdered : Yaml → Yaml → Bool
  | .text _, .text _ => true
  | .bytes _, .bytes _ => true
  | .date .., .date .. => true
  | .moment _ zone, .moment _ other => zone.isSome == other.isSome
  | .float _, .float _ => true
  | .float _, other | other, .float _ => other.whole?.isSome
  | a, b => a.whole?.isSome && b.whole?.isSome

/-- The wording for a value that cannot be put in order with an earlier one. -/
def disorderMessage : (name earlier : Yaml) → String
  | .date .., .moment .. | .moment .., .date .. =>
      "can't compare datetime.datetime to datetime.date"
  | .moment .., .moment .. => "can't compare offset-naive and offset-aware datetimes"
  | name, earlier =>
      "'<' not supported between instances of '" ++ name.typeName ++ "' and '" ++
        earlier.typeName ++ "'"

/-- The names of unknown keys, in order. -/
def sortedNames (names : List Yaml) : Except SettingsFailure (List String) :=
  match names with
  | first :: second :: rest =>
      match (second :: rest).find? fun name => !areOrdered first name with
      | some name => .error (.host .wrongType (disorderMessage name first))
      | none => listedNames 0 (names.mergeSort fun a b => !b.precedes a)
  | _ => listedNames 0 names

/-- The value of a key. -/
def valueOf? (key : String) : List (Yaml × Yaml) → Option Yaml
  | [] => none
  | (.text name, value) :: rest => if name = key then some value else valueOf? key rest
  | _ :: rest => valueOf? key rest

/-- Whether a value is a key of settings. -/
def isKnownKey : Yaml → Bool
  | .text name => keys.contains name
  | _ => false

/-- Refuses keys that are not known. -/
def checkKeys (entries : List (Yaml × Yaml)) : Except SettingsFailure Unit :=
  match (entries.map Prod.fst).filter fun key => !isKnownKey key with
  | [] => .ok ()
  | unknown => do throw (.invalid (.unknownKeys (← sortedNames unknown)))

/-- The builtin that a value names. -/
def builtinOf? : Yaml → Option Builtin
  | .text name => Builtin.ofName? name
  | _ => none

/-- The builtins that a list names. -/
def builtinsOf (names : List Yaml) : Except SettingsFailure (List Builtin) :=
  match names.filter fun name => (builtinOf? name).isNone with
  | [] => .ok (names.filterMap builtinOf?)
  | unknown => do throw (.invalid (.unknownBuiltins (← listedNames 0 unknown)))

/-- The builtins to bind: those that are listed, or all without a list. -/
def builtinsFor : Option (List Yaml) → Except SettingsFailure (List Builtin)
  | some names => builtinsOf names
  | none => .ok Builtin.all

/-- The message for an integer that has too many digits to be written out. -/
def longIntegerMessage : String :=
  "Exceeds the limit (4300 digits) for integer string conversion; " ++
    "use sys.set_int_max_str_digits() to increase the limit"

/-- The message for values that are nested too deep to be written out. -/
def deepNestingMessage : String :=
  "maximum recursion depth exceeded while getting the repr of an object"

/-- Refuses a value that the host meets an obstacle in. -/
def refuseObstacle : Option Yaml.Obstacle → Except SettingsFailure Unit
  | none => .ok ()
  | some .digits => .error (.host .wrongValue longIntegerMessage)
  | some .depth => .error (.host .overflow deepNestingMessage)

/-- The seed that a value is. -/
def seedOf (room : Nat) : Yaml → Except SettingsFailure (Option Int)
  | .null => .ok none
  | .int n => .ok (some n)
  | other => do
      refuseObstacle (other.obstacle? room)
      throw (.invalid (.seedNotInteger other.literal))

/-- The level that a value names, in any case. -/
def levelOf (room : Nat) (value : Yaml) : Except SettingsFailure Level := do
  refuseObstacle (value.plainObstacle? room)
  match Level.ofLabel? (Text.upper value.plain) with
  | some level => .ok level
  | none => .error (.invalid .unknownLevel)

/-- The level to write at: the one that is named, or the level of warnings. -/
def levelFor (room : Nat) : Option Yaml → Except SettingsFailure Level
  | some value => levelOf room value
  | none => .ok .warning

/-- The module root that a value names. -/
def moduleRootOf (room : Nat) : Yaml → Except SettingsFailure (Option String)
  | .null => .ok none
  | other => do
      refuseObstacle (other.plainObstacle? room)
      return some other.plain

/-- The names of builtins in a table; without an entry, nothing. -/
def builtinNames? (entries : List (Yaml × Yaml)) : Except SettingsFailure (Option (List Yaml)) :=
  match valueOf? builtinsKey entries with
  | none => .ok none
  | some (.list names) => .ok (some names)
  | some _ => .error (.invalid .builtinsNotList)

/-- The settings that a table says; the host has room to write out so many levels of values inside
each other. -/
def ofTable (entries : List (Yaml × Yaml)) (room : Nat := Yaml.literalRoom) :
    Except SettingsFailure Settings := do
  checkKeys entries
  let names ← builtinNames? entries
  let moduleRoot ← moduleRootOf room ((valueOf? moduleRootKey entries).getD .null)
  let builtins ← builtinsFor names
  let seed ← seedOf room ((valueOf? randomSeedKey entries).getD .null)
  let level ← levelFor room (valueOf? logLevelKey entries)
  return {
    moduleRoot := moduleRoot
    builtins := builtins
    randomSeed := seed
    logLevel := level }

end Settings

end Scriptlet
