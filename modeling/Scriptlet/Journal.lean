/-!
# Journals

A run keeps a journal beside its output. Every entry has a level and says which part of the program
wrote it.
-/

namespace Scriptlet

/-- The levels of journal entries, from the most to the least talkative. -/
inductive Level where
  | debug
  | info
  | warning
  | error
  | critical
  deriving DecidableEq, Repr, Inhabited

namespace Level

/-- The word for a level. -/
def label : Level → String
  | .debug => "DEBUG"
  | .info => "INFO"
  | .warning => "WARNING"
  | .error => "ERROR"
  | .critical => "CRITICAL"

/-- All levels, from the most to the least talkative. -/
def all : List Level :=
  [.debug, .info, .warning, .error, .critical]

/-- The level that a word names. -/
def ofLabel? (word : String) : Option Level :=
  all.find? fun level => level.label == word

/-- The place of a level among all levels. -/
def rank : Level → Nat
  | .debug => 0
  | .info => 1
  | .warning => 2
  | .error => 3
  | .critical => 4

@[simp]
theorem ofLabel?_label (level : Level) : ofLabel? level.label = some level := by
  cases level <;> decide

end Level

/-- The parts of the program that write to the journal. -/
inductive Origin where
  | script
  | tasks
  | loading
  deriving DecidableEq, Repr

/-- The name of an origin in a written journal. -/
def Origin.label : Origin → String
  | .script => "minilang.script"
  | .tasks => "minilang.runtime.tasks"
  | .loading => "minilang.runtime.loader"

/-- An entry of a journal. -/
structure Entry where
  level : Level
  origin : Origin
  message : String
  deriving DecidableEq, Repr

/-- An entry as a line of a written journal. -/
def Entry.render (entry : Entry) : String :=
  s!"{entry.level.label} {entry.origin.label}: {entry.message}"

end Scriptlet
