import Scriptlet.Diagnostic
import Scriptlet.Kind

/-!
# Faults

Everything that can end a run before its last statement. A script error has a cause, which fixes its
code, its wording and its hints, and is located at the node that was being evaluated. The host may
fail on its own account, and deep nesting may exhaust the stack.
-/

namespace Scriptlet

/-- Why a name has no value. -/
inductive LookupFailure where
  /-- No scope binds the name. -/
  | unbound
  /-- A member was read from an undefined value. -/
  | memberOfAbsent
  /-- The described value has no such member. -/
  | noMember (owner member : String)
  /-- A value of this kind cannot be indexed. -/
  | notIndexable (kind : Kind)
  /-- The index denotes no item. -/
  | outOfRange
  /-- A segment of a dotted name was read from an undefined value. -/
  | segmentOfAbsent (segment : String)
  /-- A segment of a dotted name is no member of the value before it. -/
  | noSegment (segment : String)
  /-- An index inside a name is no number. -/
  | indexNotNumeric (index : String)
  /-- An index inside a name denotes no item. -/
  | indexOutOfRange (index : String)
  deriving DecidableEq, Repr

/-- The explanation that follows the name, if any. -/
def LookupFailure.reason? : LookupFailure → Option String
  | .unbound => none
  | .memberOfAbsent => some "member read from undefined"
  | .noMember owner member => some s!"{owner} has no member '{member}'"
  | .notIndexable kind => some s!"{kind.label} is not indexable"
  | .outOfRange => some "index out of range"
  | .segmentOfAbsent segment => some s!"'{segment}' read from undefined"
  | .noSegment segment => some s!"no member '{segment}'"
  | .indexNotNumeric index => some s!"non-numeric index '{index}'"
  | .indexOutOfRange index => some s!"index {index} out of range"

/-- How a value was used against its kind. -/
inductive Misuse where
  | operands (operator : String) (left right : Kind)
  | unknownOperator (operator : String)
  | negation (kind : Kind)
  | memberAssignment (member target : String)
  | requirePath (kind : Kind)
  /-- A host function failed with a message of its own. -/
  | hostCall (function message : String)
  | mathOperand (function shown : String)
  | mathArity (function : String) (expected got : Nat)
  | dateOperand (shown : String)
  | dateRange (shown : String)
  | jsonSource (kind : Kind)
  | jsonText (message : String)
  | taskFunction (kind : Kind)
  | taskHandle (operation : String) (kind : Kind)
  | sleepTime (kind : Kind)
  /-- A message that the host chose. -/
  | reported (message : String)
  deriving DecidableEq, Repr

/-- The wording of a misuse. -/
def Misuse.message : Misuse → String
  | .operands operator left right =>
      s!"unsupported operand kinds for '{operator}': {left.label} and {right.label}"
  | .unknownOperator operator => s!"unknown operator '{operator}'"
  | .negation kind => s!"cannot negate {kind.label}"
  | .memberAssignment member target => s!"cannot set member '{member}' on {target}"
  | .requirePath kind => s!"require expects a text path, got {kind.label}"
  | .hostCall function message => s!"{function}: {message}"
  | .mathOperand function shown => s!"Math.{function} expects numbers, got {shown}"
  | .mathArity function expected got =>
      s!"Math.{function} expects {expected} argument(s), got {got}"
  | .dateOperand shown => s!"Date expects milliseconds, got {shown}"
  | .dateRange shown => s!"Date value out of range: {shown}"
  | .jsonSource kind => s!"JSON.parse expects text, got {kind.label}"
  | .jsonText message => s!"JSON.parse: {message}"
  | .taskFunction kind => s!"Task.spawn expects a function, got {kind.label}"
  | .taskHandle operation kind => s!"Task.{operation} expects a task handle, got {kind.label}"
  | .sleepTime kind => s!"Task.sleep expects a number, got {kind.label}"
  | .reported message => message

/-- How the task operations were misused. -/
inductive TaskMisuse where
  | unknown (id : String)
  | joinInsideTask
  | joinCancelled
  deriving DecidableEq, Repr

/-- The wording of a misuse of tasks. -/
def TaskMisuse.message : TaskMisuse → String
  | .unknown id => s!"unknown task {id}"
  | .joinInsideTask => "cannot join a task from inside a running task"
  | .joinCancelled => "cannot join a cancelled task"

/-- The causes of script errors. -/
inductive Cause where
  | unexpectedCharacter (c : Char)
  | unterminatedText
  | unexpectedToken (expected found : String)
  | unexpectedEnd (expected : String)
  | invalidTarget
  | outsideLoop (keyword : String)
  | undefinedName (name : String) (failure : LookupFailure)
  | notCallable (what : String)
  | notConstructible (what : String)
  | misuse (use : Misuse)
  | tooDeep (limit : Nat)
  | importFailed (path reason : String)
  | task (use : TaskMisuse)
  deriving DecidableEq, Repr

/-- The families of script errors. -/
inductive Family where
  | lexical
  | grammar
  | binding
  | call
  | value
  | depth
  | importing
  | task
  deriving DecidableEq, Repr

namespace Cause

/-- The code of a cause. -/
def code : Cause → String
  | .unexpectedCharacter _ => "E001"
  | .unterminatedText => "E002"
  | .unexpectedToken .. => "E101"
  | .unexpectedEnd _ => "E102"
  | .invalidTarget => "E103"
  | .outsideLoop _ => "E104"
  | .undefinedName .. => "E201"
  | .notCallable _ => "E202"
  | .notConstructible _ => "E202"
  | .misuse _ => "E203"
  | .tooDeep _ => "E204"
  | .importFailed .. => "E301"
  | .task _ => "E401"

/-- The family of a cause. -/
def family : Cause → Family
  | .unexpectedCharacter _ | .unterminatedText => .lexical
  | .unexpectedToken .. | .unexpectedEnd _ | .invalidTarget | .outsideLoop _ => .grammar
  | .undefinedName .. => .binding
  | .notCallable _ | .notConstructible _ => .call
  | .misuse _ => .value
  | .tooDeep _ => .depth
  | .importFailed .. => .importing
  | .task _ => .task

/-- The wording of a cause. -/
def message : Cause → String
  | .unexpectedCharacter c => s!"unexpected character '{c}'"
  | .unterminatedText => "unterminated string literal"
  | .unexpectedToken expected found => s!"expected {expected}, found {found}"
  | .unexpectedEnd expected => s!"unexpected end of input, expected {expected}"
  | .invalidTarget => "invalid assignment target"
  | .outsideLoop keyword => s!"'{keyword}' outside of a loop"
  | .undefinedName name failure =>
      let explanation := match failure.reason? with
        | some reason => s!": {reason}"
        | none => ""
      s!"undefined variable '{name}'{explanation}"
  | .notCallable what => s!"{what} cannot be called"
  | .notConstructible what => s!"{what} cannot be constructed"
  | .misuse use => use.message
  | .tooDeep limit => s!"maximum call depth exceeded ({limit} nested calls)"
  | .importFailed path reason => s!"failed to import module \"{path}\": {reason}"
  | .task use => use.message

/-- The hints that go with a cause. -/
def hints : Cause → List String
  | .unterminatedText => ["string literals must be closed with matching quotes"]
  | .invalidTarget => ["only plain names can be assigned: name = value"]
  | .tooDeep _ => ["Check for unbounded recursion"]
  | _ => []

end Cause

/-- An error of a script. -/
structure ScriptError where
  cause : Cause
  /-- Where it arose, once that is known. -/
  span : Option Span := none
  /-- The line of the source on which the span starts. -/
  sourceLine : Option String := none
  /-- The task whose recorded failure this error is. -/
  task : Option Nat := none
  deriving DecidableEq, Repr

namespace ScriptError

/-- The diagnostic that reports an error. -/
def diagnostic (e : ScriptError) : Diagnostic :=
  { code := e.cause.code
    message := e.cause.message
    span := e.span
    sourceLine := e.sourceLine
    hints := e.cause.hints }

/-- Gives an error a location unless it has one. -/
def locate (e : ScriptError) (span : Span) (sourceLine : Option String) : ScriptError :=
  match e.span with
  | some _ => e
  | none => { e with span := some span, sourceLine := sourceLine }

end ScriptError

/-- The ways in which the host fails on its own account. -/
inductive HostFailure where
  | wrongType
  | wrongValue
  /-- A number is too large, or values are nested too deep. -/
  | overflow
  | zeroDivision
  /-- A key or a directory that is asked for is not there. -/
  | missingKey
  deriving DecidableEq, Repr

/-- Whether a failure inside a host function is reported to the script as a misuse. -/
def HostFailure.isReported : HostFailure → Bool
  | .missingKey => false
  | _ => true

/-- Whatever ends a run early. -/
inductive Fault where
  | script (error : ScriptError)
  | host (failure : HostFailure) (message : String)
  /-- Nesting used up the stack. -/
  | exhausted
  /-- A loop went through more rounds than a run can have. -/
  | unfinished
  deriving DecidableEq, Repr

namespace Fault

/-- A script error that has no location yet. -/
def ofCause (cause : Cause) : Fault :=
  .script { cause := cause }

/-- A misuse that has no location yet. -/
def ofMisuse (use : Misuse) : Fault :=
  .ofCause (.misuse use)

end Fault

end Scriptlet
