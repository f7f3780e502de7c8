import Scriptlet.CommandLine
import Std.Time.DateTime.Timestamp

/-!
# The program

Carries out the command on the real surroundings. A command is a function of the files that it
reads, and it says which paths those are. So it is carried out on the files that are known so far,
then the paths that it has named are read, and it is carried out again until it names no new path.
-/

namespace Scriptlet
namespace CommandLine

/-- Why a file could not be opened, by the number of the failure or its negative. -/
def openFailure (code : UInt32) (message : String) : OpenFailure :=
  match min code.toNat (-code).toNat with
  | 2 => .missing
  | 13 => .denied
  | 20 => .notDirectory
  | 21 => .isDirectory
  | 36 => .nameTooLong
  | code => .other code message

/-- Why a file could not be opened. -/
def failureOf : IO.Error → OpenFailure
  | .noFileOrDirectory _ code message
  | .interrupted _ code message
  | .invalidArgument _ code message
  | .permissionDenied _ code message
  | .resourceExhausted _ code message
  | .inappropriateType _ code message
  | .noSuchThing _ code message
  | .alreadyExists _ code message
  | .otherError code message
  | .resourceBusy code message
  | .resourceVanished code message
  | .unsupportedOperation code message
  | .hardwareFault code message
  | .unsatisfiedConstraints code message
  | .illegalOperation code message
  | .protocolError code message
  | .timeExpired code message => openFailure code message
  | .unexpectedEof => .other 5 "Input/output error"
  | .userError message => .other 5 message

/-- The files that have been read. -/
abbrev Known := List (String × Except OpenFailure (List UInt8))

/-- Reads the file at a path. -/
def readKnown (path : String) : IO (String × Except OpenFailure (List UInt8)) := do
  if path.toList.contains '\x00' then return (path, .error .missing)
  try
    return (path, .ok (← IO.FS.readBinFile path).toList)
  catch failure =>
    return (path, .error (failureOf failure))

/-- The disk that holds the files that have been read. -/
def Known.disk (known : Known) (workingDirectory : String) : Disk :=
  { workingDirectory := workingDirectory
    bytes := fun path => (known.lookup path).getD (.error .missing) }

/-- Carries out a command until it reads no file that is not known. -/
partial def settle (surroundings : Surroundings) (arguments : List String) (known : Known) :
    IO Result := do
  let disk := known.disk surroundings.disk.workingDirectory
  let result := run { surroundings with disk := disk } arguments
  let unknown := result.consulted.eraseDups.filter fun path => (known.lookup path).isNone
  if unknown.isEmpty then return result
  else
    let read ← unknown.mapM readKnown
    settle surroundings arguments (known ++ read)

/-- The surroundings of the program, without any file. -/
def surroundings : IO Surroundings := do
  let now ← Std.Time.Timestamp.now
  let seed ← IO.getRandomBytes 8
  return { disk := Known.disk [] (← IO.currentDir).toString
           settingsVariable := (← IO.getEnv Settings.variableName)
           clock := Float.ofInt now.toMillisecondsSinceUnixEpoch.val
           entropy := (seed.toList.foldl (fun n byte => n * 256 + byte.toNat) 0 : Nat) }

/-- The words for a command that breaks off. -/
def failureText : Failure → String
  | .settings (.invalid problem) => problem.message
  | .settings (.host _ message) => message
  | .settings (.undecodable message) => message
  | .fault (.script e) => e.diagnostic.format
  | .fault (.host _ message) => message
  | .fault .exhausted => "nesting used up the stack"
  | .fault .unfinished => "a loop went through too many rounds"

end CommandLine
end Scriptlet

/-- Carries out a command, prints what it leaves behind and ends with its code. -/
def main (arguments : List String) : IO UInt32 := do
  let surroundings ← Scriptlet.CommandLine.surroundings
  let result ← Scriptlet.CommandLine.settle surroundings arguments []
  match result.report with
  | .ok report =>
      IO.print report.output
      IO.eprint report.errors
      return report.code.toUInt32
  | .error failure =>
      IO.eprintln (Scriptlet.CommandLine.failureText failure)
      return 1
