import Scriptlet.CommandLine.Arguments
import Scriptlet.Settings.File
import Scriptlet.Session
import Scriptlet.Tree.Outline

/-!
# The command line

Runs a script file, or only checks it or shows its tree. What is printed goes to the output; errors,
the usage and the journal go to the error output.
-/

namespace Scriptlet
namespace CommandLine

/-- How the command is used. -/
def usage : String :=
  "usage: minilang [-h] [--config CONFIG] [--check] [--dump-ast]\n" ++
    "                [--log-level LOG_LEVEL]\n" ++
    "                [file]\n"

/-- The help text. -/
def help : String :=
  usage ++
    "\nRun a minilang script\n" ++
    "\npositional arguments:\n" ++
    "  file                  Script file to run\n" ++
    "\noptions:\n" ++
    "  -h, --help            show this help message and exit\n" ++
    "  --config CONFIG       YAML configuration file (default: $MINILANG_CONFIG)\n" ++
    "  --check               Only lex and parse the script\n" ++
    "  --dump-ast            Print the parsed syntax tree instead of running\n" ++
    "  --log-level LOG_LEVEL\n" ++
    "                        Logging level (overrides the configuration)\n"

/-- What a command leaves behind. -/
structure Report where
  code : Nat
  output : String := ""
  errors : String := ""
  deriving DecidableEq, Repr

/-- Why a command breaks off without a report. -/
inductive Failure where
  | settings (failure : SettingsFailure)
  | fault (fault : Fault)
  deriving DecidableEq, Repr

/-- The result of a command, with the paths that it has read. -/
structure Result where
  report : Except Failure Report
  consulted : List String := []

/-- What surrounds a command: the files, the value of the variable that names the settings, the time
and a seed for random numbers. -/
structure Surroundings where
  disk : Disk
  settingsVariable : Option String := none
  clock : Float := 0.0
  entropy : Int := 0

/-- The least level of journal entries that a word chooses; an unknown word means warnings. -/
def levelOf (word : String) : Level :=
  match Text.upper word with
  | "WARN" => .warning
  | "FATAL" => .critical
  | "NOTSET" => .debug
  | word => (Level.ofLabel? word).getD .warning

/-- The written journal from a level on. -/
def journalText (level : Level) (entries : List Entry) : String :=
  String.join ((entries.filter fun entry => level.rank ≤ entry.level.rank).map
    fun entry => entry.render ++ "\n")

/-- The report of a script that cannot be read or run. -/
def errorReport (message : String) : Report :=
  { code := 1, errors := message ++ "\n" }

/-- The tree of a program as text. -/
def treeText (program : Program) : String :=
  String.join (((Outline.ofProgram program).lines 0).map (· ++ "\n"))

/-- The line that reports a successful check. -/
def checkText (path : Path) (program : Program) : String :=
  s!"OK: {path.lastName} - {program.body.length} statement(s)\n"

/-- A machine for a command. -/
def newMachine (surroundings : Surroundings) : Machine :=
  { disk := surroundings.disk, store := { clock := surroundings.clock } }

/-- Runs a program on a new scope with builtins. The scope is released before the value is shown,
and after an error is reported. -/
def runScript (surroundings : Surroundings) (settings : Settings) (level : Level)
    (source file : String) (program : Program) : Result :=
  let start : MachineM ScopeId := openEnvironment settings surroundings.entropy
  match start (newMachine surroundings) with
  | .error fault machine => ⟨.error (.fault fault), machine.consulted⟩
  | .ok scope machine =>
      let run : MachineM Value := do
        let runner ← Machine.addRunner
          { source := source
            file := some file
            moduleRoot := settings.moduleRoot
            globals := scope }
        runProgram runner (← Machine.addUnit) scope program
      let (outcome, ran) := match run machine with
        | .ok value machine => (Except.ok value, machine)
        | .error fault machine => (Except.error fault, machine)
      let released := match releaseEnvironment scope ran with
        | .ok _ machine => machine
        | .error _ machine => machine
      let before := ran.store.journal.toList
      let after := released.store.journal.toList.drop before.length
      let report := match outcome with
        | .ok value =>
            match released.store.display (stackRoom released.depthLimit) false value with
            | .ok shown =>
                .ok
                  { code := 0
                    output := released.store.output ++ shown ++ "\n"
                    errors := journalText level (before ++ after) }
            | .error fault => .error (.fault fault)
        | .error (.script e) =>
            .ok
              { code := 1
                output := released.store.output
                errors := journalText level before ++ e.diagnostic.format ++ "\n" ++
                  journalText level after }
        | .error fault => .error (.fault fault)
      ⟨report, released.consulted⟩

/-- Handles a script that has been read. -/
def handleScript (surroundings : Surroundings) (settings : Settings) (request : Request)
    (path : Path) (source : String) : Result :=
  let file := path.render
  let level := match request.logLevel with
    | some word => if word.isEmpty then settings.logLevel else levelOf word
    | none => settings.logLevel
  match readProgram source (some file) (newMachine surroundings) with
  | .error (.script e) _ => ⟨.ok (errorReport e.diagnostic.format), []⟩
  | .error fault _ => ⟨.error (.fault fault), []⟩
  | .ok program _ =>
      let tree := if request.dumpTree then treeText program else ""
      if request.check then ⟨.ok { code := 0, output := tree ++ checkText path program }, []⟩
      else if request.dumpTree then ⟨.ok { code := 0, output := tree }, []⟩
      else runScript surroundings settings level source file program

/-- Carries out a request for a script file. -/
def handleFile (surroundings : Surroundings) (request : Request) (name : String) : Result :=
  let settingsPath := (Settings.filePath? request.config surroundings.settingsVariable).toList
  match Settings.load surroundings.disk request.config surroundings.settingsVariable with
  | .error (.invalid problem) => ⟨.ok (errorReport ("Error: " ++ problem.message)), settingsPath⟩
  | .error failure => ⟨.error (.settings failure), settingsPath⟩
  | .ok settings =>
      let path := Path.ofText name
      let consulted := path.render :: settingsPath
      match surroundings.disk.readText path.render with
      | .error .invalidPath =>
          ⟨.error (.fault (.host .wrongValue ReadFailure.invalidPath.message)), consulted⟩
      | .error failure =>
          ⟨.ok (errorReport s!"Error: cannot read {path.render}: {failure.message}"), consulted⟩
      | .ok source =>
          let result := handleScript surroundings settings request path source
          { result with consulted := result.consulted ++ consulted }

/-- Carries out what the arguments ask for. -/
def run (surroundings : Surroundings) (arguments : List String) : Result :=
  match commandOf arguments with
  | .error problem =>
      ⟨.ok { code := 2, errors := usage ++ s!"minilang: error: {problem.message}\n" }, []⟩
  | .ok .help => ⟨.ok { code := 0, output := help }, []⟩
  | .ok (.run request) =>
      match request.file with
      | none | some "" => ⟨.ok { code := 1, errors := usage }, []⟩
      | some name => handleFile surroundings request name

end CommandLine
end Scriptlet
