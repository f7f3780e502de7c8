import Scriptlet.Machine
import Scriptlet.Tree.Source

/-!
# Loading modules

A module is a program in a file of its own. Its path starts at the module root of the runner, or at
the working directory. Whatever goes wrong on the way from the file to the program is one kind of
script error, which names the path and the reason; but the host itself fails if the working
directory is gone, or if no file can have the path. Nothing is kept for a second time: each loading
reads the file anew and makes a unit of its own.
-/

namespace Scriptlet

/-- The path of the file that a path of a module means. -/
def modulePath (workingDirectory : String) (root : Option String) (path : String) : Path :=
  (Path.ofText (root.getD workingDirectory)).append (.ofText path)

/-- The failure to load a module for a reason. -/
def importFailure (path reason : String) : Fault :=
  .ofCause (.importFailed path reason)

/-- The failure to find the working directory. -/
def missingDirectory : Fault :=
  .host .missingKey "[Errno 2] No such file or directory"

/-- The failure to load a module whose file cannot be read. -/
def unreadableModule (path : String) : ReadFailure → Fault
  | .unopened failure _ => importFailure path failure.message
  | .undecodable fault => importFailure path fault.message
  | .invalidPath => .host .wrongValue ReadFailure.invalidPath.message

/-- The failure to load a module whose text is no program. -/
def invalidModule (path : String) : Fault → Fault
  | .script e => importFailure path (e.diagnostic.format false)
  | fault => fault

/-- Whether a path starts at a working directory that is gone. -/
def Disk.isAdrift (disk : Disk) (root : Option String) (path : String) : Bool :=
  !disk.hasWorkingDirectory && root.isNone && !(Path.ofText path).isAbsolute

/-- Refuses a path that starts at a working directory that is gone. -/
def requireDirectory (disk : Disk) (root : Option String) (path : String) : MachineM Unit :=
  if disk.isAdrift root path then throw missingDirectory else return ()

/-- Reads the text of a module for a runner: its program and its unit. -/
def readModule (room : Nat) (runner : RunnerId) (path file source : String) :
    MachineM (Program × UnitId) :=
  match Program.ofSource room source (some file) with
  | .error fault => throw (invalidModule path fault)
  | .ok program => do
      Machine.changeRunner runner fun current =>
        { current with sources := current.sources.put file source }
      return (program, ← Machine.addUnit)

/-- Loads the module at a path for a runner. -/
def loadModule (room : Nat) (runner : RunnerId) (path : String) : MachineM (Program × UnitId) := do
  let machine ← get
  let root := (machine.runner? runner).bind Runner.moduleRoot
  requireDirectory machine.disk root path
  let file := (modulePath machine.disk.workingDirectory root path).render
  Machine.onStore (Store.note .debug .loading s!"loading module {path} from {file}")
  modify fun machine => { machine with consulted := file :: machine.consulted }
  match machine.disk.readText file with
  | .error failure => throw (unreadableModule path failure)
  | .ok source => readModule room runner path file source

/-! ## Paths of the host

A path and a module root that the host gives may be no texts of scripts. -/

/-- Where a path of a module starts; an absolute path starts nowhere. -/
def Disk.moduleBase (disk : Disk) (root : Option Text.HostText) (path : Text.HostText) :
    Text.HostText :=
  if (Path.ofText path.shown).isAbsolute then []
  else root.getD (.ofString disk.workingDirectory)

/-- The file that a path of a module means. -/
def Disk.moduleFile (disk : Disk) (root : Option Text.HostText) (path : Text.HostText) : String :=
  (modulePath disk.workingDirectory (root.map Text.HostText.shown) path.shown).render

/-- What follows in the path of a file the first code points that can be in the name of a file. -/
def Disk.unencoded (disk : Disk) (root : Option Text.HostText) (path : Text.HostText) :
    Text.HostText :=
  match (disk.moduleBase root path).unencoded with
  | [] => path.unencoded
  | rest => rest

/-- Where in the path of a file the first code point stands that no name of a file can have. -/
def Disk.unencodedPlace (disk : Disk) (root : Option Text.HostText) (path : Text.HostText) : Nat :=
  let base := disk.moduleBase root path
  let file := match base.unencoded with
    | [] => disk.moduleFile root path.throughUnencoded
    | _ => (Path.ofText base.throughUnencoded.shown).render
  file.length - 1

/-- Refuses a path if no name of a file can have it. -/
def requireEncoded (disk : Disk) (root : Option Text.HostText) (path : Text.HostText) :
    MachineM Unit :=
  match disk.unencoded root path with
  | [] => return ()
  | rest =>
      throw (.host .wrongValue
        (Text.HostText.encodingMessage (disk.unencodedPlace root path) rest))

/-- Reads the text of the file that a path of a module means. -/
def Disk.readHostPath (disk : Disk) (root : Option Text.HostText) (path : Text.HostText) :
    Except ReadFailure String :=
  let base := disk.moduleBase root path
  let file := disk.moduleFile root path
  if base.toString?.isSome && path.toString?.isSome then disk.readText file
  else if file.toList.contains '\x00' then .error .invalidPath
  else decodeFile file (disk.unnamed base path)

/-- Loads the module at a path for a runner with a module root. -/
def loadPath (room : Nat) (runner : RunnerId) (root : Option Text.HostText)
    (path : Text.HostText) : MachineM (Program × UnitId) := do
  let machine ← get
  requireDirectory machine.disk (root.map Text.HostText.shown) path.shown
  let file := machine.disk.moduleFile root path
  Machine.onStore (Store.note .debug .loading s!"loading module {path.shown} from {file}")
  requireEncoded machine.disk root path
  modify fun machine => { machine with consulted := file :: machine.consulted }
  match machine.disk.readHostPath root path with
  | .error failure => throw (unreadableModule path.shown failure)
  | .ok source => readModule room runner path.shown file source

/-- The line of the source on which a span starts, if the runner knows the source. -/
def Runner.quotedLine (runner : Runner) (span : Span) : Option String :=
  let text :=
    if span.start.file = runner.file then some runner.source
    else span.start.file.bind runner.sources.get?
  text.bind (Text.line? · span.start.line)

end Scriptlet
