import Scriptlet.Settings
import Scriptlet.Yaml.Reader
import Scriptlet.Files.Disk

/-!
# Settings in files

Settings are read from a YAML file. The path of the file is given, or an environment variable names
it; without either the defaults apply, as they do for a file that says nothing.
-/

namespace Scriptlet
namespace Settings

/-- The environment variable that names the file. -/
def variableName : String := "MINILANG_CONFIG"

/-- The settings that a document of a file says. -/
def ofDocument (path : String) (document : Yaml) : Except SettingsFailure Settings :=
  if document.isEmpty then ofTable []
  else match document with
    | .table entries => ofTable entries
    | _ => .error (.invalid (.notTable path))

/-- The settings of a file. -/
def ofFile (disk : Disk) (path : String) : Except SettingsFailure Settings :=
  match disk.readText path with
  | .error .invalidPath => .error (.host .wrongValue ReadFailure.invalidPath.message)
  | .error (.undecodable fault) => .error (.undecodable fault.message)
  | .error (.unopened failure file) =>
      .error (.invalid (.unreadable path (ReadFailure.unopened failure file).message))
  | .ok text =>
      match Yaml.read? text.toList with
      | none => .error (.invalid (.malformed path))
      | some document => ofDocument path document

/-- The path of the file of settings: the path that is given or else the value of the variable,
unless it is empty. -/
def filePath? (path fallback : Option String) : Option String :=
  match path with
  | some path => some (Path.ofText path).render
  | none => match fallback with
    | some value => if value.isEmpty then none else some (Path.ofText value).render
    | none => none

/-- The settings for a path and the value of the variable. -/
def load (disk : Disk) (path fallback : Option String) : Except SettingsFailure Settings :=
  match filePath? path fallback with
  | some path => ofFile disk path
  | none => .ok {}

end Settings
end Scriptlet
