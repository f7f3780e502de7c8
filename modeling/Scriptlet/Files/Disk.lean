import Scriptlet.Files.Path
import Scriptlet.Text.CodePoint
import Scriptlet.Text.Utf8
import Scriptlet.Text.Lines
import Scriptlet.Assoc

/-!
# Files

A disk gives the bytes of the file at a path or says why there are none. A tree of directories and
files makes a disk on which paths are followed name by name. Text files are read as UTF-8, and every
line ends with a line feed.
-/

namespace Scriptlet

/-- Why a file cannot be opened. -/
inductive OpenFailure where
  | missing
  | notDirectory
  | isDirectory
  | nameTooLong
  | denied
  /-- Another failure, with its number and its wording. -/
  | other (code : Nat) (message : String)
  deriving DecidableEq, Repr

namespace OpenFailure

/-- The number of a failure. -/
def code : OpenFailure → Nat
  | .missing => 2
  | .denied => 13
  | .notDirectory => 20
  | .isDirectory => 21
  | .nameTooLong => 36
  | .other code _ => code

/-- The wording of a failure. -/
def message : OpenFailure → String
  | .missing => "No such file or directory"
  | .denied => "Permission denied"
  | .notDirectory => "Not a directory"
  | .isDirectory => "Is a directory"
  | .nameTooLong => "File name too long"
  | .other _ message => message

end OpenFailure

/-- Why a text file cannot be read. -/
inductive ReadFailure where
  | unopened (failure : OpenFailure) (path : String)
  | undecodable (fault : Text.Utf8Fault)
  /-- The path holds a character that no path may hold. -/
  | invalidPath
  deriving DecidableEq, Repr

/-- The wording of a failure to read a file. -/
def ReadFailure.message : ReadFailure → String
  | .unopened failure path =>
      s!"[Errno {failure.code}] {failure.message}: {Text.quoted path}"
  | .undecodable fault => fault.message
  | .invalidPath => "embedded null byte"

/-- The files that a run can read. -/
structure Disk where
  /-- The path of the working directory. -/
  workingDirectory : String
  /-- Whether the working directory has not been removed. -/
  hasWorkingDirectory : Bool := true
  bytes : String → Except OpenFailure (List UInt8)
  /-- The bytes of the file at a path from a base if one of them is no text of a script. -/
  unnamed : (base path : Text.HostText) → Except OpenFailure (List UInt8) :=
    fun _ _ => .error .missing

/-- The text of the file at a path, from its bytes. -/
def decodeFile (path : String) : Except OpenFailure (List UInt8) → Except ReadFailure String
  | .error failure => .error (.unopened failure path)
  | .ok bytes =>
      match Text.decodeUtf8 bytes with
      | .error fault => .error (.undecodable fault)
      | .ok text => .ok (String.ofList (Text.normalizeBreaks text))

/-- Reads the text of the file at a path. -/
def Disk.readText (disk : Disk) (path : String) : Except ReadFailure String :=
  if path.toList.contains '\x00' then .error .invalidPath
  else decodeFile path (disk.bytes path)

/-- Directories and files. -/
inductive FileTree where
  | file (bytes : List UInt8)
  | directory (entries : List (String × FileTree))

namespace FileTree

/-- The longest name of a file, in bytes. -/
def nameLimit : Nat := 255

/-- The longest path, in bytes. -/
def pathLimit : Nat := 4095

/-- The entry of a directory. -/
def namedChild? : List (String × FileTree) → String → Option FileTree
  | [], _ => none
  | (key, tree) :: rest, name => if key = name then some tree else namedChild? rest name

/-- Follows names from a tree; `above` holds the directories above it, the nearest first. -/
def follow : List String → (above : List FileTree) → FileTree → Except OpenFailure FileTree
  | [], _, tree => .ok tree
  | _ :: _, _, .file _ => .error .notDirectory
  | name :: rest, above, .directory entries =>
      if name = ".." then
        match above with
        | [] => follow rest [] (.directory entries)
        | parent :: others => follow rest others parent
      else if nameLimit < name.utf8ByteSize then .error .nameTooLong
      else match namedChild? entries name with
        | none => .error .missing
        | some tree => follow rest (.directory entries :: above) tree

/-- Puts a tree at a place, making the directories on the way. -/
def insert (tree : FileTree) : List String → FileTree → FileTree
  | [], .directory entries =>
      match tree with
      | .directory _ => .directory entries
      | .file bytes => .file bytes
  | [], .file _ => tree
  | name :: rest, .file _ => .directory [(name, insert tree rest (.directory []))]
  | name :: rest, .directory entries =>
      .directory (Assoc.put entries name
        (insert tree rest ((namedChild? entries name).getD (.directory []))))

/-- The disk with the given root directory. -/
def disk (tree : FileTree) (workingDirectory : String) : Disk :=
  { workingDirectory := workingDirectory
    bytes := fun text =>
      let path := Path.append (.ofText workingDirectory) (.ofText text)
      if pathLimit < text.utf8ByteSize then .error .nameTooLong
      else match follow path.names [] tree with
        | .error failure => .error failure
        | .ok (.directory _) => .error .isDirectory
        | .ok (.file bytes) => .ok bytes }

end FileTree

end Scriptlet
