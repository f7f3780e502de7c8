import Scriptlet.Text.Split

/-!
# Paths of files

A path is a root and a list of names. Empty names and single dots are dropped when a path is read;
two dots are kept. Exactly two slashes at the start of a path are kept, any other number counts as
one.
-/

namespace Scriptlet

/-- Where a path starts. -/
inductive PathRoot where
  /-- At the working directory. -/
  | relative
  /-- At the root of all files. -/
  | slash
  /-- At the root of all files, written with two slashes. -/
  | doubleSlash
  deriving DecidableEq, Repr

/-- How a root is written. -/
def PathRoot.text : PathRoot → String
  | .relative => ""
  | .slash => "/"
  | .doubleSlash => "//"

/-- A path. -/
structure Path where
  root : PathRoot
  names : List String
  deriving DecidableEq, Repr

namespace Path

/-- The root that a text starts with. -/
def rootOf (text : List Char) : PathRoot :=
  match (text.takeWhile (· = '/')).length with
  | 0 => .relative
  | 2 => .doubleSlash
  | _ => .slash

/-- Reads a path. -/
def ofText (text : String) : Path :=
  { root := rootOf text.toList
    names := ((Text.cutAt '/' text.toList).map String.ofList).filter
      fun name => name != "" && name != "." }

/-- The text of a path; the empty path is a dot. -/
def render (path : Path) : String :=
  match path.root, path.names with
  | .relative, [] => "."
  | root, names => root.text ++ "/".intercalate names

/-- Whether a path does not depend on the working directory. -/
def isAbsolute (path : Path) : Bool :=
  path.root != .relative

/-- A path taken from another one. -/
def append (base path : Path) : Path :=
  if path.isAbsolute then path else { base with names := base.names ++ path.names }

/-- The last name of a path, empty if there is none. -/
def lastName (path : Path) : String :=
  path.names.getLast?.getD ""

end Path

end Scriptlet
