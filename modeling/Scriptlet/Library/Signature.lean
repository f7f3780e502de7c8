import Scriptlet.Fault

/-!
# Numbers of arguments

A host operation takes some arguments that must be given, some that may be given and possibly any
number of further ones. A call with a wrong number of arguments fails with a message that counts
them.
-/

namespace Scriptlet

/-- The arguments that an operation takes. -/
structure Signature where
  /-- What the operation is called in messages. -/
  label : String
  /-- The names of the arguments that must be given. -/
  required : List String := []
  /-- How many arguments may be given beyond the required ones. -/
  optional : Nat := 0
  /-- Whether any number of arguments may follow. -/
  variadic : Bool := false

namespace Signature

/-- The wording of how many arguments an operation takes. -/
def extent (signature : Signature) : String :=
  let least := signature.required.length
  if signature.optional = 0 then
    s!"{least} positional argument" ++ (if least = 1 then "" else "s")
  else s!"from {least} to {least + signature.optional} positional arguments"

/-- The message for too many arguments. -/
def excessMessage (signature : Signature) (given : Nat) : String :=
  s!"{signature.label}() takes {signature.extent} but {given} " ++
    (if given = 1 then "was" else "were") ++ " given"

/-- The message for too few arguments. -/
def missingMessage (signature : Signature) (given : Nat) : String :=
  let missing := signature.required.drop given
  s!"{signature.label}() missing {missing.length} required positional argument" ++
    (if missing.length = 1 then "" else "s") ++ ": " ++
    " and ".intercalate (missing.map fun name => "'" ++ name ++ "'")

/-- The message for a wrong number of arguments, if it is wrong. -/
def complaint? (signature : Signature) (given : Nat) : Option String :=
  if given < signature.required.length then some (signature.missingMessage given)
  else if !signature.variadic && signature.required.length + signature.optional < given then
    some (signature.excessMessage given)
  else none

/-- Checks the number of arguments of a call. -/
def check (signature : Signature) (given : Nat) : Except Fault Unit :=
  match signature.complaint? given with
  | some message => .error (.host .wrongType message)
  | none => .ok ()

end Signature

/-- Checks that an operation that takes no arguments is given none. -/
def refuseArguments (label : String) (given : Nat) : Except Fault Unit :=
  if given = 0 then .ok ()
  else .error (.host .wrongType s!"{label}() takes no arguments ({given} given)")

end Scriptlet
