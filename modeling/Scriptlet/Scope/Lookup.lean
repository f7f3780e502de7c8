import Scriptlet.Machine
import Scriptlet.Member
import Scriptlet.Number.Reading
import Scriptlet.Text.Letter

/-!
# Looking names up

A name that no scope binds may still denote a value: the name of an array item such as `grid[1][2]`,
or a path of members such as `Math.floor`, is followed step by step from the name that it starts
with.
-/

namespace Scriptlet

/-- Whether a character may start the name of an array item. -/
def startsItemName (c : Char) : Bool :=
  ('a' ≤ c && c ≤ 'z') || ('A' ≤ c && c ≤ 'Z') || c == '_'

/-- The indices in brackets that make up a text, to its end or to a last line feed. At most `fuel`
indices are read. -/
def bracketedIndices : (fuel : Nat) → List Char → Option (List (List Char))
  | 0, _ => none
  | fuel + 1, '[' :: rest =>
      let index := rest.takeWhile fun c => c != '[' && c != ']'
      match rest.drop index.length with
      | [']'] => some [index]
      | [']', '\n'] => some [index]
      | ']' :: more => (bracketedIndices fuel more).map (index :: ·)
      | _ => none
  | _, _ => none

/-- The name of an array item taken apart: the name of the array and the indices. -/
def itemName? (name : String) : Option (String × List String) :=
  match name.toList with
  | [] => none
  | c :: rest =>
      if startsItemName c then
        let base := rest.takeWhile fun c => Text.isNamePart c || c == '.'
        (bracketedIndices name.length (rest.drop base.length)).map fun indices =>
          (String.ofList (c :: base), indices.map String.ofList)
      else none

/-- The item of an array that an index inside a name denotes. -/
def itemAt (store : Store) (name : String) (value : Value) (index : String) :
    Except Fault Value :=
  let refuse (failure : LookupFailure) : Except Fault Value :=
    .error (.ofCause (.undefinedName name failure))
  match value with
  | .array id =>
      match Number.read? index.toList with
      | none => refuse (.indexNotNumeric index)
      | some x =>
          match Number.toIndex? x (store.items id).size with
          | some i => .ok ((store.items id).getD i .absent)
          | none => refuse (.indexOutOfRange (String.ofList (Text.strip index.toList)))
  | other => refuse (.notIndexable other.kind)

/-- One step along a path of members. -/
def segmentOf (room : Nat) (name : String) (value : Value) (segment : String) : StoreM Value := do
  match value with
  | .absent => throw (.ofCause (.undefinedName name (.segmentOfAbsent segment)))
  | _ =>
      match ← Store.member? value segment with
      | some member => Store.memberValue room value member
      | none => throw (.ofCause (.undefinedName name (.noSegment segment)))

/-- Looks a name up from a scope. A path may start with the name of an item, and an item may belong
to an array that is the end of a path; deeper than `levels` names do not nest. -/
def lookupName (room : Nat) (scope : ScopeId) : (levels : Nat) → String → MachineM Value
  | 0, name => throw (.ofCause (.undefinedName name .unbound))
  | levels + 1, name => do
      match (← get).scopes.lookup? name scope with
      | some value => return value
      | none =>
          match itemName? name with
          | some (base, indices) =>
              let value ← lookupName room scope levels base
              Machine.askStore fun store => indices.foldlM (itemAt store name) value
          | none =>
              match (Text.cutAt '.' name.toList).map String.ofList with
              | first :: segment :: rest =>
                  let value ← lookupName room scope levels first
                  Machine.onStore ((segment :: rest).foldlM (segmentOf room name) value)
              | _ => throw (.ofCause (.undefinedName name .unbound))

/-- Looks a name, a path or the name of an item up from a scope. -/
def resolve (room : Nat) (scope : ScopeId) (name : String) : MachineM Value :=
  lookupName room scope 3 name

end Scriptlet
