import Scriptlet.Value
import Scriptlet.Assoc

/-!
# Scopes

A scope binds names to values and lies inside another scope, up to a root. A name is looked up from
the inside to the outside. A scope is always made after the scope around it, so the names of the
scopes on a path outwards decrease, and the name of the innermost scope bounds the length of the
path.
-/

namespace Scriptlet

/-- A scope. -/
structure Scope where
  /-- What the scope belongs to. -/
  name : String
  /-- The scope around it. -/
  parent : Option ScopeId
  bindings : Assoc Value := []
  deriving Repr, Inhabited

/-- All scopes of a run. -/
abbrev Scopes := Array Scope

namespace Scopes

/-- The nearest scope that binds a name, on a path of at most `bound` scopes outwards. -/
def binderWithin (scopes : Scopes) (name : String) : (bound : Nat) → ScopeId → Option ScopeId
  | 0, _ => none
  | bound + 1, id =>
      match scopes[id]? with
      | none => none
      | some scope =>
          if scope.bindings.has name then some id
          else match scope.parent with
            | some parent => binderWithin scopes name bound parent
            | none => none

/-- The nearest scope that binds a name. -/
def binder? (scopes : Scopes) (name : String) (id : ScopeId) : Option ScopeId :=
  scopes.binderWithin name (id + 1) id

/-- The value of a name, on a path of at most `bound` scopes outwards. -/
def lookupWithin (scopes : Scopes) (name : String) : (bound : Nat) → ScopeId → Option Value
  | 0, _ => none
  | bound + 1, id =>
      match scopes[id]? with
      | none => none
      | some scope =>
          match scope.bindings.get? name with
          | some value => some value
          | none => match scope.parent with
            | some parent => lookupWithin scopes name bound parent
            | none => none

/-- The value of a name. -/
def lookup? (scopes : Scopes) (name : String) (id : ScopeId) : Option Value :=
  scopes.lookupWithin name (id + 1) id

/-- The scopes from a scope outwards, at most `bound` of them. -/
def chainWithin (scopes : Scopes) : (bound : Nat) → ScopeId → List ScopeId
  | 0, _ => []
  | bound + 1, id =>
      id :: match scopes[id]?.bind Scope.parent with
        | some parent => chainWithin scopes bound parent
        | none => []

/-- The scopes from a scope outwards up to its root. -/
def chain (scopes : Scopes) (id : ScopeId) : List ScopeId :=
  scopes.chainWithin (id + 1) id

/-- The outermost scope around a scope. -/
def root (scopes : Scopes) (id : ScopeId) : ScopeId :=
  (scopes.chain id).getLast?.getD id

/-- Adds a scope inside another one, with some first bindings. -/
def child (scopes : Scopes) (name : String) (parent : ScopeId) (bindings : Assoc Value := []) :
    Scopes :=
  scopes.push { name := name, parent := some parent, bindings := bindings }

/-- Binds a name in a scope, whether or not the scope binds it already. -/
def define (scopes : Scopes) (id : ScopeId) (name : String) (value : Value) : Scopes :=
  scopes.modify id fun scope => { scope with bindings := scope.bindings.put name value }

/-- Gives a name a new value in the nearest scope that binds it, or binds it in the given scope. -/
def assign (scopes : Scopes) (id : ScopeId) (name : String) (value : Value) : Scopes :=
  scopes.define ((scopes.binder? name id).getD id) name value

end Scopes

end Scriptlet
