import Scriptlet.Proofs.Evaluator.Course

/-!
# What stays of the scopes

Code binds names in the scope that it runs in and nowhere else.  Other scopes may get other values
for the names that they bind, and new scopes may come, but no scope loses a name or moves to another
parent.
-/

namespace Scriptlet

namespace Assoc

variable {α : Type}

theorem names_put_of_has {table : Assoc α} {name : String} (value : α)
    (bound : table.has name = true) : (table.put name value).names = table.names := by
  induction table with
  | nil => cases bound
  | cons entry rest ih =>
      by_cases same : entry.1 = name
      · simp [put, names, same]
      · have later : has rest name = true := by simpa [has, get?, same] using bound
        simpa [put, names, same] using ih later

/-- Putting a name in keeps the names before it in their order. -/
theorem names_prefix_put (table : Assoc α) (name : String) (value : α) :
    table.names <+: (table.put name value).names := by
  induction table with
  | nil => exact List.nil_prefix
  | cons entry rest ih =>
      by_cases same : entry.1 = name
      · simp [put, names, same]
      · simpa [put, names, same] using ih

end Assoc

namespace Scopes

/-- Every scope is still there with its parent and has kept its names; where names may not grow, it
binds exactly the same names. -/
def Framed (grows : ScopeId → Prop) (before after : Scopes) : Prop :=
  ∀ id (old : Scope), before[id]? = some old →
    ∃ new : Scope, after[id]? = some new ∧ new.parent = old.parent ∧
      old.bindings.names <+: new.bindings.names ∧
      (¬ grows id → new.bindings.names = old.bindings.names)

namespace Framed

variable {grows : ScopeId → Prop} {before middle after : Scopes}

theorem refl (grows : ScopeId → Prop) (scopes : Scopes) : Framed grows scopes scopes :=
  fun _ old found => ⟨old, found, rfl, List.prefix_refl _, fun _ => rfl⟩

theorem trans (first : Framed grows before middle) (second : Framed grows middle after) :
    Framed grows before after := by
  intro id old found
  obtain ⟨between, foundBetween, parentBetween, namesBetween, sameBetween⟩ := first id old found
  obtain ⟨new, foundNew, parentNew, namesNew, sameNew⟩ := second id between foundBetween
  exact ⟨new, foundNew, parentNew.trans parentBetween, namesBetween.trans namesNew,
    fun outside => (sameNew outside).trans (sameBetween outside)⟩

/-- Names may grow in places where there is no scope. -/
theorem mono {fewer : ScopeId → Prop} (framed : Framed grows before after)
    (absent : ∀ id, grows id → fewer id ∨ before.size ≤ id) : Framed fewer before after := by
  intro id old found
  obtain ⟨new, foundNew, parent, names, same⟩ := framed id old found
  refine ⟨new, foundNew, parent, names, fun outside => same fun inside => ?_⟩
  have present := (Array.getElem?_eq_some_iff.mp found).1
  rcases absent id inside with inside | beyond
  · exact outside inside
  · omega

end Framed

/-- The scope that a name is looked up in binds it. -/
theorem binderWithin_has {scopes : Scopes} {name : String} {bound : Nat} {id binder : ScopeId}
    (found : scopes.binderWithin name bound id = some binder) :
    ∃ scope : Scope, scopes[binder]? = some scope ∧ scope.bindings.has name = true := by
  induction bound generalizing id with
  | zero => cases found
  | succ bound ih =>
      unfold binderWithin at found
      split at found
      · cases found
      · rename_i scope present
        split at found
        · rename_i binds
          cases found
          exact ⟨scope, present, binds⟩
        · split at found
          · exact ih found
          · cases found

theorem define_framed (scopes : Scopes) (id : ScopeId) (name : String) (value : Value) :
    Framed (· = id) scopes (scopes.define id name value) := by
  intro other old found
  by_cases same : other = id
  · subst same
    refine ⟨{ old with bindings := old.bindings.put name value }, ?_, rfl,
      Assoc.names_prefix_put _ _ _, fun outside => absurd rfl outside⟩
    simp [define, Array.getElem?_modify, found]
  · refine ⟨old, ?_, rfl, List.prefix_refl _, fun _ => rfl⟩
    simp [define, Array.getElem?_modify, Ne.symm same, found]

/-- Binding a name again changes no names. -/
theorem define_framed_of_has {scopes : Scopes} {id : ScopeId} {name : String} (value : Value)
    {scope : Scope} (present : scopes[id]? = some scope) (bound : scope.bindings.has name = true) :
    Framed (fun _ => False) scopes (scopes.define id name value) := by
  intro other old found
  obtain ⟨new, foundNew, parent, names, same⟩ := define_framed scopes id name value other old found
  refine ⟨new, foundNew, parent, names, fun _ => ?_⟩
  by_cases here : other = id
  · subst here
    obtain rfl := Option.some.inj (present.symm.trans found)
    have new_eq : new = { scope with bindings := scope.bindings.put name value } := by
      simpa [define, Array.getElem?_modify, found, eq_comm] using foundNew
    rw [new_eq]
    exact Assoc.names_put_of_has value bound
  · exact same here

/-- An assignment binds a new name in the scope it is made from only. -/
theorem assign_framed (scopes : Scopes) (id : ScopeId) (name : String) (value : Value) :
    Framed (· = id) scopes (scopes.assign id name value) := by
  unfold assign
  cases found : scopes.binder? name id with
  | none => exact define_framed scopes id name value
  | some binder =>
      obtain ⟨scope, present, bound⟩ := binderWithin_has found
      exact (define_framed_of_has value present bound).mono fun _ inside => inside.elim

theorem push_framed (scopes : Scopes) (opened : Scope) :
    Framed (fun _ => False) scopes (scopes.push opened) := by
  intro id old found
  refine ⟨old, ?_, rfl, List.prefix_refl _, fun _ => rfl⟩
  have present := (Array.getElem?_eq_some_iff.mp found).1
  rw [Array.getElem?_push, if_neg (Nat.ne_of_lt present), found]

end Scopes

/-- Along a course of a scope, names come to that scope only. -/
theorem Machine.Course.framed {kind : List Stmt → Prop} {scope : ScopeId} {before after : Machine}
    (course : before.Course kind scope after) :
    before.scopes.Framed (· = scope) after.scopes := by
  induction course with
  | trans _ _ first second => exact first.trans second
  | define scope machine name value => exact Scopes.define_framed _ scope name value
  | assign scope machine name value => exact Scopes.assign_framed _ scope name value
  | @inside scope machine after opened _ inner =>
      have pushed := Scopes.push_framed machine.scopes opened
      -- The new scope is not among the scopes that were there before.
      refine ((pushed.mono ?_).trans inner).mono ?_
      · exact fun _ inside => inside.elim
      · exact fun _ inside => .inr (Nat.le_of_eq inside.symm)
  | _ => exact .refl _ _

/-- A course of all scopes is a course of none: no scope gets a name. -/
theorem framed_of_follows {α : Type} {kind : List Stmt → Prop} {steps : MachineM α}
    {machine : Machine} (satisfied : machine.BodiesSatisfy kind)
    (follows : ∀ scope, Follows kind scope steps machine) :
    machine.scopes.Framed (fun _ => False) (endState (steps machine)).scopes :=
  (follows machine.scopes.size satisfied).framed.mono
    fun _ inside => .inr (Nat.le_of_eq inside.symm)

/-- The kind that all code is of. -/
def CodeKind.any : CodeKind where
  expression _ := True
  statement _ := True
  body _ := True
  part _ _ := trivial
  function _ := trivial
  operand _ _ := trivial
  inner _ _ := trivial
  named _ := trivial
  member _ _ := trivial
  program _ := trivial

/-- However a statement ends, names have come to the scope that it runs in only, and after a block
not even there; no scope has lost a name or its parent.  A call brings names to no scope at all. -/
theorem execute_framed (context : Context) (room : Nat) (statement : Stmt) (machine : Machine) :
    machine.scopes.Framed (· = context.scope)
        (endState (execute context room statement machine)).scopes ∧
      (∀ (span : Span) (statements : List Stmt),
        machine.scopes.Framed (fun _ => False)
          (endState (execute context room (.block span statements) machine)).scopes) ∧
      ∀ (runner : RunnerId) (callee : Value) (arguments : List Value),
        machine.scopes.Framed (fun _ => False)
          (endState (callValue runner room callee arguments machine)).scopes := by
  have satisfied : machine.BodiesSatisfy CodeKind.any.body := fun _ _ => trivial
  have follows := roomFollows CodeKind.any room
  refine ⟨(follows.execute context trivial machine satisfied).framed, ?_, ?_⟩
  · intro span statements
    refine framed_of_follows satisfied fun scope => ?_
    exact block_follows (fun less _ => roomFollows CodeKind.any less) context trivial scope machine
  · intro runner callee arguments
    exact framed_of_follows satisfied fun scope =>
      follows.callValue scope runner callee arguments machine

end Scriptlet
