import Scriptlet.Scope

/-!
# Assignments in a forest of scopes

An assignment goes to the nearest scope outwards that binds the name, or makes a binding where it
stands.  One binding changes, so of all lookups only those change whose nearest scope with the name
is the one that the assignment went to.
-/

namespace Scriptlet

namespace Scopes

/-! ## Forests -/

/-- The forests that come of making scopes, alone or inside one another, and of binding names. -/
inductive Built : Scopes → Prop where
  | empty : Built #[]
  | alone {scopes : Scopes} (name : String) (bindings : Assoc Value) :
      Built scopes → Built (scopes.push { name := name, parent := none, bindings := bindings })
  | child {scopes : Scopes} (name : String) {parent : ScopeId} (bindings : Assoc Value) :
      Built scopes → parent < scopes.size → Built (scopes.child name parent bindings)
  | define {scopes : Scopes} (id : ScopeId) (name : String) (value : Value) :
      Built scopes → Built (scopes.define id name value)

/-- The scope around a scope. -/
def parent? (scopes : Scopes) (id : ScopeId) : Option ScopeId :=
  scopes[id]?.bind Scope.parent

/-- What a scope itself binds a name to. -/
def valueIn? (scopes : Scopes) (scope : ScopeId) (name : String) : Option Value :=
  (scopes[scope]?.map Scope.bindings).bind (Assoc.get? · name)

/-- A scope itself binds a name. -/
def Binds (scopes : Scopes) (id : ScopeId) (name : String) : Prop :=
  (scopes.valueIn? id name).isSome = true

/-- The way outwards from one scope to another passes the scopes in the list, the first scope
among them and the last one not. -/
inductive Path (scopes : Scopes) : ScopeId → List ScopeId → ScopeId → Prop where
  | here (id : ScopeId) : Path scopes id [] id
  | out {id parent outer : ScopeId} {below : List ScopeId} : scopes.parent? id = some parent →
      Path scopes parent below outer → Path scopes id (id :: below) outer

/-- A name is visible from a scope as far out as the other scope: no scope before it binds it. -/
def Reaches (scopes : Scopes) (name : String) (id outer : ScopeId) : Prop :=
  ∃ below, scopes.Path id below outer ∧ ∀ passed ∈ below, ¬ scopes.Binds passed name

/-- The nearest scope outwards that binds a name. -/
def Nearest (scopes : Scopes) (name : String) (id binder : ScopeId) : Prop :=
  scopes.Reaches name id binder ∧ scopes.Binds binder name

/-- Every scope is made after the one around it. -/
def Grounded (scopes : Scopes) : Prop :=
  ∀ id parent, scopes.parent? id = some parent → parent < id

variable {scopes : Scopes} {id : ScopeId} {name : String}

theorem parent?_push (opened : Scope) : parent? (scopes.push opened) id =
    if id = scopes.size then opened.parent else scopes.parent? id := by
  unfold parent?
  rw [Array.getElem?_push]
  split <;> rfl

@[simp]
theorem parent?_define (place : ScopeId) (value : Value) :
    (scopes.define place name value).parent? id = scopes.parent? id := by
  unfold parent? define
  rw [Array.getElem?_modify]
  split
  · cases scopes[id]? <;> rfl
  · rfl

theorem Grounded.push (grounded : scopes.Grounded) {opened : Scope}
    (earlier : ∀ parent, opened.parent = some parent → parent < scopes.size) :
    Grounded (scopes.push opened) := by
  intro id parent around
  rw [parent?_push] at around
  split at around
  · rename_i new
    exact new ▸ earlier parent around
  · exact grounded id parent around

theorem Built.grounded (built : scopes.Built) : scopes.Grounded := by
  induction built with
  | empty => exact nofun
  | alone name bindings _ ih => exact ih.push nofun
  | child name bindings _ present ih =>
      refine ih.push ?_
      rintro _ ⟨⟩
      exact present
  | define id name value _ ih =>
      intro id parent around
      exact ih id parent (parent?_define _ _ ▸ around)

/-! ## Bindings -/

theorem valueIn?_push {value : Value} (held : scopes.valueIn? id name = some value)
    (opened : Scope) : valueIn? (scopes.push opened) id name = some value := by
  unfold valueIn? at held ⊢
  obtain ⟨bindings, found, -⟩ := Option.bind_eq_some_iff.mp held
  obtain ⟨old, present, -⟩ := Option.map_eq_some_iff.mp found
  have inside := (Array.getElem?_eq_some_iff.mp present).1
  rw [Array.getElem?_push, if_neg (Nat.ne_of_lt inside)]
  exact held

/-- Binding another name anywhere leaves the value. -/
theorem valueIn?_define_of_ne {other : String} (different : other ≠ name) (place : ScopeId)
    (newValue : Value) :
    (scopes.define place other newValue).valueIn? id name = scopes.valueIn? id name := by
  unfold valueIn? define
  rw [Array.getElem?_modify]
  split
  · cases scopes[id]? with
    | none => rfl
    | some old => exact Assoc.get?_put_of_ne _ _ different
  · rfl

theorem valueIn?_define_self (present : id < scopes.size) (name : String) (newValue : Value) :
    (scopes.define id name newValue).valueIn? id name = some newValue := by
  unfold valueIn? define
  rw [Array.getElem?_modify, if_pos rfl, Array.getElem?_eq_getElem present]
  exact Assoc.get?_put_self ..

theorem valueIn?_define_elsewhere {place : ScopeId} (elsewhere : place ≠ id) (other : String)
    (newValue : Value) :
    (scopes.define place other newValue).valueIn? id name = scopes.valueIn? id name := by
  unfold valueIn? define
  rw [Array.getElem?_modify, if_neg elsewhere]

/-- A definition is the one binding that changes. -/
theorem valueIn?_define {place : ScopeId} (present : place < scopes.size) (new : String)
    (value : Value) : (scopes.define place new value).valueIn? id name =
      if id = place ∧ name = new then some value else scopes.valueIn? id name := by
  by_cases same : id = place
  · subst same
    by_cases named : name = new
    · subst named
      rw [if_pos ⟨rfl, rfl⟩, valueIn?_define_self present]
    · rw [if_neg fun both => named both.2, valueIn?_define_of_ne (Ne.symm named)]
  · rw [if_neg fun both => same both.1, valueIn?_define_elsewhere (Ne.symm same)]

/-! ## Lookups -/

/-- The way outwards does not depend on what the scopes bind. -/
theorem path_define {place : ScopeId} {value : Value} {below : List ScopeId} {outer : ScopeId} :
    (scopes.define place name value).Path id below outer ↔ scopes.Path id below outer := by
  constructor
  · intro path
    induction path with
    | here id => exact .here id
    | out around _ ih => exact .out (parent?_define _ _ ▸ around) ih
  · intro path
    induction path with
    | here id => exact .here id
    | out around _ ih => exact .out ((parent?_define _ _).trans around) ih

theorem Path.le (grounded : scopes.Grounded) {below : List ScopeId} {outer : ScopeId}
    (path : scopes.Path id below outer) : outer ≤ id := by
  induction path with
  | here => exact Nat.le_refl _
  | out around _ ih => exact Nat.le_trans ih (Nat.le_of_lt (grounded _ _ around))

/-- A scope that binds the name is the nearest from itself. -/
theorem Nearest.here (binds : scopes.Binds id name) : scopes.Nearest name id id :=
  ⟨⟨[], .here id, nofun⟩, binds⟩

/-- From a scope that does not bind the name it is the nearest from the scope around. -/
theorem Nearest.out {parent binder : ScopeId} (unbound : ¬ scopes.Binds id name)
    (around : scopes.parent? id = some parent) (nearest : scopes.Nearest name parent binder) :
    scopes.Nearest name id binder := by
  obtain ⟨⟨below, path, clear⟩, binds⟩ := nearest
  exact ⟨⟨id :: below, .out around path, List.forall_mem_cons.mpr ⟨unbound, clear⟩⟩, binds⟩

theorem Nearest.cases {binder : ScopeId} (nearest : scopes.Nearest name id binder) :
    (binder = id ∧ scopes.Binds id name) ∨
      ¬ scopes.Binds id name ∧
        ∃ parent, scopes.parent? id = some parent ∧ scopes.Nearest name parent binder := by
  obtain ⟨⟨below, path, clear⟩, binds⟩ := nearest
  cases path with
  | here => exact .inl ⟨rfl, binds⟩
  | out around path =>
      obtain ⟨unbound, clear⟩ := List.forall_mem_cons.mp clear
      exact .inr ⟨unbound, _, around, ⟨_, path, clear⟩, binds⟩

theorem Nearest.unique {binder other : ScopeId} (nearest : scopes.Nearest name id binder)
    (also : scopes.Nearest name id other) : binder = other := by
  obtain ⟨⟨below, path, clear⟩, binds⟩ := nearest
  induction path with
  | here =>
      rcases also.cases with ⟨rfl, -⟩ | ⟨unbound, -⟩
      · rfl
      · exact absurd binds unbound
  | out around _ ih =>
      obtain ⟨unbound, clear⟩ := List.forall_mem_cons.mp clear
      rcases also.cases with ⟨-, bound⟩ | ⟨-, parent, sameAround, further⟩
      · exact absurd bound unbound
      · obtain rfl := Option.some.inj (around.symm.trans sameAround)
        exact ih further binds clear

/-- The search finds the nearest scope that binds the name, given room for the way to the root. -/
theorem binderWithin_iff (grounded : scopes.Grounded) {bound : Nat} (enough : id < bound)
    {binder : ScopeId} :
    scopes.binderWithin name bound id = some binder ↔ scopes.Nearest name id binder := by
  induction bound generalizing id with
  | zero => cases enough
  | succ bound ih =>
      unfold binderWithin
      have held : scopes.valueIn? id name = scopes[id]?.bind (·.bindings.get? name) := by
        unfold valueIn?
        cases scopes[id]? <;> rfl
      cases found : scopes[id]? with
      | none =>
          have unbound : ¬ scopes.Binds id name := by simp [Binds, held, found]
          refine ⟨nofun, fun nearest => ?_⟩
          rcases nearest.cases with ⟨-, binds⟩ | ⟨-, parent, around, -⟩
          · exact absurd binds unbound
          · simp [parent?, found] at around
      | some scope =>
          have binds_iff : scopes.Binds id name ↔ scope.bindings.has name = true := by
            simp [Binds, held, found, Assoc.has]
          have parent_eq : scopes.parent? id = scope.parent := by simp [parent?, found]
          dsimp only
          by_cases binds : scopes.Binds id name
          · rw [if_pos (binds_iff.mp binds)]
            constructor
            · rintro ⟨⟩
              exact .here binds
            · intro nearest
              exact congrArg some (Nearest.unique (.here binds) nearest)
          · rw [if_neg fun bound => binds (binds_iff.mpr bound)]
            cases around : scope.parent with
            | none =>
                refine ⟨nofun, fun nearest => ?_⟩
                rcases nearest.cases with ⟨-, bound⟩ | ⟨-, parent, there, -⟩
                · exact absurd bound binds
                · rw [parent_eq, around] at there
                  cases there
            | some parent =>
                have outer : scopes.parent? id = some parent := parent_eq.trans around
                have further := ih (Nat.lt_of_lt_of_le (grounded id parent outer)
                  (Nat.le_of_lt_succ enough))
                dsimp only
                rw [further]
                refine ⟨fun nearest => nearest.out binds outer, fun nearest => ?_⟩
                rcases nearest.cases with ⟨-, bound⟩ | ⟨-, other, there, nearest⟩
                · exact absurd bound binds
                · obtain rfl := Option.some.inj (outer.symm.trans there)
                  exact nearest

theorem binder?_iff (grounded : scopes.Grounded) {binder : ScopeId} :
    scopes.binder? name id = some binder ↔ scopes.Nearest name id binder :=
  binderWithin_iff grounded (Nat.lt_succ_self id)

/-- A lookup reads the scope that the search for the name finds. -/
theorem lookupWithin_eq (scopes : Scopes) (name : String) (bound : Nat) (id : ScopeId) :
    scopes.lookupWithin name bound id =
      (scopes.binderWithin name bound id).bind (scopes.valueIn? · name) := by
  induction bound generalizing id with
  | zero => rfl
  | succ bound ih =>
      unfold lookupWithin binderWithin
      cases found : scopes[id]? with
      | none => rfl
      | some scope =>
          dsimp only
          unfold Assoc.has
          cases held : scope.bindings.get? name with
          | some value => simp [valueIn?, found, held]
          | none => cases scope.parent with
            | none => rfl
            | some parent => exact ih parent

/-- The value of a name is what the nearest scope with the name binds it to. -/
theorem lookup?_iff (grounded : scopes.Grounded) {value : Value} :
    scopes.lookup? name id = some value ↔
      ∃ binder, scopes.Nearest name id binder ∧ scopes.valueIn? binder name = some value := by
  unfold lookup?
  rw [lookupWithin_eq, Option.bind_eq_some_iff]
  simp only [binderWithin_iff grounded (Nat.lt_succ_self id)]

/-! ## One more binding -/

variable {place : ScopeId} {value : Value}

theorem binds_define (present : place < scopes.size) {new : String} :
    (scopes.define place new value).Binds id name ↔
      (id = place ∧ name = new) ∨ scopes.Binds id name := by
  unfold Binds
  rw [valueIn?_define present]
  split
  · rename_i here
    exact iff_of_true rfl (.inl here)
  · rename_i elsewhere
    exact (or_iff_right elsewhere).symm

/-- A scope that the name is visible up to becomes the nearest one when it binds the name. -/
theorem nearest_define_self (present : place < scopes.size) :
    (scopes.define place name value).Nearest name id place ↔ scopes.Reaches name id place := by
  constructor
  · rintro ⟨⟨below, path, clear⟩, -⟩
    refine ⟨below, path_define.mp path, fun passed member bound => clear passed member ?_⟩
    exact (binds_define present).mpr (.inr bound)
  · rintro ⟨below, path, clear⟩
    induction path with
    | here => exact .here ((binds_define present).mpr (.inl ⟨rfl, rfl⟩))
    | @out id parent outer below around path ih =>
        obtain ⟨unbound, clear⟩ := List.forall_mem_cons.mp clear
        by_cases same : id = outer
        · subst same
          exact .here ((binds_define present).mpr (.inl ⟨rfl, rfl⟩))
        · refine .out (fun bound => ?_) ((parent?_define _ _).trans around) (ih present clear)
          exact unbound (((binds_define present).mp bound).resolve_left fun both => same both.1)

/-- Where the new binding is not the nearest one, the nearest scopes are those of before. -/
theorem nearest_define_of_not (present : place < scopes.size) {new : String}
    (elsewhere : ¬ (name = new ∧ (scopes.define place new value).Nearest new id place))
    {binder : ScopeId} :
    (scopes.define place new value).Nearest name id binder ↔ scopes.Nearest name id binder := by
  constructor
  · rintro ⟨⟨below, path, clear⟩, binds⟩
    refine ⟨⟨below, path_define.mp path, fun passed member bound => clear passed member ?_⟩, ?_⟩
    · exact (binds_define present).mpr (.inr bound)
    · rcases (binds_define present).mp binds with ⟨rfl, rfl⟩ | bound
      · exact absurd ⟨rfl, ⟨below, path, clear⟩, binds⟩ elsewhere
      · exact bound
  · rintro ⟨⟨below, path, clear⟩, binds⟩
    induction path with
    | here => exact .here ((binds_define present).mpr (.inr binds))
    | @out id parent binder below around path ih =>
        obtain ⟨unbound, clear⟩ := List.forall_mem_cons.mp clear
        have unboundStill : ¬ (scopes.define place new value).Binds id name := by
          intro bound
          rcases (binds_define present).mp bound with ⟨rfl, rfl⟩ | before
          · exact elsewhere ⟨rfl, .here bound⟩
          · exact unbound before
        have aroundStill : (scopes.define place new value).parent? id = some parent :=
          (parent?_define place value).trans around
        refine .out unboundStill aroundStill (ih (fun both => elsewhere ⟨both.1, ?_⟩) binds clear)
        exact .out (both.1 ▸ unboundStill) aroundStill both.2

/-- A new binding changes the lookups that it is the nearest binding for, and no others. -/
theorem lookup?_define (grounded : scopes.Grounded) (present : place < scopes.size)
    (new : String) :
    (name = new ∧ (scopes.define place new value).Nearest new id place →
        (scopes.define place new value).lookup? name id = some value) ∧
      (¬ (name = new ∧ (scopes.define place new value).Nearest new id place) →
        (scopes.define place new value).lookup? name id = scopes.lookup? name id) := by
  have groundedStill : (scopes.define place new value).Grounded := by
    intro id parent around
    exact grounded id parent (parent?_define place value ▸ around)
  constructor
  · rintro ⟨rfl, nearest⟩
    exact (lookup?_iff groundedStill).mpr ⟨place, nearest, valueIn?_define_self present _ _⟩
  · intro elsewhere
    refine Option.ext fun found => ?_
    rw [lookup?_iff groundedStill, lookup?_iff grounded]
    refine exists_congr fun binder => ?_
    rw [nearest_define_of_not present elsewhere]
    refine and_congr_right fun nearest => ?_
    have changed : ¬ (binder = place ∧ name = new) := by
      rintro ⟨rfl, rfl⟩
      exact elsewhere ⟨rfl, (nearest_define_of_not present elsewhere).mpr nearest⟩
    rw [valueIn?_define present, if_neg changed]

/-! ## Assignments -/

/-- The scope that an assignment goes to: the nearest one that binds the name, or else the one that
the assignment is made from. -/
theorem assign_place (grounded : scopes.Grounded) (id : ScopeId) (name : String) :
    ∃ place, place ≤ id ∧
      (scopes.Nearest name id place ∨ place = id ∧ ∀ other, ¬ scopes.Nearest name id other) ∧
      ∀ value, scopes.assign id name value = scopes.define place name value := by
  unfold assign
  cases found : scopes.binder? name id with
  | none =>
      have unbound (other : ScopeId) : ¬ scopes.Nearest name id other := by
        intro nearest
        rw [(binder?_iff grounded).mpr nearest] at found
        cases found
      exact ⟨id, Nat.le_refl _, .inr ⟨rfl, unbound⟩, fun value => rfl⟩
  | some place =>
      have nearest := (binder?_iff grounded).mp found
      obtain ⟨below, path, -⟩ := nearest.1
      exact ⟨place, path.le grounded, .inl nearest, fun value => rfl⟩

/-- An assignment binds the name in the nearest scope outwards that has it, or else where it stands,
and changes no other binding.  A lookup gives the new value if that scope is now the nearest with
the name, and what it gave before if not.  So the scopes that see every assignment are those from
which the way outwards leads to that scope past no other binding of the name. -/
theorem assign_seen (built : scopes.Built) {id : ScopeId} (present : id < scopes.size)
    (name : String) :
    ∃ place,
      (scopes.Nearest name id place ∨ place = id ∧ ∀ other, ¬ scopes.Nearest name id other) ∧
      (∀ value, (scopes.assign id name value).size = scopes.size ∧
        (∀ other, (scopes.assign id name value).parent? other = scopes.parent? other) ∧
        (∀ other bound, (scopes.assign id name value).valueIn? other bound =
          if other = place ∧ bound = name then some value else scopes.valueIn? other bound) ∧
        ∀ other read,
          (read = name ∧ (scopes.assign id name value).Nearest name other place →
            (scopes.assign id name value).lookup? read other = some value) ∧
          (¬ (read = name ∧ (scopes.assign id name value).Nearest name other place) →
            (scopes.assign id name value).lookup? read other = scopes.lookup? read other)) ∧
      ∀ other, (∀ value, (scopes.assign id name value).lookup? name other = some value) ↔
        scopes.Reaches name other place := by
  have grounded := built.grounded
  obtain ⟨place, le, goes, assigned⟩ := assign_place grounded id name
  have there : place < scopes.size := Nat.lt_of_le_of_lt le present
  refine ⟨place, goes, fun value => ?_, fun other => ?_⟩
  · rw [assigned value]
    refine ⟨Array.size_modify, fun other => parent?_define place value, fun other bound => ?_,
      fun other read => lookup?_define grounded there name⟩
    exact valueIn?_define there name value
  · simp only [assigned]
    constructor
    · intro sees
      -- What is seen of two different values cannot be what was seen before.
      refine Classical.byContradiction fun hidden => ?_
      have kept (value : Value) : scopes.lookup? name other = some value := by
        refine Eq.trans (Eq.symm ?_) (sees value)
        exact (lookup?_define grounded there name).2 fun both =>
          hidden ((nearest_define_self there).mp both.2)
      have clash := (kept .absent).symm.trans (kept (.bool true))
      cases clash
    · intro reaches value
      exact (lookup?_define grounded there name).1 ⟨rfl, (nearest_define_self there).mpr reaches⟩

/-- A global `x`, and a function with a parameter `x` and a block in it. -/
def shadowedForest : Scopes :=
  child (child (#[].push { name := "global", parent := none, bindings := [("x", .text "outer")] })
    "function" 0 [("x", .text "inner")]) "block" 1

/-- From the block an assignment to `x` goes to the parameter, which the global scope is not in. -/
theorem assign_seen_of_shadowed :
    2 < shadowedForest.size ∧ ∃ place, place = 1 ∧
      (shadowedForest.assign 2 "x" .absent).valueIn? place "x" = some .absent ∧
      (shadowedForest.assign 2 "x" .absent).lookup? "x" 0 = some (.text "outer") ∧
      ∀ value, (shadowedForest.assign 2 "x" value).lookup? "x" 2 = some value := by
  have built : shadowedForest.Built :=
    .child _ _ (.child _ _ (.alone _ _ .empty) (by decide)) (by decide)
  have present : 2 < shadowedForest.size := by decide
  obtain ⟨place, goes, changes, sees⟩ := assign_seen built present "x"
  have found : shadowedForest.Nearest "x" 2 1 := (binder?_iff built.grounded).mp (by decide)
  have there : place = 1 := by
    rcases goes with nearest | ⟨-, none⟩
    · exact nearest.unique found
    · exact absurd found (none 1)
  subst there
  obtain ⟨-, -, binds, reads⟩ := changes .absent
  refine ⟨present, 1, rfl, ?_, ?_, (sees 2).mpr found.1⟩
  · rw [binds, if_pos ⟨rfl, rfl⟩]
  · refine ((reads 0 "x").2 fun both => ?_).trans (by decide)
    obtain ⟨⟨below, path, -⟩, -⟩ := both.2
    have inner := path.le (built.define 1 "x" .absent).grounded
    exact absurd inner (by decide)

end Scopes

end Scriptlet
