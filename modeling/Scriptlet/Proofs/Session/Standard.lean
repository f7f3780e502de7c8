import Scriptlet.Proofs.Evaluator.Discipline

/-!
# Standard runs

A run on the builtins alone has a discipline of its own: the host holds atoms and lists of such
data, only records that were read from texts hold lists, and no host function hands out anything
strange.  The discipline holds for every choice of builtins, however the run ends.
-/

namespace Scriptlet

/-! ## The discipline -/

/-- Data that is made of atoms and lists. -/
inductive Data.Plain : Data → Prop
  | atom {data : Data} (isAtom : data.isAtom = true) : Plain data
  | list {items : List Data} (plain : ∀ item ∈ items, Plain item) : Plain (.list items)

theorem Data.plain_list {items : List Data} :
    (Data.list items).Plain ↔ ∀ item ∈ items, item.Plain := by
  constructor
  · intro plain
    cases plain with
    | atom isAtom => cases isAtom
    | list plain => exact plain
  · exact .list

/-- What the host functions of a run on the builtins do. -/
def Action.IsStandard (body : List Stmt → Prop) : Action → Prop
  | .native (.boundCopy ..) | .native (.hosted _) => False
  | .control (.runModule statements _ _) => body statements
  | _ => True

/-- The discipline of runs on the builtins, with bodies of a given kind. -/
def Discipline.standard (outcomes : Outcomes) (body : List Stmt → Prop) : Discipline :=
  { outcomes with
    body := body
    data := Data.Plain
    raw := fun typeName data => data.Plain ∧ (typeName = "Record" ∨ data.isAtom = true)
    action := Action.IsStandard body
    drives := True
    atom := .atom
    list := Data.plain_list
    table := by
      rintro fields ⟨⟨⟩⟩
    foreign := by
      rintro ⟨⟨⟩⟩
    rawData := And.left
    rawAtom := fun isAtom => ⟨.atom isAtom, .inr isAtom⟩
    rawRecord := fun plain => ⟨plain, .inl rfl⟩
    bound := fun _ _ => trivial
    boundCopy := ⟨False.elim, And.right⟩
    isoAt := fun _ => trivial
    isDone := fun _ => trivial
    isCancelled := fun _ => trivial
    answers := False.elim
    refuses := False.elim
    module := Iff.rfl
    driving := fun _ _ => trivial }

instance Discipline.standard_open {outcomes : Outcomes} [opens : outcomes.Open]
    {body : List Stmt → Prop} : (Discipline.standard outcomes body).Open :=
  opens

/-- Nothing is known of the jobs. -/
def Agenda.lax : Agenda where
  holds := fun _ _ => True
  opened := fun _ => trivial
  added := fun _ _ _ => trivial
  requested := fun _ _ _ => trivial

/-- The timetable of which nothing is known. -/
def Timetable.lax {drives : Prop} : Timetable drives where
  Stage := Unit
  agenda := fun _ => .lax
  restates := fun _ _ _ _ _ _ => trivial
  idle := fun _ => True
  turn := fun _ _ _ _ => True
  resting := fun _ _ => trivial
  entering := fun _ _ _ => trivial
  settling := fun _ _ _ => trivial
  skipping := fun _ => trivial
  starting := fun _ => ⟨(), trivial, fun _ => trivial⟩
  leaving := fun _ => trivial
  closed := fun _ _ => trivial

/-! ## Builtins -/

variable {outcomes : Outcomes} {body : List Stmt → Prop} {fault : Fault → Prop}

theorem addFunctions_steady {D : Discipline} {A : Agenda} (functions : List (String × Action))
    (allowed : ∀ function ∈ functions, D.action function.2) :
    Steady D A fault (fun members => ∀ member ∈ members, D.data member.2)
      (Builtin.addFunctions functions) := by
  induction functions with
  | nil => exact .pure (by simp)
  | cons function rest ih =>
      refine .bind (addObject_steady (allowed function List.mem_cons_self)) fun id _ => ?_
      refine .bind (ih fun other found => allowed other (List.mem_cons_of_mem _ found)) ?_
      exact fun members all => .pure (List.forall_mem_cons.mpr ⟨D.atom rfl, all⟩)

/-- Functions that are added and then collected in an object. -/
theorem collected_steady {D : Discipline} {A : Agenda} {functions : List (String × Action)}
    (allowed : ∀ function ∈ functions, D.action function.2) {collect : Assoc Data → HostObject}
    (object : ∀ members, (∀ member ∈ members, D.data member.2) → D.object (collect members)) :
    Steady D A fault (fun _ => True) (do
      let members ← Builtin.addFunctions functions
      Store.addObject (collect members)) :=
  .bind (addFunctions_steady functions allowed) fun members all =>
    addObject_steady (object members all)

/-- No builtin does anything that is not standard. -/
theorem make_steady (seed : Int) (builtin : Builtin) :
    Steady (.standard outcomes body) .lax fault (fun _ => True) (builtin.make seed) := by
  unfold Builtin.make
  cases builtin with
  | math =>
      have allowed : ∀ function ∈ Builtin.mathFunctions, function.2.IsStandard body := by
        rintro ⟨name, action⟩ found
        simp only [Builtin.mathFunctions, List.mem_append, List.mem_map, List.mem_cons] at found
        rcases found with ⟨function, -, same⟩ | same | same | same | same <;> cases same <;> trivial
      refine .bind (.modify fun _ obeys => obeys.similar rfl rfl rfl rfl rfl) fun _ _ => ?_
      refine collected_steady allowed fun members all => ?_
      exact List.forall_mem_cons.mpr ⟨.atom rfl, List.forall_mem_cons.mpr ⟨.atom rfl, all⟩⟩
  | date =>
      exact collected_steady (by simp [Discipline.standard, Action.IsStandard]) fun _ all =>
        ⟨trivial, all⟩
  | json =>
      exact collected_steady (by simp [Discipline.standard, Action.IsStandard]) fun _ all => all
  | print | log => exact addNative_steady _ trivial
  | task =>
      have allowed : ∀ function ∈ Builtin.taskFunctions, function.2.IsStandard body := by
        simp [Builtin.taskFunctions, Action.IsStandard]
      refine .bind (.modify fun _ obeys => obeys.reschedule trivial rfl (by simp)) fun _ _ => ?_
      exact collected_steady allowed fun _ all => all

theorem openEnvironment_steady (settings : Settings) (entropy : Int) :
    SteadyRun (.standard outcomes body) .lax fault (openEnvironment settings entropy) := by
  have install (scope : ScopeId) (seed : Int) (builtins : List Builtin) :
      SteadyRun (.standard outcomes body) .lax fault (Builtin.install scope seed builtins) := by
    induction builtins with
    | nil => exact .pure
    | cons builtin rest ih =>
        refine .bind (.onStore (make_steady seed builtin)) fun id => ?_
        exact .bind (.modify fun _ => rfl) fun _ => ih
  refine .bind (fun _ obeys => .ok obeys trivial) fun scope => ?_
  exact .bind (install scope _ _) fun _ => .pure

theorem onStore_depthLimit {α : Type} {operation : StoreM α} {value : α} {before after : Machine}
    (run : Machine.onStore operation before = .ok value after) :
    after.depthLimit = before.depthLimit := by
  unfold Machine.onStore at run
  dsimp only at run
  cases outcome : operation before.store <;> rw [outcome] at run <;> cases run
  rfl

/-- Making an environment leaves the limit on the depth of calls. -/
theorem openEnvironment_depthLimit {settings : Settings} {entropy : Int} {scope : ScopeId}
    {before after : Machine} (run : openEnvironment settings entropy before = .ok scope after) :
    after.depthLimit = before.depthLimit := by
  have install (scope : ScopeId) (seed : Int) {builtins : List Builtin} {before after : Machine}
      (run : Builtin.install scope seed builtins before = .ok () after) :
      after.depthLimit = before.depthLimit := by
    induction builtins generalizing before with
    | nil =>
        cases run
        rfl
    | cons builtin rest ih =>
        obtain ⟨id, made, making, run⟩ := bind_ok run
        obtain ⟨_, bound, binding, run⟩ := bind_ok run
        cases binding
        have later := ih run
        exact later.trans (onStore_depthLimit making :)
  obtain ⟨root, opened, opening, run⟩ := bind_ok run
  cases opening
  obtain ⟨_, installed, installing, run⟩ := bind_ok run
  cases run
  have installed := install _ _ installing
  exact installed

/-- A run on builtins stays within the standard discipline if the program that is run is of the
allowed kind. -/
theorem runFresh_keeps (code : (Discipline.standard outcomes body).Code) (settings : Settings)
    (entropy : Int) {source : String} {file : Option String} (machine : Machine)
    (allowed : ∀ program,
      Program.ofSource (stackRoom machine.depthLimit) source file = .ok program →
      body program.body) :
    Keeps (fun machine => machine.store.Obeys (.standard outcomes body) Agenda.lax.holds)
      (Discipline.standard outcomes body).wholly (fun _ => True)
      (runFresh settings entropy source file) machine := by
  refine .bind (openEnvironment_steady settings entropy machine) fun scope opened opening _ => ?_
  rw [← openEnvironment_depthLimit opening] at allowed
  have run : Keeps (fun machine => machine.store.Obeys (.standard outcomes body)
      ((@Timetable.lax True).agenda ()).holds) _ _ (runSource settings.moduleRoot scope source file)
      opened :=
    runSource_keeps code settings.moduleRoot scope opened allowed
  exact run.andFinally (releaseEnvironment_steady trivial scope)

/-! ## Unused machines -/

/-- A machine on which nothing has been run. -/
def Machine.unused (disk : Disk) (depthLimit : Nat) (clock : Float) : Machine :=
  { disk := disk, depthLimit := depthLimit, store := { clock := clock } }

theorem unused_obeys (D : Discipline) (disk : Disk) (depthLimit : Nat) (clock : Float) :
    (Machine.unused disk depthLimit clock).store.Obeys D Agenda.lax.holds where
  closures := by simp [Machine.unused]
  objects := by simp [Machine.unused]
  methods := by simp [Machine.unused, Discipline.method]
  failures := by simp [Machine.unused]
  jobs := trivial

end Scriptlet
