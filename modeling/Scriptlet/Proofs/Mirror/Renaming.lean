import Scriptlet.Proofs.Store.Change
import Scriptlet.Proofs.Tree.Names
import Scriptlet.Evaluator

/-!
# Translations

Two runs of the same code can differ in which cells their values name, in which runner executes what
and which unit it belongs to, in what some names are bound to, and in the lines that errors quote.
A translation says how the cells, units and runners of one run are named in the other, and which
names may be bound in another way.
-/

namespace Scriptlet

/-! ## Faults -/

/-- The same fault, but for the line that is quoted. -/
inductive Fault.Alike : Fault → Fault → Prop
  | refl (fault : Fault) : Alike fault fault
  | requoted (error : ScriptError) (line : Option String) :
      Alike (.script error) (.script { error with sourceLine := line })

namespace Fault.Alike

variable {first second third : Fault}

theorem symm (alike : first.Alike second) : second.Alike first := by
  cases alike with
  | refl => exact .refl first
  | requoted error line => exact .requoted { error with sourceLine := line } error.sourceLine

theorem trans (before : first.Alike second) (after : second.Alike third) : first.Alike third := by
  cases before with
  | refl => exact after
  | requoted error line =>
      cases after with
      | refl => exact .requoted error line
      | requoted _ other => exact .requoted error other

end Fault.Alike

/-! ## Arrays -/

/-- The items of one array stand in another one in turn, from a given place on. -/
structure Aligned {α β : Type} (shift : Nat) (alike : α → β → Prop) (left : Array α)
    (right : Array β) : Prop where
  size : right.size = shift + left.size
  items : ∀ i : Nat, Option.Rel alike left[i]? right[shift + i]?

namespace Aligned

variable {α β : Type} {shift : Nat} {alike : α → β → Prop} {left : Array α} {right : Array β}

/-- An item and the one that it stands for. -/
theorem some_of_left (aligned : Aligned shift alike left right) {i : Nat} {item : α}
    (found : left[i]? = some item) :
    ∃ other, right[shift + i]? = some other ∧ alike item other := by
  have related := aligned.items i
  rw [found] at related
  generalize right[shift + i]? = there at related
  cases related with
  | some same => exact ⟨_, rfl, same⟩

theorem none_of_left (aligned : Aligned shift alike left right) {i : Nat}
    (missing : left[i]? = none) : right[shift + i]? = none := by
  have related := aligned.items i
  rw [missing] at related
  generalize right[shift + i]? = there at related
  cases related
  rfl

theorem push (aligned : Aligned shift alike left right) {item : α} {other : β}
    (same : alike item other) : Aligned shift alike (left.push item) (right.push other) where
  size := by
    rw [Array.size_push, Array.size_push, aligned.size]
    omega
  items i := by
    rw [Array.getElem?_push, Array.getElem?_push, aligned.size]
    by_cases last : i = left.size
    · subst last
      rw [if_pos rfl, if_pos rfl]
      exact .some same
    · have before : ¬ shift + i = shift + left.size := by omega
      rw [if_neg last, if_neg before]
      exact aligned.items i

theorem modify (aligned : Aligned shift alike left right) {change : α → α} {other : β → β}
    (same : ∀ item there, alike item there → alike (change item) (other there)) (i : Nat) :
    Aligned shift alike (left.modify i change) (right.modify (shift + i) other) where
  size := by
    rw [Array.size_modify, Array.size_modify, aligned.size]
  items j := by
    rw [Array.getElem?_modify, Array.getElem?_modify]
    have related := aligned.items j
    by_cases here : i = j
    · subst here
      rw [if_pos rfl, if_pos rfl]
      revert related
      generalize left[i]? = item
      generalize right[shift + i]? = there
      rintro (related | _)
      · exact .some (same _ _ related)
      · exact .none
    · have elsewhere : ¬ shift + i = shift + j := by omega
      rw [if_neg here, if_neg elsewhere]
      exact related

end Aligned

/-- Whether a size stays within a limit, if there is one. -/
def Within (limit : Option Nat) (size : Nat) : Prop :=
  ∀ most ∈ limit, size ≤ most

theorem Within.none (size : Nat) : Within none size :=
  fun most bounds => absurd bounds (Option.not_mem_none most)

theorem Within.mono {limit : Option Nat} {size smaller : Nat} (within : Within limit size)
    (le : smaller ≤ size) : Within limit smaller :=
  fun most bounds => Nat.le_trans le (within most bounds)

/-- Names go on in the other run as they do in this one: up to a limit, what is added next has the
next name in both. -/
def GoesOn (limit : Option Nat) (name : Nat → Nat) (here there : Nat) : Prop :=
  ∀ more, Within limit (here + more + 1) → name (here + more) = there + more

namespace GoesOn

variable {limit : Option Nat} {name : Nat → Nat} {here there : Nat}

theorem next (goesOn : GoesOn limit name here there) (within : Within limit (here + 1)) :
    name here = there :=
  goesOn 0 within

theorem step (goesOn : GoesOn limit name here there) :
    GoesOn limit name (here + 1) (there + 1) := by
  intro more within
  rw [Nat.add_right_comm here, Nat.add_right_comm there]
  exact goesOn (more + 1) (by rwa [← Nat.add_assoc, Nat.add_right_comm here])

end GoesOn

/-- The items of one array have other places in another one; places beyond the present ones go on
together. -/
structure Placed {α β : Type} (limit : Option Nat) (place : Nat → Nat) (alike : α → β → Prop)
    (left : Array α) (right : Array β) : Prop where
  injective : Function.Injective place
  goesOn : GoesOn limit place left.size right.size
  items : ∀ i : Nat, Option.Rel alike left[i]? right[place i]?

namespace Placed

variable {α β : Type} {limit : Option Nat} {place : Nat → Nat} {shift : Nat} {alike : α → β → Prop}
  {left : Array α} {right : Array β}

/-- An item and the one that it stands for. -/
theorem some_of_left (placed : Placed limit place alike left right) {i : Nat} {item : α}
    (found : left[i]? = some item) : ∃ other, right[place i]? = some other ∧ alike item other := by
  have related := placed.items i
  rw [found] at related
  generalize right[place i]? = there at related
  cases related with
  | some same => exact ⟨_, rfl, same⟩

theorem none_of_left (placed : Placed limit place alike left right) {i : Nat}
    (missing : left[i]? = none) : right[place i]? = none := by
  have related := placed.items i
  rw [missing] at related
  generalize right[place i]? = there at related
  cases related
  rfl

theorem push (placed : Placed limit place alike left right)
    (within : Within limit (left.size + 1)) {item : α} {other : β} (same : alike item other) :
    Placed limit place alike (left.push item) (right.push other) where
  injective := placed.injective
  goesOn := by
    rw [Array.size_push, Array.size_push]
    exact placed.goesOn.step
  items i := by
    have last := placed.goesOn.next within
    rw [Array.getElem?_push, Array.getElem?_push, ← last]
    by_cases here : i = left.size
    · subst here
      rw [if_pos rfl, if_pos rfl]
      exact .some same
    · rw [if_neg here, if_neg fun images => here (placed.injective images)]
      exact placed.items i

theorem modify (placed : Placed limit place alike left right) {change : α → α} {other : β → β}
    (same : ∀ item there, alike item there → alike (change item) (other there)) (i : Nat) :
    Placed limit place alike (left.modify i change) (right.modify (place i) other) where
  injective := placed.injective
  goesOn := by
    rw [Array.size_modify, Array.size_modify]
    exact placed.goesOn
  items j := by
    rw [Array.getElem?_modify, Array.getElem?_modify]
    have related := placed.items j
    by_cases here : i = j
    · subst here
      rw [if_pos rfl, if_pos rfl]
      revert related
      generalize left[i]? = item
      generalize right[place i]? = there
      rintro (related | _)
      · exact .some (same _ _ related)
      · exact .none
    · rw [if_neg here, if_neg fun images => here (placed.injective images)]
      exact related

/-- Items that stand in turn have the places from a given one on. -/
theorem of_aligned (aligned : Aligned shift alike left right) (turn : ∀ i, place i = shift + i) :
    Placed none place alike left right := by
  obtain rfl : place = (shift + ·) := funext turn
  exact ⟨fun _ _ => Nat.add_left_cancel, fun more _ => by rw [aligned.size, Nat.add_assoc],
    aligned.items⟩

theorem aligned (placed : Placed none place alike left right) (turn : ∀ i, place i = shift + i) :
    Aligned shift alike left right := by
  obtain rfl : place = (shift + ·) := funext turn
  exact ⟨(placed.goesOn 0 nofun).symm, placed.items⟩

end Placed

/-! ## Tables -/

namespace Assoc

variable {α β : Type}

theorem get?_mapValues (change : α → β) (table : Assoc α) (name : String) :
    (table.mapValues change).get? name = (table.get? name).map change := by
  induction table with
  | nil => rfl
  | cons entry rest ih =>
      change (if entry.1 = name then some (change entry.2) else get? (mapValues change rest) name) =
        (if entry.1 = name then some entry.2 else get? rest name).map change
      split
      · rfl
      · exact ih

theorem mapValues_put (change : α → β) (table : Assoc α) (name : String) (value : α) :
    (table.put name value).mapValues change = (table.mapValues change).put name (change value) := by
  induction table with
  | nil => rfl
  | cons entry rest ih =>
      obtain ⟨key, old⟩ := entry
      change mapValues change (if key = name then _ else _) = (if key = name then _ else _)
      split
      · rfl
      · exact congrArg ((key, change old) :: ·) ih

end Assoc

/-! ## Renaming -/

/-- How the cells, units and runners of one run are named in another one. -/
structure Naming where
  /-- How many arrays of the other run come first. -/
  arrays : Nat := 0
  closures : Nat := 0
  objects : ObjectId → ObjectId := id
  unit : UnitId → UnitId := id
  runner : RunnerId → RunnerId := id
  /-- The names that the other run may bind in another way. -/
  hidden : String → Bool := fun _ => false

/-- A naming with what else tells the runs apart. -/
structure Translation extends Naming where
  /-- What the other run has in its journal. -/
  journal : Array Entry → Array Entry := id
  /-- The paths that the other run has read. -/
  consulted : List String → List String := id
  /-- Up to how many objects the names go on in the other run. -/
  objectLimit : Option Nat := none
  unitLimit : Option Nat := none

namespace Naming

variable (M : Naming)

/-- A value in the other run. -/
def value : Value → Value
  | .number x => .number x
  | .text value => .text value
  | .bool value => .bool value
  | .absent => .absent
  | .array id => .array (M.arrays + id)
  | .closure id => .closure (M.closures + id)
  | .host id => .host (M.objects id)

/-- Data in the other run. -/
def data : Data → Data :=
  Data.rename (M.closures + ·) M.objects

/-- A field in the other run. -/
def field : Field → Field
  | .value held => .value (M.value held)
  | .raw data => .raw (M.data data)

/-- A host operation in the other run. -/
def native : Native → Native
  | .bound method receiver => .bound method (M.value receiver)
  | .boundCopy method receiver => .boundCopy method (M.data receiver)
  | other => other

/-- An operation that runs code in the other run. -/
def control : Control → Control
  | .runModule body unit runner => .runModule body (M.unit unit) (M.runner runner)
  | other => other

/-- What a host function does in the other run. -/
def action : Action → Action
  | .native operation => .native (M.native operation)
  | .control operation => .control (M.control operation)

/-- A host object in the other run. -/
def object : HostObject → HostObject
  | .function name action => .function name (M.action action)
  | .factory name action members => .factory name (M.action action) (members.mapValues M.data)
  | .group name members => .group name (members.mapValues M.data)
  | .scheduler members => .scheduler (members.mapValues M.data)
  | .record typeName fields => .record typeName (fields.mapValues M.field)
  | .loaded path run => .loaded path (M.objects run)

/-- A function in the other run. -/
def closure (closure : Closure) : Closure :=
  { closure with unit := M.unit closure.unit, runner := M.runner closure.runner }

/-- A member in the other run. -/
def member : Member → Member
  | .value value => .value (M.value value)
  | .method method => .method method

/-- A completion in the other run. -/
def completion : Completion → Completion
  | .normal value => .normal (M.value value)
  | .result value => .result (M.value value)
  | .leave => .leave
  | .proceed => .proceed

/-- The mark of a `new` statement in the other run. -/
def mark (mark : UnitId × Nat) : UnitId × Nat :=
  (M.unit mark.1, mark.2)

/-- Where code runs in the other run. -/
def context (context : Context) : Context :=
  { context with unit := M.unit context.unit, runner := M.runner context.runner }

/-- The stages of a job in two runs; the quoted lines of its failure may differ. -/
inductive States : JobState → JobState → Prop
  | waiting (requested : Bool) : States (.waiting requested) (.waiting requested)
  | running (requested : Bool) : States (.running requested) (.running requested)
  | returned (value : Value) : States (.returned value) (.returned (M.value value))
  | failed {fault other : Fault} (alike : fault.Alike other) :
      States (.failed fault) (.failed other)
  | cancelled : States .cancelled .cancelled

/-- A job in two runs. -/
structure Jobs (left right : Job) : Prop where
  function : right.function = M.value left.function
  arguments : right.arguments = left.arguments.map M.value
  state : M.States left.state right.state

/-- The jobs of two runs. -/
structure Schedules (left right : Schedule) : Prop where
  jobs : Aligned 0 M.Jobs left.jobs right.jobs
  forgotten : right.forgotten = left.forgotten
  ready : right.ready = left.ready
  isOpen : right.isOpen = left.isOpen
  active : right.active = left.active

/-- Code that asks for no hidden name. -/
def Free (names : List String) : Prop :=
  ∀ name ∈ names, M.hidden name = false

variable {M} in
theorem Free.of_append {names others : List String} (free : M.Free (names ++ others)) :
    M.Free names ∧ M.Free others :=
  List.forall_mem_append.mp free

variable {M} in
theorem Free.argument {expressions : List Expr} (free : M.Free (expressionNames expressions))
    {expression : Expr} (found : expression ∈ expressions) : M.Free expression.names :=
  fun name asked => free name (mem_expressionNames.mpr ⟨expression, found, asked⟩)

variable {M} in
theorem Free.statement {statements : List Stmt} (free : M.Free (bodyNames statements))
    {statement : Stmt} (found : statement ∈ statements) : M.Free statement.names :=
  fun name asked => free name (mem_bodyNames.mpr ⟨statement, found, asked⟩)

/-- A function in two runs; its body asks for no hidden name. -/
def Closures (left right : Closure) : Prop :=
  right = M.closure left ∧ M.Free (bodyNames left.body)

/-- A host object in two runs; the modules that it runs ask for no hidden name. -/
def Objects (left right : HostObject) : Prop :=
  right = M.object left ∧ ∀ body ∈ left.moduleBodies, M.Free (bodyNames body)

/-! ### Renamed parts -/

section Renamed

@[simp] theorem value_number (x : Float) : M.value (.number x) = .number x := rfl
@[simp] theorem value_text (text : String) : M.value (.text text) = .text text := rfl
@[simp] theorem value_bool (truth : Bool) : M.value (.bool truth) = .bool truth := rfl
@[simp] theorem value_absent : M.value .absent = .absent := rfl
@[simp] theorem value_array (id : ArrayId) : M.value (.array id) = .array (M.arrays + id) := rfl
@[simp] theorem value_closure (id : ClosureId) :
    M.value (.closure id) = .closure (M.closures + id) := rfl
@[simp] theorem value_host (id : ObjectId) : M.value (.host id) = .host (M.objects id) := rfl

@[simp]
theorem kind_value (value : Value) : (M.value value).kind = value.kind := by
  cases value <;> rfl

theorem headD_values (values : List Value) :
    (values.map M.value).headD .absent = M.value (values.headD .absent) := by
  cases values <;> rfl

@[simp] theorem data_null : M.data .null = .null := rfl
@[simp] theorem data_bool (truth : Bool) : M.data (.bool truth) = .bool truth := rfl
@[simp] theorem data_int (n : Int) : M.data (.int n) = .int n := rfl
@[simp] theorem data_float (x : Float) : M.data (.float x) = .float x := rfl
@[simp] theorem data_text (text : String) : M.data (.text text) = .text text := rfl
@[simp] theorem data_closure (id : ClosureId) :
    M.data (.closure id) = .closure (M.closures + id) := rfl
@[simp] theorem data_host (id : ObjectId) : M.data (.host id) = .host (M.objects id) := rfl
@[simp] theorem data_foreign : M.data .foreign = .foreign := rfl

@[simp]
theorem data_list (items : List Data) : M.data (.list items) = .list (items.map M.data) :=
  Data.rename_list _ _ items

@[simp]
theorem data_table (fields : Assoc Data) :
    M.data (.table fields) = .table (fields.mapValues M.data) :=
  Data.rename_table _ _ fields

@[simp]
theorem isFunction_object (object : HostObject) :
    (M.object object).isFunction = object.isFunction := by
  cases object <;> rfl

theorem rawFields_mapValues (members : Assoc Data) :
    (members.mapValues M.data).map (fun (name, data) => (name, Field.raw data)) =
      Assoc.mapValues M.field (members.map fun (name, data) => (name, .raw data)) := by
  rw [Assoc.mapValues, Assoc.mapValues, List.map_map, List.map_map]
  rfl

theorem members?_object (object : HostObject) :
    (M.object object).members? = object.members?.map (Assoc.mapValues M.field) := by
  cases object with
  | factory | group | scheduler => exact congrArg some (M.rawFields_mapValues _)
  | loaded path run => simp [Naming.object, HostObject.members?, Assoc.mapValues, Naming.field]
  | _ => rfl

theorem callable?_object (object : HostObject) :
    (M.object object).callable? =
      object.callable?.map fun callable => (callable.1, M.action callable.2) := by
  cases object <;> rfl

@[simp]
theorem returned_completion (completion : Completion) :
    (M.completion completion).returned = M.value completion.returned := by
  cases completion <;> rfl

@[simp]
theorem completion_value (completion : Completion) :
    (M.completion completion).value = M.value completion.value := by
  cases completion <;> rfl

end Renamed

end Naming

/-- The stores of two runs. -/
structure Translation.Stores (M : Translation) (left right : Store) : Prop where
  arrays : Aligned M.arrays
    (fun items others => others = items.map M.value) left.arrays right.arrays
  closures : Aligned M.closures M.Closures left.closures right.closures
  objects : Placed M.objectLimit M.objects M.Objects left.objects right.objects
  methods : right.methods = left.methods
  schedule : M.Schedules left.schedule right.schedule
  random : right.random = left.random
  clock : right.clock = left.clock
  output : right.output = left.output
  journal : right.journal = M.journal left.journal
  noted : ∀ more, M.journal (left.journal ++ more) = M.journal left.journal ++ more

end Scriptlet
