import Mathlib.Logic.Relation
import Scriptlet.Library.Native
import Scriptlet.Member
import Scriptlet.Operator

/-!
# Changes of the store

Every operation of the host changes the store in a few ways only, and each of these leaves the
functions of the script and the bodies of the loaded modules as they are.  Operations are followed
step by step, whether or not they fail in the end.
-/

namespace Scriptlet

/-- The state in which a run ends, whether or not it fails. -/
def endState {σ α : Type} : EStateM.Result Fault σ α → σ
  | .ok _ state | .error _ state => state

/-- The fault with which steps have failed. -/
def faultOf {σ α : Type} : EStateM.Result Fault σ α → Option Fault
  | .ok _ _ => none
  | .error fault _ => some fault

theorem exists_of_faultOf {σ α : Type} {result : EStateM.Result Fault σ α} {fault : Fault}
    (failed : faultOf result = some fault) : ∃ last, result = .error fault last := by
  cases result with
  | ok => cases failed
  | error => exact ⟨_, by rw [Option.some.inj failed]⟩

theorem exists_of_faultOf_eq_none {σ α : Type} {result : EStateM.Result Fault σ α}
    (passed : faultOf result = none) : ∃ value last, result = .ok value last := by
  cases result with
  | ok value last => exact ⟨value, last, rfl⟩
  | error => cases passed

section Outcomes

variable {σ α β : Type} {before middle after : σ}

theorem bind_of_ok {first : EStateM Fault σ α} {next : α → EStateM Fault σ β} {value : α}
    (run : first before = .ok value middle) : (first >>= next) before = next value middle := by
  change EStateM.bind first next before = _
  unfold EStateM.bind
  rw [run]

theorem bind_of_error {first : EStateM Fault σ α} {next : α → EStateM Fault σ β} {fault : Fault}
    (run : first before = .error fault middle) : (first >>= next) before = .error fault middle := by
  change EStateM.bind first next before = _
  unfold EStateM.bind
  rw [run]

/-- Steps in turn succeed when each of them does. -/
theorem bind_ok {first : EStateM Fault σ α} {next : α → EStateM Fault σ β} {value : β}
    (run : (first >>= next) before = .ok value after) :
    ∃ result middle, first before = .ok result middle ∧ next result middle = .ok value after := by
  change EStateM.bind first next before = _ at run
  unfold EStateM.bind at run
  cases outcome : first before with
  | ok result middle =>
      rw [outcome] at run
      exact ⟨result, middle, rfl, run⟩
  | error fault middle =>
      rw [outcome] at run
      cases run

theorem ofExcept_ok {result : Except Fault α} {value : α}
    (run : (ofExcept result : EStateM Fault σ α) before = .ok value after) :
    result = .ok value := by
  cases result <;> cases run
  rfl

end Outcomes

/-- An integer that has become a value is in the range of numbers. -/
theorem wrap_int_ok {n : Int} {store after : Store} {value : Value}
    (run : (Data.int n).wrap store = .ok value after) :
    ∃ x, Number.ofInt? n = some x ∧ value = .number x ∧ after = store := by
  unfold Data.wrap at run
  cases known : Number.ofInt? n with
  | none =>
      rw [known] at run
      cases run
  | some x =>
      rw [known] at run
      cases run
      exact ⟨x, rfl, rfl, rfl⟩

/-- The bodies of modules that an action runs. -/
def Action.moduleBodies : Action → List (List Stmt)
  | .control (.runModule body _ _) => [body]
  | _ => []

/-- The bodies of modules that a host object runs when it is called. -/
def HostObject.moduleBodies : HostObject → List (List Stmt)
  | .function _ action | .factory _ action _ => action.moduleBodies
  | _ => []

/-- A record with another value in one of its fields; other objects have no fields. -/
def HostObject.withField (object : HostObject) (name : String) (value : Value) : HostObject :=
  match object with
  | .record typeName fields => .record typeName (fields.put name (.value value))
  | other => other

/-- What a single step of a host operation does to the store. -/
inductive Store.Change : Store → Store → Prop
  | newArray (store : Store) (items : Array Value) :
      Change store { store with arrays := store.arrays.push items }
  | items (store : Store) (id : ArrayId) (change : Array Value → Array Value) :
      Change store { store with arrays := store.arrays.modify id change }
  | newObject (store : Store) {object : HostObject} (plain : object.moduleBodies = []) :
      Change store { store with objects := store.objects.push object }
  | field (store : Store) (id : ObjectId) (name : String) (value : Value) :
      Change store
        { store with objects := store.objects.modify id (·.withField name value) }
  | schedule (store : Store) (schedule : Schedule) :
      Change store { store with schedule := schedule }
  | random (store : Store) (random : Twister) : Change store { store with random := random }
  | clock (store : Store) (clock : Float) : Change store { store with clock := clock }
  | output (store : Store) (output : String) : Change store { store with output := output }
  | journal (store : Store) (journal : Array Entry) : Change store { store with journal := journal }

/-- What the steps of a host operation do to the store. -/
def Store.Changes : Store → Store → Prop :=
  Relation.ReflTransGen Store.Change

/-- The operation changes the store step by step, also when it fails. -/
def Alters {α : Type} (operation : StoreM α) : Prop :=
  ∀ store : Store, store.Changes (endState (operation store))

namespace Alters

variable {α β : Type}

theorem pure (value : α) : Alters (pure value) := fun _ => .refl

theorem throw (fault : Fault) : Alters (throw fault : StoreM α) := fun _ => .refl

theorem get : Alters (get : StoreM Store) := fun _ => .refl

theorem ofExcept (result : Except Fault α) : Alters (ofExcept result : StoreM α) := by
  intro store
  cases result <;> exact .refl

theorem modify {change : Store → Store} (step : ∀ store : Store, store.Change (change store)) :
    Alters (modify change : StoreM PUnit) :=
  fun store => .single (step store)

theorem bind {first : StoreM α} {next : α → StoreM β} (before : Alters first)
    (after : ∀ value, Alters (next value)) : Alters (first >>= next) := by
  intro store
  have start := before store
  change store.Changes (endState (EStateM.bind first next store))
  unfold EStateM.bind
  cases outcome : first store with
  | ok value middle =>
      rw [outcome] at start
      exact start.trans (after value middle)
  | error fault middle =>
      rw [outcome] at start
      exact start

/-- What an operation does after looking at the store. -/
theorem looking {next : Store → StoreM β} (after : ∀ store, Alters (next store)) :
    Alters (MonadState.get >>= next) :=
  bind get after

/-- What an operation does after a check that may fail. -/
theorem checking {result : Except Fault α} {next : α → StoreM β}
    (after : ∀ value, Alters (next value)) : Alters (MonadExcept.ofExcept result >>= next) :=
  bind (ofExcept result) after

theorem choosing {condition : Prop} [Decidable condition] {first second : StoreM α}
    (yes : Alters first) (no : Alters second) :
    Alters (if condition then first else second) := by
  split
  · exact yes
  · exact no

theorem foldlM {step : β → α → StoreM β} (each : ∀ state item, Alters (step state item))
    (items : List α) (start : β) : Alters (items.foldlM step start) := by
  induction items generalizing start with
  | nil => exact pure start
  | cons item rest ih => exact bind (each start item) fun state => ih state

end Alters

/-! ## Cells -/

theorem addArray_alters (items : Array Value) : Alters (Store.addArray items) :=
  fun store => .single (.newArray store items)

theorem changeArray_alters (id : ArrayId) (change : Array Value → Array Value) :
    Alters (Store.changeArray id change) :=
  .modify fun store => .items store id change

theorem addObject_alters {object : HostObject} (plain : object.moduleBodies = []) :
    Alters (Store.addObject object) :=
  fun store => .single (.newObject store plain)

theorem addNative_alters (name : String) (operation : Native) :
    Alters (Store.addNative name operation) :=
  addObject_alters rfl

theorem newRecord_alters (typeName : String) (fields : Assoc Data) :
    Alters (Data.newRecord typeName fields) :=
  addObject_alters rfl

theorem setField_alters (id : ObjectId) (name : String) (value : Value) :
    Alters (Store.setField id name value) :=
  .modify fun store => .field store id name value

theorem emit_alters (text : String) : Alters (Store.emit text) :=
  .modify fun store => .output store (store.output ++ text)

theorem note_alters (level : Level) (origin : Origin) (message : String) :
    Alters (Store.note level origin message) :=
  .modify fun store => .journal store (store.journal.push ⟨level, origin, message⟩)

theorem advanceClock_alters (milliseconds : Float) : Alters (Store.advanceClock milliseconds) :=
  .modify fun store => .clock store (store.clock + milliseconds)

theorem changeSchedule_alters (change : Schedule → Schedule) : Alters (changeSchedule change) :=
  .modify fun store => .schedule store (change store.schedule)

/-! ## Data and values -/

mutual

theorem wrap_alters : ∀ data : Data, Alters data.wrap
  | .null | .bool _ | .float _ | .text _ | .closure _ | .host _ => by
      unfold Data.wrap
      exact .pure _
  | .foreign => by
      unfold Data.wrap
      exact .throw _
  | .int n => by
      unfold Data.wrap
      split
      · exact .pure _
      · exact .throw _
  | .list items => by
      unfold Data.wrap
      exact .bind (wrapAll_alters items) fun values => addArray_alters values.toArray
  | .table fields => by
      unfold Data.wrap
      exact .bind (newRecord_alters "Record" fields) fun _ => .pure _

theorem wrapAll_alters : ∀ items : List Data, Alters (Data.wrapAll items)
  | [] => by
      unfold Data.wrapAll
      exact .pure _
  | data :: rest => by
      unfold Data.wrapAll
      exact .bind (wrap_alters data) fun _ => .bind (wrapAll_alters rest) fun _ => .pure _

end

theorem read_alters (field : Field) : Alters field.read := by
  cases field with
  | value held => exact .pure held
  | raw data => exact wrap_alters data

mutual

theorem toData_alters : ∀ json : Json, Alters json.toData
  | .null | .bool _ | .int _ | .float _ | .text _ => by
      unfold Json.toData
      exact .pure _
  | .list items => by
      unfold Json.toData
      exact .bind (itemsToData_alters items) fun _ => .pure _
  | .object fields => by
      unfold Json.toData
      exact .bind (fieldsToData_alters fields) fun _ =>
        .bind (addObject_alters rfl) fun _ => .pure _

theorem itemsToData_alters : ∀ items : List Json, Alters (Json.itemsToData items)
  | [] => by
      unfold Json.itemsToData
      exact .pure _
  | item :: rest => by
      unfold Json.itemsToData
      exact .bind (toData_alters item) fun _ => .bind (itemsToData_alters rest) fun _ => .pure _

theorem fieldsToData_alters : ∀ fields : List (String × Json), Alters (Json.fieldsToData fields)
  | [] => by
      unfold Json.fieldsToData
      exact .pure _
  | (name, item) :: rest => by
      unfold Json.fieldsToData
      exact .bind (toData_alters item) fun _ => .bind (fieldsToData_alters rest) fun _ => .pure _

end

/-! ## Members and operators -/

/-- The member of a host object is a reading of the field with its name. -/
theorem member?_host (id : ObjectId) (name : String) (store : Store) :
    Store.member? (.host id) name store =
      (match (store.objects[id]?.bind HostObject.members?).bind (Assoc.get? · name) with
        | some field => (do return some (.value (← field.read)) : StoreM (Option Member))
        | none => return none) store :=
  rfl

theorem member?_alters (receiver : Value) (name : String) :
    Alters (Store.member? receiver name) := by
  refine .looking fun store => ?_
  split
  · split
    · exact .bind (read_alters _) fun _ => .pure _
    · exact .pure _
  · split
    · exact .pure _
    · split <;> exact .pure _

theorem bindMethod_alters (room : Nat) (method : MethodEntry) (receiver : Value) :
    Alters (Store.bindMethod room method receiver) := by
  cases method with
  | standard method => exact .bind (addNative_alters _ _) fun _ => .pure _
  | hosted method =>
      exact .looking fun _ => .checking fun _ => .bind (addNative_alters _ _) fun _ => .pure _

theorem memberValue_alters (room : Nat) (receiver : Value) (member : Member) :
    Alters (Store.memberValue room receiver member) := by
  cases member with
  | value value => exact .pure value
  | method method => exact bindMethod_alters room method receiver

theorem readMember_alters (room : Nat) (receiver : Value) (name : String) :
    Alters (Store.readMember room receiver name) := by
  unfold Store.readMember
  split
  · exact .throw _
  · refine .bind (member?_alters receiver name) fun found => ?_
    split
    · exact .pure _
    · exact .looking fun _ => .checking fun _ => .throw _

theorem readIndex_alters (room : Nat) (receiver index : Value) :
    Alters (Store.readIndex room receiver index) := by
  refine .looking fun store => ?_
  have refuse (failure : LookupFailure) : Alters (do
      let shown ← ofExcept (store.display room false index)
      throw (.ofCause (.undefinedName ("[" ++ shown ++ "]") failure)) : StoreM Value) :=
    .checking fun _ => .throw _
  dsimp only
  split
  · exact refuse _
  · split
    · split
      · exact .pure _
      · exact .pure _
      · exact refuse _
    · exact refuse _

theorem writeMember_alters (room : Nat) (receiver : Value) (name : String) (value : Value) :
    Alters (Store.writeMember room receiver name value) := by
  have refuse (store : Store) : Alters (Store.writeMember.refuse room receiver name store) :=
    .checking fun _ => .throw _
  refine .looking fun store => ?_
  split
  · split
    · exact setField_alters _ name value
    · exact refuse store
  · exact refuse store

theorem operate_alters (room : Nat) (operator : String) (operation : Operation)
    (left right : Value) : Alters (Store.operate room operator operation left right) := by
  cases operation with
  | add =>
      refine .looking fun store => ?_
      split
      · exact .pure _
      · exact .checking fun _ => .checking fun _ => .pure _
      · exact .checking fun _ => .checking fun _ => .pure _
      · exact addArray_alters _
      · exact .ofExcept _
  | arithmetic operation =>
      unfold Store.operate
      dsimp only
      split
      · exact .pure _
      · exact .ofExcept _
  | compare comparison =>
      unfold Store.operate
      dsimp only
      split
      · exact .pure _
      · exact .pure _
      · exact .ofExcept _
  | equal => exact .looking fun _ => .checking fun _ => .pure _
  | notEqual => exact .looking fun _ => .checking fun _ => .pure _

/-! ## The library -/

theorem method_alters (room : Nat) (method : Method) (receiver : Value) (arguments : List Value) :
    Alters (method.perform room receiver arguments) := by
  unfold Method.perform
  refine .checking fun _ => ?_
  split
  · exact .bind (changeArray_alters _ _) fun _ => .looking fun _ => .pure _
  · exact .looking fun _ => .bind (changeArray_alters _ _) fun _ => .pure _
  · exact .looking fun _ => .checking fun _ => .pure _
  · exact .looking fun _ => .checking fun _ => .pure _
  · exact .pure _
  · exact .pure _
  · exact addArray_alters _
  · exact addArray_alters _
  · exact .looking fun _ => .checking fun _ => addArray_alters _
  · exact .pure _

theorem onData_alters (room : Nat) (arguments : List Value) {operation : List Data → StoreM Data}
    (each : ∀ data, Alters (operation data)) : Alters (onData room arguments operation) :=
  .looking fun _ => .checking fun data => .bind (each data) fun result => wrap_alters result

theorem implementation_alters (implementation : Implementation) (items : List Data) :
    Alters (implementation.perform items) := by
  unfold Implementation.perform
  split
  · rename_i answer _
    cases answer with
    | data held => exact .pure held
    | record typeName fields => exact .bind (newRecord_alters typeName fields) fun _ => .pure _
  · exact .throw _

theorem methodOnCopy_alters (room : Nat) (method : HostMethod) (receiver : Data)
    (arguments : List Value) : Alters (method.performOn room receiver arguments) :=
  onData_alters room arguments fun _ => implementation_alters _ _

theorem methodEntry_alters (room : Nat) (method : MethodEntry) (receiver : Value)
    (arguments : List Value) : Alters (method.perform room receiver arguments) := by
  cases method with
  | standard method => exact method_alters room method receiver arguments
  | hosted method => exact onData_alters room _ (implementation_alters _)

theorem drawNumber_alters : Alters drawNumber :=
  fun store => .single (.random store store.random.nextNumber.2)

theorem dateAt_alters (milliseconds : Float) : Alters (dateAt milliseconds) := by
  unfold dateAt
  split
  · exact .bind (.bind (addNative_alters _ _) fun _ => newRecord_alters _ _) fun _ => .pure _
  · exact .throw _

theorem makeDate_alters (room : Nat) (arguments : List Data) :
    Alters (makeDate room arguments) := by
  refine .checking fun _ => .looking fun store => ?_
  split
  · exact dateAt_alters _
  · exact dateAt_alters _
  · exact dateAt_alters _
  · exact .checking fun _ => .throw _

theorem openSchedule_alters : Alters openSchedule := by
  refine .looking fun store => ?_
  split
  · exact .bind (changeSchedule_alters _) fun _ => note_alters _ _ _
  · exact .pure _

/-- What a spawn does with something that can be called. -/
def enlist (function : Value) (arguments : List Value) : StoreM Value := do
  openSchedule
  changeSchedule fun schedule => schedule.add function arguments
  let number := (← get).schedule.jobs.size
  noteJobs s!"task {number} spawned"
  let done ← Store.addNative "done" (.isDone number)
  let cancelled ← Store.addNative "cancelled" (.isCancelled number)
  return .host (← Data.newRecord "Task"
    [("id", .int number), ("done", .host done), ("cancelled", .host cancelled)])

/-- A spawn enlists what can be called and refuses everything else. -/
theorem spawnJob_rule {P : StoreM Value → Prop}
    (refused : ∀ kind, P (throw (.ofMisuse (.taskFunction kind))))
    (enlisted : ∀ function arguments, P (enlist function arguments)) (arguments : List Value) :
    P (spawnJob arguments) := by
  cases arguments with
  | nil => exact refused _
  | cons function rest =>
      cases function with
      | closure | host => exact enlisted _ rest
      | _ => exact refused _

theorem enlist_alters (function : Value) (arguments : List Value) :
    Alters (enlist function arguments) := by
  refine .bind openSchedule_alters fun _ => .bind (changeSchedule_alters _) fun _ => ?_
  refine .looking fun _ => .bind (note_alters _ _ _) fun _ => ?_
  refine .bind (addNative_alters _ _) fun _ => .bind (addNative_alters _ _) fun _ => ?_
  exact .bind (newRecord_alters _ _) fun _ => .pure _

theorem spawnJob_alters (arguments : List Value) : Alters (spawnJob arguments) :=
  spawnJob_rule (fun _ => .throw _) enlist_alters arguments

theorem cancelJob_alters (arguments : List Value) : Alters (cancelJob arguments) := by
  refine .checking fun _ => .looking fun store => .checking fun number => ?_
  split
  · exact .pure _
  · split
    · exact .pure _
    · exact .bind (note_alters _ _ _) fun _ => .bind (changeSchedule_alters _) fun _ => .pure _

theorem jsonText_alters (room : Nat) (arguments : List Value) :
    Alters (jsonText room arguments) := by
  refine .checking fun _ => .looking fun store => ?_
  exact .choosing (.checking fun _ => .pure _) (.pure _)

theorem jsonValue_alters (room : Nat) (arguments : List Value) :
    Alters (jsonValue room arguments) := by
  refine .checking fun _ => ?_
  split
  · split
    · exact .bind (toData_alters _) fun data => wrap_alters data
    · exact .throw _
    · exact .throw _
    · exact .throw _
  · exact .throw _

/-- Every operation of the host changes the store step by step. -/
theorem native_alters (room : Nat) (operation : Native) (arguments : List Value) :
    Alters (operation.perform room arguments) := by
  cases operation with
  | bound method receiver => exact method_alters room method receiver arguments
  | boundCopy method receiver => exact methodOnCopy_alters room method receiver arguments
  | math | least | greatest =>
      exact onData_alters room arguments fun _ => .looking fun _ => .ofExcept _
  | random => exact onData_alters room arguments fun _ => .checking fun _ => drawNumber_alters
  | date => exact onData_alters room arguments fun data => makeDate_alters room data
  | now => exact onData_alters room arguments fun _ => .checking fun _ => .looking fun _ => .pure _
  | isoNow =>
      exact onData_alters room arguments fun _ => .checking fun _ => .looking fun _ => .ofExcept _
  | isoAt => exact onData_alters room arguments fun _ => .checking fun _ => .ofExcept _
  | writeJson => exact jsonText_alters room arguments
  | readJson => exact jsonValue_alters room arguments
  | print =>
      exact .looking fun _ => .checking fun _ => .bind (emit_alters _) fun _ => .pure _
  | log =>
      exact .looking fun _ => .checking fun _ => .bind (note_alters _ _ _) fun _ => .pure _
  | spawn => exact spawnJob_alters arguments
  | cancel => exact cancelJob_alters arguments
  | isDone | isCancelled =>
      exact onData_alters room arguments fun _ => .checking fun _ => .looking fun _ => .pure _
  | hosted implementation => exact onData_alters room arguments (implementation_alters _)

end Scriptlet
