import Scriptlet.Proofs.Fault.Answers
import Scriptlet.Proofs.Mirror.Renaming

/-!
# Mirrored stores

Whatever is read off two stores that mirror each other is the same but for the names of cells, and
what changes them in the same way leaves them mirrored.
-/

namespace Scriptlet

/-! ## Ends of two runs -/

/-- Two runs end in the same way, with results and in states as described. -/
inductive Paired {σ α β : Type} (states : σ → σ → Prop) (results : α → β → Prop) :
    EStateM.Result Fault σ α → EStateM.Result Fault σ β → Prop
  | ok {value : α} {other : β} {left right : σ} (result : results value other)
      (state : states left right) : Paired states results (.ok value left) (.ok other right)
  | error {fault other : Fault} {left right : σ} (alike : fault.Alike other)
      (state : states left right) : Paired states results (.error fault left) (.error other right)

theorem Paired.endStates {σ α β : Type} {states : σ → σ → Prop} {results : α → β → Prop}
    {first : EStateM.Result Fault σ α} {second : EStateM.Result Fault σ β}
    (ended : Paired states results first second) : states (endState first) (endState second) := by
  cases ended <;> assumption

/-- The result of one run is an image of the result of the other one. -/
abbrev Images {α β : Type} (image : α → β) (value : α) (other : β) : Prop :=
  other = image value

/-- An operation that takes no objects away. -/
def Retains {α : Type} (operation : StoreM α) : Prop :=
  ∀ store : Store, store.objects.size ≤ (endState (operation store)).objects.size

theorem Store.Changes.objects_size_le {before after : Store} (changes : before.Changes after) :
    before.objects.size ≤ after.objects.size := by
  induction changes with
  | refl => exact Nat.le_refl _
  | tail _ change ih =>
      refine Nat.le_trans ih ?_
      cases change <;> simp

theorem Alters.retains {α : Type} {operation : StoreM α} (alters : Alters operation) :
    Retains operation :=
  fun store => (alters store).objects_size_le

namespace Retains

variable {α β : Type}

theorem of_same {operation : StoreM α}
    (same : ∀ store : Store, (endState (operation store)).objects = store.objects) :
    Retains operation :=
  fun store => Nat.le_of_eq (congrArg Array.size (same store)).symm

theorem bind {first : StoreM α} {next : α → StoreM β} (before : Retains first)
    (after : ∀ value, Retains (next value)) : Retains (first >>= next) := by
  intro store
  have start := before store
  change _ ≤ (endState (EStateM.bind first next store)).objects.size
  unfold EStateM.bind
  cases run : first store with
  | ok value middle =>
      rw [run] at start
      exact Nat.le_trans start (after value middle)
  | error fault middle =>
      rw [run] at start
      exact start

end Retains

/-- From mirrored stores, two operations end in the same way in mirrored stores, as long as the
limit on objects is kept. -/
structure Reflects {α β : Type} (M : Translation) (results : α → β → Prop) (left : StoreM α)
    (right : StoreM β) : Prop where
  retains : Retains left
  paired : ∀ store other, M.Stores store other →
    Within M.objectLimit (endState (left store)).objects.size →
      Paired M.Stores results (left store) (right other)

namespace Reflects

variable {M : Translation} {α β γ δ : Type} {results : α → β → Prop} {outcomes : γ → δ → Prop}

theorem pure {value : α} {other : β} (same : results value other) :
    Reflects M results (pure value) (pure other) where
  retains := .of_same fun _ => rfl
  paired _ _ stores _ := .ok same stores

theorem throw (fault : Fault) :
    Reflects M results (throw fault : StoreM α) (throw fault : StoreM β) where
  retains := .of_same fun _ => rfl
  paired _ _ stores _ := .error (.refl fault) stores

theorem ofExcept {image : α → β} {answer : Except Fault α} {other : Except Fault β}
    (same : other = answer.map image) :
    Reflects M (Images image) (ofExcept answer) (ofExcept other) := by
  subst same
  cases answer with
  | ok value => exact pure rfl
  | error fault => exact throw fault

/-- Checks that have the same answer. -/
theorem asking {answer other : Except Fault α} (same : other = answer) :
    Reflects M (Images id) (MonadExcept.ofExcept answer)
      (MonadExcept.ofExcept other) := by
  subst same
  cases other with
  | ok value => exact pure rfl
  | error fault => exact throw fault

/-- Changes that leave the number of objects as it is. -/
theorem modify {change other : Store → Store}
    (size : ∀ store, (change store).objects.size = store.objects.size)
    (same : ∀ store there, M.Stores store there → M.Stores (change store) (other there)) :
    Reflects M (Images id) (modify change : StoreM PUnit) (modify other : StoreM PUnit) where
  retains store := Nat.le_of_eq (size store).symm
  paired store there stores _ := .ok rfl (same store there stores)

theorem bind {image : α → β} {first : StoreM α} {other : StoreM β} {next : α → StoreM γ}
    {then' : β → StoreM δ} (before : Reflects M (Images image) first other)
    (after : ∀ value, Reflects M outcomes (next value) (then' (image value))) :
    Reflects M outcomes (first >>= next) (other >>= then') where
  retains := before.retains.bind fun value => (after value).retains
  paired store there stores within := by
    have start := before.paired store there stores
    change Within _ (endState (EStateM.bind first next store)).objects.size at within
    change Paired M.Stores outcomes (EStateM.bind first next store) (EStateM.bind other then' there)
    unfold EStateM.bind at within ⊢
    cases run : first store with
    | ok value middle =>
        rw [run] at start within
        -- What the first operation adds is still there in the end.
        have start := start (within.mono ((after value).retains middle))
        revert start
        generalize other there = ended
        rintro ⟨rfl, state⟩
        exact (after value).paired middle _ state within
    | error fault middle =>
        rw [run] at start within
        have start := start within
        revert start
        generalize other there = ended
        rintro ⟨⟩
        exact .error ‹_› ‹_›

/-- Steps after a look at the store. -/
theorem looking {next : Store → StoreM γ} {then' : Store → StoreM δ}
    (retains : Retains (get >>= next))
    (after : ∀ store there, M.Stores store there →
      Reflects M outcomes (next store) (then' there)) :
    Reflects M outcomes (get >>= next) (get >>= then') where
  retains := retains
  paired store there stores within := (after store there stores).paired store there stores within

/-- Answers that are read off the store. -/
theorem reading {image : α → β} {answer : Store → Except Fault α} {other : Store → Except Fault β}
    (same : ∀ store there, M.Stores store there → other there = (answer store).map image) :
    Reflects M (Images image) (get >>= fun store => MonadExcept.ofExcept (answer store))
      (get >>= fun store => MonadExcept.ofExcept (other store)) :=
  .looking (Alters.retains (.looking fun _ => .ofExcept _)) fun store there stores =>
    .ofExcept (same store there stores)

theorem choosing {condition other : Bool} {first second : StoreM α} {third fourth : StoreM β}
    (same : other = condition) (yes : Reflects M results first third)
    (no : Reflects M results second fourth) :
    Reflects M results (if condition then first else second) (if other then third else fourth) := by
  rw [same]
  split
  · exact yes
  · exact no

theorem foldlM {view : α → β} {step : α → γ → StoreM α} {other : β → γ → StoreM β}
    (each : ∀ value item, Reflects M (Images view) (step value item) (other (view value) item))
    (items : List γ) (start : α) :
    Reflects M (Images view) (items.foldlM step start)
      (items.foldlM other (view start)) := by
  induction items generalizing start with
  | nil => exact pure rfl
  | cons item rest ih =>
      rw [List.foldlM_cons, List.foldlM_cons]
      exact bind (each start item) fun value => ih value

end Reflects

namespace Translation

open Naming

variable {M : Translation} {store other : Store}

/-! ## Cells -/

namespace Stores

variable (stores : M.Stores store other)

include stores

theorem items (id : ArrayId) : other.items (M.arrays + id) = (store.items id).map M.value := by
  unfold Store.items
  rw [Array.getD_eq_getD_getElem?, Array.getD_eq_getD_getElem?]
  cases found : store.arrays[id]? with
  | none =>
      rw [stores.arrays.none_of_left found]
      simp
  | some items =>
      obtain ⟨there, foundThere, rfl⟩ := stores.arrays.some_of_left found
      rw [foundThere]
      rfl

theorem objectAt (id : ObjectId) :
    other.objects[M.objects id]? = store.objects[id]?.map M.object := by
  cases found : store.objects[id]? with
  | none => exact stores.objects.none_of_left found
  | some object =>
      obtain ⟨there, foundThere, rfl, -⟩ := stores.objects.some_of_left found
      exact foundThere

theorem closureAt (id : ClosureId) :
    other.closures[M.closures + id]? = store.closures[id]?.map M.closure := by
  cases found : store.closures[id]? with
  | none => exact stores.closures.none_of_left found
  | some closure =>
      obtain ⟨there, foundThere, rfl, -⟩ := stores.closures.some_of_left found
      exact foundThere

theorem isTruthy (value : Value) : other.isTruthy (M.value value) = store.isTruthy value := by
  cases value with
  | array id => simp [Store.isTruthy, stores.items, Array.isEmpty]
  | _ => rfl

theorem now : other.now = store.now := by
  unfold Store.now
  rw [stores.clock]

/-! ## Texts of values -/

theorem closureLabel (id : ClosureId) :
    other.closureLabel (M.closures + id) = store.closureLabel id := by
  unfold Store.closureLabel
  rw [stores.closureAt]
  cases store.closures[id]? <;> rfl

theorem isHostFunction (data : Data) :
    other.isHostFunction (M.data data) = store.isHostFunction data := by
  cases data with
  | host id =>
      rw [data_host, Store.isHostFunction, Store.isHostFunction, stores.objectAt]
      cases store.objects[id]? with
      | none => rfl
      | some object => simp
  | list | table => simp [Store.isHostFunction]
  | _ => rfl

theorem jobCount : other.jobCount = store.jobCount := by
  unfold Store.jobCount
  rw [stores.schedule.jobs.size, stores.schedule.forgotten, Nat.zero_add]

theorem displayObject {room : Nat}
    (values : ∀ value, other.display room true (M.value value) = store.display room true value)
    (datas : ∀ data, other.displayData room true (M.data data) = store.displayData room true data)
    (id : ObjectId) :
    other.displayObject (room + 2) (M.objects id) = store.displayObject (room + 2) id := by
  unfold Store.displayObject
  rw [stores.objectAt]
  cases store.objects[id]? with
  | none => rfl
  | some object =>
      cases object with
      | record typeName fields =>
          rw [Option.map_some, Naming.object]
          dsimp only
          congr 1
          refine filter_mapM_same ?_ ?_ fields
          · rintro ⟨name, field⟩
            cases field with
            | value => rfl
            | raw data => exact congrArg (!·) (stores.isHostFunction data)
          · rintro ⟨name, field⟩
            cases field <;> simp only [Naming.field, values, datas]
      | scheduler members => simp [Naming.object, stores.jobCount]
      | _ => rfl

theorem display_both (room : Nat) :
    (∀ nested value, other.display room nested (M.value value) = store.display room nested value) ∧
      ∀ nested data, other.displayData room nested (M.data data) =
        store.displayData room nested data := by
  induction room using Nat.strongRecOn with
  | ind room ih =>
      have objects (less : Nat) (below : less + 2 < room) (id : ObjectId) :
          other.displayObject (less + 2) (M.objects id) = store.displayObject (less + 2) id :=
        stores.displayObject ((ih less (by omega)).1 true) ((ih less (by omega)).2 true) id
      constructor
      · intro nested value
        unfold Store.display
        cases value with
        | array id =>
            match room, ih with
            | 0, _ | 1, _ | 2, _ => rfl
            | room + 3, ih =>
                simp only [value_array, stores.items, Array.toList_map]
                rw [mapM_same ((ih (room + 1) (by omega)).1 true)]
        | host id =>
            match room, objects with
            | 0, _ | 1, _ | 2, _ => rfl
            | room + 3, objects => exact objects room (by omega) id
        | closure id => exact congrArg Except.ok (stores.closureLabel id)
        | _ => rfl
      · intro nested data
        unfold Store.displayData
        cases data with
        | list items =>
            match room, ih with
            | 0, _ | 1, _ | 2, _ => rw [data_list]
            | room + 3, ih =>
                simp only [data_list]
                rw [mapM_same ((ih (room + 1) (by omega)).2 true)]
        | table fields =>
            match room, ih with
            | 0, _ | 1, _ | 2, _ => rw [data_table]
            | room + 3, ih =>
                simp only [data_table]
                congr 1
                refine filter_mapM_same ?_ ?_ fields
                · rintro ⟨name, data⟩
                  exact congrArg (!·) (stores.isHostFunction data)
                · rintro ⟨name, data⟩
                  simp only [(ih room (by omega)).2]
        | host id =>
            match room, objects with
            | 0, _ | 1, _ | 2, _ => rfl
            | room + 3, objects => exact objects room (by omega) id
        | closure id => exact congrArg Except.ok (stores.closureLabel id)
        | _ => rfl

theorem display (room : Nat) (nested : Bool) (value : Value) :
    other.display room nested (M.value value) = store.display room nested value :=
  (stores.display_both room).1 nested value

theorem displayData (room : Nat) (nested : Bool) (data : Data) :
    other.displayData room nested (M.data data) = store.displayData room nested data :=
  (stores.display_both room).2 nested data

theorem describe (room : Nat) (value : Value) :
    other.describe room (M.value value) = store.describe room value := by
  cases value with
  | host id =>
      match room with
      | 0 | 1 => rfl
      | room + 2 =>
          rw [value_host, Store.describe, Store.describe,
            stores.displayObject (stores.display room true) (stores.displayData room true)]
  | number | text | bool | absent =>
      exact congrArg (· >>= _) (stores.display room true _)
  | _ => rfl

theorem spaced (room : Nat) (values : List Value) :
    spaced other room (values.map M.value) = Scriptlet.spaced store room values := by
  unfold Scriptlet.spaced
  rw [mapM_same (stores.display room false)]

/-! ## JSON forms -/

theorem isJsonOmitted (field : Field) :
    other.isJsonOmitted (M.field field) = store.isJsonOmitted field := by
  cases field with
  | value value => cases value <;> rfl
  | raw data =>
      cases data with
      | host id => exact stores.isHostFunction (.host id)
      | list | table => simp [Naming.field, Store.isJsonOmitted, Store.isHostFunction]
      | _ => rfl

theorem objectToJson {room : Nat}
    (values : ∀ value, other.toJson room (M.value value) = store.toJson room value)
    (datas : ∀ data, other.dataToJson room (M.data data) = store.dataToJson room data)
    (id : ObjectId) :
    other.objectToJson room (M.objects id) = store.objectToJson room id := by
  match room, values, datas with
  | 0, _, _ =>
      unfold Store.objectToJson
      rfl
  | room + 1, values, datas =>
      rw [Store.objectToJson, Store.objectToJson, stores.objectAt]
      cases store.objects[id]? with
      | none => rfl
      | some object =>
          cases object with
          | record typeName fields =>
              rw [Option.map_some, Naming.object]
              dsimp only
              congr 1
              refine filter_mapM_same ?_ ?_ fields
              · rintro ⟨name, field⟩
                exact congrArg (!·) (stores.isJsonOmitted field)
              · rintro ⟨name, field⟩
                cases field <;> simp only [Naming.field, values, datas]
          | _ => rfl

theorem toJson_both (room : Nat) :
    (∀ value, other.toJson room (M.value value) = store.toJson room value) ∧
      ∀ data, other.dataToJson room (M.data data) = store.dataToJson room data := by
  induction room using Nat.strongRecOn with
  | ind room ih =>
      have objects (less : Nat) (below : less < room) (id : ObjectId) :
          other.objectToJson less (M.objects id) = store.objectToJson less id :=
        stores.objectToJson (ih less below).1 (ih less below).2 id
      constructor
      · intro value
        unfold Store.toJson
        cases value with
        | array id =>
            match room, ih with
            | 0, _ | 1, _ => rfl
            | room + 2, ih =>
                simp only [value_array, stores.items, Array.toList_map]
                rw [mapM_same (ih room (by omega)).1]
        | host id =>
            match room, objects with
            | 0, _ => rfl
            | room + 1, objects => exact objects room (by omega) id
        | _ => rfl
      · intro data
        unfold Store.dataToJson
        cases data with
        | list items =>
            match room, ih with
            | 0, _ | 1, _ => rw [data_list]
            | room + 2, ih =>
                simp only [data_list]
                rw [mapM_same (ih room (by omega)).2]
        | table fields =>
            match room, ih with
            | 0, _ | 1, _ => rw [data_table]
            | room + 2, ih =>
                simp only [data_table]
                congr 1
                refine filter_mapM_same ?_ ?_ fields
                · rintro ⟨name, data⟩
                  exact congrArg (!·) (stores.isJsonOmitted (.raw data))
                · rintro ⟨name, data⟩
                  simp only [(ih room (by omega)).2]
        | host id =>
            match room, objects with
            | 0, _ => rfl
            | room + 1, objects => exact objects room (by omega) id
        | _ => rfl

theorem toJson (room : Nat) (value : Value) :
    other.toJson room (M.value value) = store.toJson room value :=
  (stores.toJson_both room).1 value

/-! ## Comparisons and copies -/

theorem areEqual (room : Nat) (left right : Value) :
    other.areEqual room (M.value left) (M.value right) = store.areEqual room left right := by
  induction room using Nat.strongRecOn generalizing left right with
  | ind room ih =>
      have pairs (less : Nat) (below : less < room) (items : List (Value × Value)) :
          allPairs (other.areEqual less) (items.map fun pair => (M.value pair.1, M.value pair.2)) =
            allPairs (store.areEqual less) items := by
        induction items with
        | nil => rfl
        | cons pair rest next =>
            rw [List.map_cons, allPairs, allPairs, ih less below, next]
      cases left <;> cases right <;> unfold Store.areEqual
      case array.array a b =>
        match room, pairs with
        | 0, _ | 1, _ => rfl
        | room + 2, pairs =>
            simp only [value_array, stores.items, Array.size_map, Array.toList_map, List.zip_map]
            have same := pairs room (by omega) ((store.items a).toList.zip (store.items b).toList)
            split
            · exact same
            · rfl
      case host.host => simp [stores.objects.injective.eq_iff]
      all_goals simp

theorem unwrap (room : Nat) (value : Value) :
    other.unwrap room (M.value value) = (store.unwrap room value).map M.data := by
  induction room using Nat.strongRecOn generalizing value with
  | ind room ih =>
      unfold Store.unwrap
      cases value with
      | array id =>
          match room, ih with
          | 0, _ | 1, _ => rfl
          | room + 2, ih =>
              simp only [value_array, stores.items, Array.toList_map]
              rw [mapM_renamed fun item _ => ih room (by omega) item]
              cases (store.items id).toList.mapM (store.unwrap room) with
              | error fault => rfl
              | ok items => simp [Except.map]
      | _ => rfl

theorem unwrapAll (room : Nat) (values : List Value) :
    (values.map M.value).mapM (other.unwrap room) =
      (values.mapM (store.unwrap room)).map (List.map M.data) :=
  mapM_renamed fun value _ => stores.unwrap room value

end Stores

end Translation

/-! ## Changes -/

/-- An entry is noted in both journals. -/
theorem Translation.Stores.note {M : Translation} {store other : Store}
    (stores : M.Stores store other) (entry : Entry) :
    M.Stores { store with journal := store.journal.push entry }
      { other with journal := other.journal.push entry } where
  __ := stores
  journal := by
    change other.journal.push entry = M.journal (store.journal.push entry)
    rw [stores.journal, Array.push_eq_append, Array.push_eq_append, stores.noted]
  noted more := by
    change M.journal (store.journal.push entry ++ more) =
      M.journal (store.journal.push entry) ++ more
    rw [Array.push_eq_append, stores.noted, Array.append_assoc, stores.noted, Array.append_assoc]

section Changes

variable {M : Translation}

theorem addArray_reflects (items : Array Value) :
    Reflects M (Images M.value) (Store.addArray items) (Store.addArray (items.map M.value)) where
  retains _ := Nat.le_refl _
  paired store other stores _ := by
    refine .ok ?_ { stores with arrays := stores.arrays.push rfl }
    exact congrArg Value.array stores.arrays.size

theorem changeArray_reflects (cell : ArrayId) {change other : Array Value → Array Value}
    (same : ∀ items, other (items.map M.value) = (change items).map M.value) :
    Reflects M (Images id) (Store.changeArray cell change)
      (Store.changeArray (M.arrays + cell) other) := by
  refine .modify (fun _ => rfl) fun store there stores => { stores with arrays := ?_ }
  refine stores.arrays.modify ?_ cell
  rintro items _ rfl
  exact same items

theorem addClosure_reflects {closure : Closure} (free : M.Free (bodyNames closure.body)) :
    Reflects M (Images M.value) (Store.addClosure closure)
      (Store.addClosure (M.closure closure)) where
  retains _ := Nat.le_refl _
  paired store other stores _ := by
    refine .ok ?_ { stores with closures := stores.closures.push ⟨rfl, free⟩ }
    exact congrArg Value.closure stores.closures.size

theorem addModule_reflects {object : HostObject}
    (free : ∀ body ∈ object.moduleBodies, M.Free (bodyNames body)) :
    Reflects M (Images M.objects) (Store.addObject object) (Store.addObject (M.object object)) where
  retains store := Nat.le_trans (Nat.le_succ _) (Nat.le_of_eq (Array.size_push object).symm)
  paired store other stores within := by
    have room : Within M.objectLimit (store.objects.size + 1) :=
      within.mono (Nat.le_of_eq (Array.size_push object).symm)
    refine .ok (stores.objects.goesOn.next room).symm ?_
    exact { stores with objects := stores.objects.push room ⟨rfl, free⟩ }

theorem addObject_reflects {object : HostObject} (plain : object.moduleBodies = []) :
    Reflects M (Images M.objects) (Store.addObject object)
      (Store.addObject (M.object object)) :=
  addModule_reflects (by simp [plain])

theorem addNative_reflects (name : String) (operation : Native) :
    Reflects M (Images M.objects) (Store.addNative name operation)
      (Store.addNative name (M.native operation)) :=
  addObject_reflects rfl

theorem newRecord_reflects (typeName : String) (fields : Assoc Data) :
    Reflects M (Images M.objects) (Data.newRecord typeName fields)
      (Data.newRecord typeName (fields.mapValues M.data)) := by
  unfold Data.newRecord
  rw [M.rawFields_mapValues]
  exact addObject_reflects rfl

theorem setField_reflects (cell : ObjectId) (name : String) (value : Value) :
    Reflects M (Images id) (Store.setField cell name value)
      (Store.setField (M.objects cell) name (M.value value)) := by
  have same (object there : HostObject) (alike : M.Objects object there) :
      M.Objects (object.withField name value) (there.withField name (M.value value)) := by
    obtain ⟨rfl, free⟩ := alike
    cases object with
    | record typeName fields =>
        refine ⟨?_, free⟩
        change HostObject.record typeName _ = HostObject.record typeName _
        rw [Assoc.mapValues_put]
        rfl
    | _ => exact ⟨rfl, free⟩
  exact .modify (fun store => Array.size_modify) fun store there stores =>
    { stores with objects := stores.objects.modify same cell }

theorem emit_reflects (text : String) :
    Reflects M (Images id) (Store.emit text) (Store.emit text) :=
  .modify (fun _ => rfl) fun _ _ stores =>
    { stores with output := congrArg (· ++ text) stores.output }

theorem note_reflects (level : Level) (origin : Origin) (message : String) :
    Reflects M (Images id) (Store.note level origin message)
      (Store.note level origin message) :=
  .modify (fun _ => rfl) fun _ _ stores => stores.note ⟨level, origin, message⟩

theorem advanceClock_reflects (milliseconds : Float) :
    Reflects M (Images id) (Store.advanceClock milliseconds)
      (Store.advanceClock milliseconds) :=
  .modify (fun _ => rfl) fun _ _ stores =>
    { stores with clock := congrArg (· + milliseconds) stores.clock }

theorem changeSchedule_reflects {change other : Schedule → Schedule}
    (same : ∀ schedule there, M.Schedules schedule there →
      M.Schedules (change schedule) (other there)) :
    Reflects M (Images id) (changeSchedule change) (changeSchedule other) :=
  .modify (fun _ => rfl) fun _ _ stores => { stores with schedule := same _ _ stores.schedule }

/-! ## Values and data -/

mutual

theorem wrap_reflects : ∀ data : Data, Reflects M (Images M.value) data.wrap (M.data data).wrap
  | .null | .bool _ | .float _ | .text _ | .closure _ | .host _ => by
      simp only [Naming.data, Data.rename, Data.wrap]
      exact .pure rfl
  | .foreign => by
      simp only [Naming.data, Data.rename, Data.wrap]
      exact .throw _
  | .int n => by
      simp only [Naming.data, Data.rename, Data.wrap]
      cases Number.ofInt? n with
      | none => exact .throw _
      | some x => exact .pure rfl
  | .list items => by
      rw [Naming.data_list, Data.wrap, Data.wrap]
      refine .bind (wrapAll_reflects items) fun values => ?_
      simpa using addArray_reflects values.toArray
  | .table fields => by
      rw [Naming.data_table, Data.wrap, Data.wrap]
      refine .bind (newRecord_reflects "Record" fields) fun id => ?_
      exact .pure rfl

theorem wrapAll_reflects : ∀ items : List Data,
    Reflects M (Images (List.map M.value)) (Data.wrapAll items) (Data.wrapAll (items.map M.data))
  | [] => by
      rw [List.map_nil, Data.wrapAll]
      exact .pure rfl
  | data :: rest => by
      rw [List.map_cons, Data.wrapAll, Data.wrapAll]
      refine .bind (wrap_reflects data) fun value => ?_
      refine .bind (wrapAll_reflects rest) fun values => ?_
      exact .pure rfl

end

theorem read_reflects (field : Field) :
    Reflects M (Images M.value) field.read (M.field field).read := by
  cases field with
  | value held => exact .pure rfl
  | raw data => exact wrap_reflects data

mutual

theorem toData_reflects : ∀ json : Json, Reflects M (Images M.data) json.toData json.toData
  | .null | .bool _ | .int _ | .float _ | .text _ => by
      unfold Json.toData
      exact .pure rfl
  | .list items => by
      unfold Json.toData
      refine .bind (itemsToData_reflects items) fun items => ?_
      exact .pure (M.data_list items).symm
  | .object fields => by
      unfold Json.toData
      refine .bind (fieldsToData_reflects fields) fun fields => ?_
      refine .bind (addObject_reflects rfl) fun id => ?_
      exact .pure rfl

theorem itemsToData_reflects : ∀ items : List Json,
    Reflects M (Images (List.map M.data)) (Json.itemsToData items) (Json.itemsToData items)
  | [] => by
      unfold Json.itemsToData
      exact .pure rfl
  | item :: rest => by
      unfold Json.itemsToData
      refine .bind (toData_reflects item) fun data => ?_
      refine .bind (itemsToData_reflects rest) fun items => ?_
      exact .pure rfl

theorem fieldsToData_reflects : ∀ fields : List (String × Json),
    Reflects M (Images (Assoc.mapValues M.field)) (Json.fieldsToData fields)
      (Json.fieldsToData fields)
  | [] => by
      unfold Json.fieldsToData
      exact .pure rfl
  | (name, item) :: rest => by
      unfold Json.fieldsToData
      refine .bind (toData_reflects item) fun data => ?_
      refine .bind (fieldsToData_reflects rest) fun fields => ?_
      exact .pure rfl

end

end Changes

end Scriptlet
