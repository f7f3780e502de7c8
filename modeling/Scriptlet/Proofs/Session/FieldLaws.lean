import Scriptlet.Proofs.Session.FieldArrays

/-!
# Laws of fields

Giving a field of a record a value is a lens: the value is read back, and the other fields are read
as before.  A field that is given the value that is read off it shows as before, in texts and in
JSON forms, unless it holds a function of the host; and a handle names the same job, unless the
field is its number.  Those two exceptions come from readers that look at the data in a field and
not at the value that it becomes.
-/

namespace Scriptlet

/-! ## Writing a field -/

/-- The store after a field of a record was given a value. -/
def Store.withField (store : Store) (id : ObjectId) (name : String) (value : Value) : Store :=
  { store with objects := store.objects.modify id (·.withField name value) }

/-- The same end of steps in a changed store. -/
def changedEnd {α : Type} (change : Store → Store) :
    EStateM.Result Fault Store α → EStateM.Result Fault Store α
  | .ok value store => .ok value (change store)
  | .error fault store => .error fault (change store)

/-- A change of the store does not matter to steps: they end in the same way, in the changed
store. -/
def Unaffected {α : Type} (change : Store → Store) (steps : StoreM α) (store : Store) : Prop :=
  steps (change store) = changedEnd change (steps store)

theorem Unaffected.bind {α β : Type} {change : Store → Store} {first : StoreM α}
    {next : α → StoreM β} {store : Store} (before : Unaffected change first store)
    (after : ∀ value middle, first store = .ok value middle →
      Unaffected change (next value) middle) :
    Unaffected change (first >>= next) store := by
  change EStateM.bind first next _ = changedEnd change (EStateM.bind first next store)
  unfold EStateM.bind
  rw [before]
  cases run : first store with
  | ok value middle => exact after value middle run
  | error fault middle => rfl

section Writing

variable (store : Store) (id : ObjectId) (name : String) (value : Value)

theorem objects_withField (other : ObjectId) :
    (store.withField id name value).objects[other]? =
      if id = other then store.objects[other]?.map (·.withField name value)
      else store.objects[other]? :=
  Array.getElem?_modify

/-- A new object does not matter to a record in the store. -/
theorem withField_push_object (present : id < store.objects.size) (object : HostObject) :
    ({ store with objects := store.objects.push object } : Store).withField id name value =
      { store.withField id name value with
        objects := (store.withField id name value).objects.push object } := by
  have objects : (store.objects.push object).modify id (·.withField name value) =
      (store.objects.modify id (·.withField name value)).push object := by
    apply Array.ext_getElem?
    intro other
    simp only [Array.getElem?_modify, Array.getElem?_push, Array.size_modify]
    split_ifs with same last
    · exact absurd (same.trans last) (Nat.ne_of_lt present)
    all_goals rfl
  unfold Store.withField
  dsimp only
  rw [objects]

/-- Whether data is a function of the host does not depend on fields. -/
@[simp]
theorem isHostFunction_withField (data : Data) :
    (store.withField id name value).isHostFunction data = store.isHostFunction data := by
  cases data with
  | host other =>
      unfold Store.isHostFunction
      dsimp only
      rw [objects_withField]
      split
      · cases store.objects[other]? with
        | none => rfl
        | some object => cases object <;> rfl
      · rfl
  | _ => rfl

@[simp]
theorem isJsonOmitted_withField (field : Field) :
    (store.withField id name value).isJsonOmitted field = store.isJsonOmitted field := by
  unfold Store.isJsonOmitted
  split <;> first | rfl | exact isHostFunction_withField store id name value _

end Writing

section Reading

variable (id : ObjectId) (name : String) (value : Value)

mutual

/-- Data becomes the same value, with the same new cells, whatever a field holds. -/
theorem wrap_withField : ∀ (data : Data) (store : Store), id < store.objects.size →
    Unaffected (·.withField id name value) data.wrap store
  | .null, _, _ | .bool _, _, _ | .float _, _, _ | .text _, _, _ | .closure _, _, _ | .host _, _, _
  | .foreign, _, _ => by
      unfold Data.wrap
      rfl
  | .int n, _, _ => by
      unfold Unaffected Data.wrap
      cases Number.ofInt? n <;> rfl
  | .list items, store, present => by
      unfold Data.wrap
      exact .bind (wrapAll_withField items store present) fun _ _ _ => rfl
  | .table fields, store, present => by
      unfold Data.wrap
      refine .bind ?_ fun _ _ _ => rfl
      have added := withField_push_object store id name value present
      have size : (store.withField id name value).objects.size = store.objects.size :=
        Array.size_modify
      change EStateM.Result.ok _ _ = EStateM.Result.ok _ (Store.withField _ id name value)
      rw [added, size]

theorem wrapAll_withField : ∀ (items : List Data) (store : Store), id < store.objects.size →
    Unaffected (·.withField id name value) (Data.wrapAll items) store
  | [], _, _ => by
      unfold Data.wrapAll
      rfl
  | data :: rest, store, present => by
      unfold Data.wrapAll
      refine .bind (wrap_withField data store present) fun first middle run => ?_
      have grows := ((wrap_grows store data store).of_ok (.refl store) run).1
      have still : id < middle.objects.size :=
        (Array.getElem?_eq_some_iff.mp (grows.objects id _ (Array.getElem?_eq_getElem present))).1
      exact .bind (wrapAll_withField rest middle still) fun _ _ _ => rfl

end

theorem read_withField (field : Field) (store : Store) (present : id < store.objects.size) :
    Unaffected (·.withField id name value) field.read store := by
  cases field with
  | value held => rfl
  | raw data => exact wrap_withField id name value data store present

end Reading

/-- Every value that a field of a record is given is read back, and the other fields are read as
before: as the same values, which mean the same cells, or with the same fault. -/
structure Store.KeepsFields (store : Store) (id : ObjectId) : Prop where
  written : ∀ room name value,
    Store.writeMember room (.host id) name value store = .ok () (store.withField id name value)
  again : ∀ name value, Store.member? (.host id) name (store.withField id name value) =
    .ok (some (.value value)) (store.withField id name value)
  others : ∀ name value other, other ≠ name →
    Unaffected (·.withField id name value) (Store.member? (.host id) other) store

theorem writeMember_host (room : Nat) (id : ObjectId) (name : String) (value : Value)
    (store : Store) :
    Store.writeMember room (.host id) name value store =
      (match store.objects[id]? with
        | some (.record ..) => Store.setField id name value
        | _ => Store.writeMember.refuse room (.host id) name store) store :=
  rfl

section Record

variable {store : Store} {id : ObjectId} {typeName : String} {fields : Assoc Field}
  (found : store.objects[id]? = some (.record typeName fields))

include found

theorem record_withField (name : String) (value : Value) :
    (store.withField id name value).objects[id]? =
      some (.record typeName (fields.put name (.value value))) := by
  rw [objects_withField, if_pos rfl, found]
  rfl

theorem keepsFields : store.KeepsFields id where
  written room name value := by
    rw [writeMember_host, found]
    rfl
  again name value := by
    rw [member?_record (record_withField found name value), Assoc.get?_put_self]
    rfl
  others name value other different := by
    have present : id < store.objects.size := (Array.getElem?_eq_some_iff.mp found).1
    unfold Unaffected
    rw [member?_record (record_withField found name value), member?_record found,
      Assoc.get?_put_of_ne _ _ different.symm]
    cases fields.get? other with
    | none => rfl
    | some field =>
        exact Unaffected.bind (read_withField id name value field store present) fun _ _ _ => rfl

end Record

/-! ## Data and the value that it becomes -/

/-- A value has the same texts and JSON forms as data. -/
structure Store.Shows (store : Store) (value : Value) (data : Data) : Prop where
  text : ∀ room nested, store.display room nested value = store.displayData room nested data
  json : ∀ room, store.toJson room value = store.dataToJson room data

/-- The items of a new array are shown as the data that they were made of. -/
theorem shows_array {store : Store} {id : ArrayId} {values : List Value} {items : List Data}
    (held : store.items id = values.toArray) (all : List.Forall₂ store.Shows values items) :
    store.Shows (.array id) (.list items) where
  text room nested := by
    match room with
    | 0 | 1 | 2 => rfl
    | room + 3 =>
        rw [Store.display, Store.displayData, held]
        congr 1
        exact mapM_eq_of_forall₂ (all.imp fun _ _ shows => shows.text (room + 1) true)
  json room := by
    match room with
    | 0 | 1 =>
        unfold Store.toJson Store.dataToJson
        rfl
    | room + 2 =>
        rw [Store.toJson, Store.dataToJson, held]
        congr 1
        exact mapM_eq_of_forall₂ (all.imp fun _ _ shows => shows.json room)

mutual

/-- The value that plain data becomes shows as the data does, there and in every later store. -/
theorem wrap_shows : ∀ {data : Data} {store after later : Store} {value : Value}, data.Plain →
    data.wrap store = .ok value after → after.Grows later → later.Shows value data
  | .null, _, _, _, _, _, run, _ | .bool _, _, _, _, _, _, run, _ | .float _, _, _, _, _, _, run, _
  | .text _, _, _, _, _, _, run, _ | .closure _, _, _, _, _, _, run, _ => by
      unfold Data.wrap at run
      cases run
      constructor
      · intro room nested
        unfold Store.display Store.displayData
        rfl
      · intro room
        unfold Store.toJson Store.dataToJson
        rfl
  | .host _, _, _, _, _, _, run, _ => by
      unfold Data.wrap at run
      cases run
      constructor
      · rintro (_ | _ | _ | room) nested <;> rfl
      · rintro (_ | room) <;> unfold Store.toJson Store.dataToJson <;> rfl
  | .foreign, _, _, _, _, _, run, _ => by
      unfold Data.wrap at run
      cases run
  | .table _, _, _, _, _, plain, _, _ => by
      cases plain with
      | atom isAtom => cases isAtom
  | .int n, _, _, _, _, _, run, _ => by
      obtain ⟨x, known, rfl, rfl⟩ := wrap_int_ok run
      constructor
      · intro room nested
        simp [Store.display, Store.displayData, known]
      · intro room
        simp [Store.toJson, Store.dataToJson, known]
  | .list items, _, _, later, _, plain, run, grows => by
      unfold Data.wrap at run
      obtain ⟨values, wrapped, wrapping, added⟩ := bind_ok run
      cases added
      have all : List.Forall₂ later.Shows values items :=
        wrapAll_shows (Data.plain_list.mp plain) wrapping
          ((Store.Grows.push_array wrapped values.toArray).trans grows)
      have held : later.arrays[wrapped.arrays.size]? = some values.toArray :=
        grows.arrays _ _ (by simp)
      refine shows_array ?_ all
      simp [Store.items, Array.getD_eq_getD_getElem?, held]

theorem wrapAll_shows : ∀ {items : List Data} {store after later : Store} {values : List Value},
    (∀ item ∈ items, item.Plain) → Data.wrapAll items store = .ok values after →
    after.Grows later → List.Forall₂ later.Shows values items
  | [], _, _, _, _, _, run, _ => by
      unfold Data.wrapAll at run
      cases run
      exact .nil
  | data :: rest, _, _, _, _, plain, run, grows => by
      unfold Data.wrapAll at run
      obtain ⟨first, middle, here, run⟩ := bind_ok run
      obtain ⟨others, last, further, run⟩ := bind_ok run
      cases run
      have growing := ((wrapAll_grows middle rest middle).of_ok (.refl middle) further).1
      obtain ⟨plainHere, plainRest⟩ := List.forall_mem_cons.mp plain
      exact .cons (wrap_shows plainHere here (growing.trans grows))
        (wrapAll_shows plainRest further grows)

end

/-! ## Writing back what was read -/

/-- A field that holds other content which shows and is left out in the same way. -/
inductive Store.SameField (store : Store) : Field → Field → Prop
  | refl (field : Field) : SameField store field field
  | wrapped {data : Data} {value : Value} (ordinary : store.isHostFunction data = false)
      (omitted : store.isJsonOmitted (.raw data) = store.isJsonOmitted (.value value))
      (shows : store.Shows value data) : SameField store (.raw data) (.value value)

/-- The fields of two records are the same in turn. -/
abbrev Store.SameFields (store : Store) : Assoc Field → Assoc Field → Prop :=
  List.Forall₂ fun entry other => entry.1 = other.1 ∧ store.SameField entry.2 other.2

theorem Store.SameFields.refl (store : Store) (fields : Assoc Field) :
    store.SameFields fields fields :=
  List.forall₂_same.mpr fun _ _ => ⟨rfl, .refl _⟩

theorem Store.SameFields.put {store : Store} {fields : Assoc Field} {name : String}
    {old new : Field} (held : fields.get? name = some old) (same : store.SameField old new) :
    store.SameFields fields (fields.put name new) := by
  induction fields with
  | nil => cases held
  | cons entry rest ih =>
      obtain ⟨key, field⟩ := entry
      rw [Assoc.get?_cons] at held
      unfold Assoc.put
      split at held
      · rename_i here
        obtain rfl := Option.some.inj held
        rw [if_pos here]
        exact .cons ⟨rfl, same⟩ (SameFields.refl store rest)
      · rename_i elsewhere
        rw [if_neg elsewhere]
        exact .cons ⟨rfl, .refl field⟩ (ih held)

section WritingBack

variable {store : Store} {id : ObjectId} {typeName : String} {fields : Assoc Field} {name : String}
  {old : Field} {value : Value}

/-- Objects before and after a field was given other content: records with the same fields, or the
same object. -/
theorem objects_writtenBack (found : store.objects[id]? = some (.record typeName fields))
    (held : fields.get? name = some old) (same : store.SameField old (.value value))
    (other : ObjectId) :
    (store.withField id name value).objects[other]? = store.objects[other]? ∨
      ∃ typeName before after, store.objects[other]? = some (.record typeName before) ∧
        (store.withField id name value).objects[other]? = some (.record typeName after) ∧
        store.SameFields before after := by
  by_cases here : id = other
  · subst here
    exact .inr ⟨typeName, fields, _, found, record_withField found name value, .put held same⟩
  · rw [objects_withField, if_neg here]
    exact .inl rfl

variable (found : store.objects[id]? = some (.record typeName fields))
  (held : fields.get? name = some old) (same : store.SameField old (.value value))

include found held same

theorem displayObject_writtenBack {room : Nat}
    (values : (store.withField id name value).display room = store.display room)
    (datas : (store.withField id name value).displayData room = store.displayData room)
    (other : ObjectId) :
    (store.withField id name value).displayObject (room + 2) other =
      store.displayObject (room + 2) other := by
  unfold Store.displayObject
  rcases objects_writtenBack found held same other with unchanged | ⟨_, _, _, before, after, all⟩
  · rw [unchanged, values, datas]
    simp only [Store.shownFields, isHostFunction_withField]
    rfl
  · rw [before, after]
    dsimp only
    congr 1
    refine (filter_mapM_eq_of_forall₂ all ?_ ?_).symm
    · rintro ⟨key, field⟩ ⟨_, other⟩ ⟨rfl, alike⟩
      cases alike with
      | refl => cases field <;> simp
      | wrapped ordinary => simp [ordinary]
    · rintro ⟨key, field⟩ ⟨_, other⟩ ⟨rfl, alike⟩
      cases alike with
      | refl => rw [values, datas]
      | wrapped _ _ shows => simp only [values, shows.text]

/-- Nothing is shown in another way after a field was given content that is the same. -/
theorem display_writtenBack (room : Nat) :
    (store.withField id name value).display room = store.display room ∧
      (store.withField id name value).displayData room = store.displayData room := by
  induction room using Nat.strongRecOn with
  | ind room ih =>
      have objects (less : Nat) (below : less + 2 < room) (other : ObjectId) :
          (store.withField id name value).displayObject (less + 2) other =
            store.displayObject (less + 2) other :=
        displayObject_writtenBack found held same (ih less (by omega)).1
          (ih less (by omega)).2 other
      constructor
      · funext nested shown
        unfold Store.display
        split
        case h_6 room array =>
          rw [(ih (room + 1) (by omega)).1]
          rfl
        case h_7 => exact objects _ (by omega) _
        all_goals rfl
      · funext nested data
        unfold Store.displayData
        split
        case h_8 room items => rw [(ih (room + 1) (by omega)).2]
        case h_9 room table =>
          simp only [isHostFunction_withField]
          rw [(ih room (by omega)).2]
        case h_10 => exact objects _ (by omega) _
        all_goals rfl

theorem objectToJson_writtenBack {room : Nat}
    (values : (store.withField id name value).toJson room = store.toJson room)
    (datas : (store.withField id name value).dataToJson room = store.dataToJson room)
    (other : ObjectId) :
    (store.withField id name value).objectToJson room other = store.objectToJson room other := by
  match room, values, datas with
  | 0, _, _ =>
      unfold Store.objectToJson
      rfl
  | room + 1, values, datas =>
      rw [Store.objectToJson, Store.objectToJson]
      rcases objects_writtenBack found held same other with
        unchanged | ⟨_, _, _, before, after, all⟩
      · rw [unchanged, values, datas]
        simp only [isJsonOmitted_withField]
      · rw [before, after]
        dsimp only
        congr 1
        refine (filter_mapM_eq_of_forall₂ all ?_ ?_).symm
        · rintro ⟨key, field⟩ ⟨_, other⟩ ⟨rfl, alike⟩
          cases alike with
          | refl => simp
          | wrapped _ omitted => simp [omitted]
        · rintro ⟨key, field⟩ ⟨_, other⟩ ⟨rfl, alike⟩
          cases alike with
          | refl => rw [values, datas]
          | wrapped _ _ shows => simp only [values, shows.json]

/-- No JSON form is another one after a field was given content that is the same. -/
theorem toJson_writtenBack (room : Nat) :
    (store.withField id name value).toJson room = store.toJson room ∧
      (store.withField id name value).dataToJson room = store.dataToJson room := by
  induction room using Nat.strongRecOn with
  | ind room ih =>
      have objects (less : Nat) (below : less < room) (other : ObjectId) :
          (store.withField id name value).objectToJson less other =
            store.objectToJson less other :=
        objectToJson_writtenBack found held same (ih less below).1 (ih less below).2 other
      constructor
      · funext shown
        unfold Store.toJson
        split
        case h_6 room array =>
          rw [(ih room (by omega)).1]
          rfl
        case h_7 => exact objects _ (by omega) _
        all_goals rfl
      · funext data
        unfold Store.dataToJson
        split
        case h_8 room items => rw [(ih room (by omega)).2]
        case h_9 room table =>
          simp only [isJsonOmitted_withField]
          rw [(ih room (by omega)).2]
        case h_10 => exact objects _ (by omega) _
        all_goals rfl

end WritingBack

/-! ## Readings and handles -/

/-- Whether the text of a record leaves a field out. -/
def Store.hides (store : Store) : Field → Bool
  | .raw data => store.isHostFunction data
  | .value _ => false

section ReadBack

variable {store read : Store} {id : ObjectId} {typeName : String} {fields : Assoc Field}
  {name : String} {field : Field} {value : Value}
  (found : store.objects[id]? = some (.record typeName fields))
  (held : fields.get? name = some field)
  (reading : Store.member? (.host id) name store = .ok (some (.value value)) read)

include found held reading

theorem read_of_member? : field.read store = .ok value read := by
  rw [member?_record found, held] at reading
  obtain ⟨value, middle, reading, returned⟩ := bind_ok reading
  cases returned
  exact reading

/-- Reading a field adds cells at most, and leaves the jobs as they are. -/
theorem grows_of_member? : store.Grows read ∧ read.schedule = store.schedule := by
  have run := read_of_member? found held reading
  cases field with
  | value _ =>
      cases run
      exact ⟨.refl store, rfl⟩
  | raw data =>
      have same :
          Keeps (fun later : Store => later.schedule = store.schedule) _ _ data.wrap store :=
        wrap_keeps ⟨fun _ _ same => same, fun _ _ same => same⟩ data store
      exact ⟨((wrap_grows store data store).of_ok (.refl store) run).1, (same.of_ok rfl run).1⟩

/-- The value that was read stands for the field, unless the field is hidden. -/
theorem sameField_of_member? (plain : ∀ data, field = .raw data → data.Plain)
    (visible : store.hides field = false) : read.SameField field (.value value) := by
  have run := read_of_member? found held reading
  cases field with
  | value _ =>
      cases run
      exact .refl _
  | raw data =>
      have shows := wrap_shows (plain data rfl) run (.refl read)
      rw [Field.read] at run
      cases data with
      | table | foreign => cases plain _ rfl with | atom isAtom => cases isAtom
      | host function =>
          cases run
          exact .wrapped visible visible shows
      | int n =>
          obtain ⟨x, -, rfl, rfl⟩ := wrap_int_ok run
          exact .wrapped rfl rfl shows
      | list items =>
          unfold Data.wrap at run
          obtain ⟨values, wrapped, -, added⟩ := bind_ok run
          cases added
          exact .wrapped rfl rfl shows
      | _ =>
          cases run
          exact .wrapped rfl rfl shows

end ReadBack

/-- A handle whose number is no data of the host is refused. -/
def Fault.writtenNumber : Fault :=
  .host .wrongType
    ("int() argument must be a string, a bytes-like object or a real number, " ++ "not 'Value'")

/-- The number that a handle names its job with. -/
theorem handleNumber_task {store : Store} {id : ObjectId} {fields : Assoc Field}
    (found : store.objects[id]? = some (.record "Task" fields)) (operation : String) :
    handleNumber store operation (.host id) = match fields.get? "id" with
      | some (.raw (.int number)) => .ok number
      | _ => .error .writtenNumber := by
  unfold handleNumber
  dsimp only
  rw [found]
  rfl

/-- A record of another type is no handle. -/
theorem handleNumber_other {store : Store} {id : ObjectId} {typeName : String}
    {fields : Assoc Field} (found : store.objects[id]? = some (.record typeName fields))
    (other : typeName ≠ "Task") (operation : String) :
    handleNumber store operation (.host id) = .error (.ofMisuse (.taskHandle operation .host)) := by
  unfold handleNumber
  dsimp only
  rw [found]
  split
  · rename_i same
    cases same
    exact absurd rfl other
  · rfl

/-- The job of a handle is found through the data in the field of its number only. -/
theorem jobOf_withField {store : Store} {id : ObjectId} {typeName : String} {fields : Assoc Field}
    (found : store.objects[id]? = some (.record typeName fields)) (name : String) (value : Value)
    (operation : String) (other : typeName = "Task" → name = "id" →
      ∃ held, fields.get? "id" = some (.value held)) :
    jobOf (store.withField id name value) operation (.host id) =
      jobOf store operation (.host id) := by
  have written := record_withField found name value
  have number : handleNumber (store.withField id name value) operation (.host id) =
      handleNumber store operation (.host id) := by
    by_cases task : typeName = "Task"
    · subst task
      rw [handleNumber_task written, handleNumber_task found]
      by_cases number : name = "id"
      · obtain ⟨held, here⟩ := other rfl number
        rw [number, Assoc.get?_put_self, here]
      · rw [Assoc.get?_put_of_ne _ _ number]
    · rw [handleNumber_other written task, handleNumber_other found task]
  unfold jobOf
  rw [number]
  rfl

/-- What follows when the value that was read off a field is written back to it.  Reading has added
cells at most.  A field that the text of its record shows leaves all texts and JSON forms as they
were; one that is hidden shows from then on.  The record names the same job as a handle, unless the
data in the field is the number of the job: no handle with a number that was written names a job. -/
structure Store.WritesBack (store read : Store) (id : ObjectId) (typeName : String)
    (fields : Assoc Field) (name : String) (field : Field) (value : Value) : Prop where
  grows : store.Grows read
  texts : store.hides field = false → ∀ room nested shown,
    (read.withField id name value).display room nested shown = read.display room nested shown
  forms : store.hides field = false → ∀ room shown,
    (read.withField id name value).toJson room shown = read.toJson room shown
  exposed : store.hides field = true →
    (name, field) ∉ read.shownFields fields ∧ read.isJsonOmitted field = true ∧
      (name, .value value) ∈
        (read.withField id name value).shownFields (fields.put name (.value value)) ∧
      (read.withField id name value).isJsonOmitted (.value value) = false
  job : (typeName = "Task" → name = "id" → ∃ held, field = .value held) →
    ∀ operation, jobOf (read.withField id name value) operation (.host id) =
      jobOf store operation (.host id)
  jobless : typeName = "Task" → name = "id" →
    ∀ operation, jobOf (read.withField id name value) operation (.host id) = .error .writtenNumber

/-- The laws of fields: writing keeps every value that is written and the other fields, and writing
back what was read keeps what can be seen of records and handles, apart from the functions and job
numbers that the host has put into fields. -/
def Store.FieldLaws (store : Store) : Prop :=
  ∀ (id : ObjectId) (typeName : String) (fields : Assoc Field),
    store.objects[id]? = some (.record typeName fields) → store.KeepsFields id ∧
      ∀ (name : String) (field : Field) (value : Value) (read : Store),
        fields.get? name = some field →
        Store.member? (.host id) name store = .ok (some (.value value)) read →
          store.WritesBack read id typeName fields name field value

theorem mem_put (fields : Assoc Field) (name : String) (field : Field) :
    (name, field) ∈ fields.put name field :=
  get?_mem (Assoc.get?_put_self fields name field)

/-- A hidden field shows once its value has been written to it. -/
theorem exposed_withField {store read : Store} {id : ObjectId} {fields : Assoc Field}
    {name : String} {field : Field} {value : Value} (hidden : store.hides field = true)
    (run : field.read store = .ok value read) :
    (name, field) ∉ read.shownFields fields ∧ read.isJsonOmitted field = true ∧
      (name, .value value) ∈
        (read.withField id name value).shownFields (fields.put name (.value value)) ∧
      (read.withField id name value).isJsonOmitted (.value value) = false := by
  cases field with
  | value _ => cases hidden
  | raw data =>
      cases data with
      | host function =>
          rw [Field.read, Data.wrap] at run
          cases run
          refine ⟨fun shown => ?_, hidden, List.mem_filter.mpr ⟨mem_put _ _ _, rfl⟩, rfl⟩
          have visible := (List.mem_filter.mp shown).2
          rw [Store.hides] at hidden
          simp [hidden] at visible
      | _ => cases hidden

theorem fieldLaws_of_obeys {outcomes : Outcomes} {body : List Stmt → Prop}
    {holds : Schedule → List Entry → Prop} {store : Store}
    (obeys : store.Obeys (.standard outcomes body) holds) : store.FieldLaws := by
  intro id typeName fields found
  refine ⟨keepsFields found, fun name field value read held reading => ?_⟩
  have plain (data : Data) (raw : field = .raw data) : data.Plain :=
    (obeys.objects _ (Array.mem_of_getElem? found) name data (get?_mem (raw ▸ held))).1
  obtain ⟨grows, jobs⟩ := grows_of_member? found held reading
  have still : read.objects[id]? = some (.record typeName fields) := grows.objects id _ found
  have same := sameField_of_member? found held reading plain
  have sameJob (operation : String) :
      jobOf read operation (.host id) = jobOf store operation (.host id) := by
    unfold jobOf handleNumber
    dsimp only
    rw [still, found, jobs]
  constructor
  · exact grows
  · intro visible room nested shown
    rw [(display_writtenBack still held (same visible) room).1]
  · intro visible room shown
    rw [(toJson_writtenBack still held (same visible) room).1]
  · exact fun hidden => exposed_withField hidden (read_of_member? found held reading)
  · intro number operation
    rw [← sameJob operation]
    refine jobOf_withField still name value operation fun task isNumber => ?_
    obtain ⟨before, rfl⟩ := number task isNumber
    exact ⟨before, isNumber ▸ held⟩
  · rintro rfl rfl operation
    unfold jobOf
    rw [handleNumber_task (record_withField still "id" value), Assoc.get?_put_self]
    rfl

/-- However a run on any choice of builtins ends, the laws of fields hold of all its records. -/
theorem runFresh_fieldLaws (settings : Settings) (entropy : Int) (source : String)
    (file : Option String) (disk : Disk) (depthLimit : Nat) (clock : Float) :
    (endState (runFresh settings entropy source file
      (.unused disk depthLimit clock))).store.FieldLaws := by
  have code : (Discipline.standard .any fun _ => True).Code :=
    .any (fun _ => trivial) fun _ => trivial
  have keeps : Keeps _ _ _ (runFresh settings entropy source file)
      (.unused disk depthLimit clock) :=
    runFresh_keeps code settings entropy _ fun _ _ => trivial
  exact fieldLaws_of_obeys (keeps.endState (unused_obeys _ disk depthLimit clock))

/-- A handle whose number is written back can no longer be joined. -/
theorem runFresh_fieldLaws_unjoinable :
    let start : Machine := .unused ((FileTree.directory []).disk "/") 9 0.0
    let place : Span := ⟨⟨3, 1, 42, none⟩, ⟨3, 13, 54, none⟩⟩
    let wording := "int() argument must be a string, a bytes-like object or a real number, " ++
      "not 'Value'"
    let e : ScriptError := ⟨.misuse (.hostCall "join" wording), some place, "Task.join(t)", none⟩
    (∃ value last,
      runFresh {} 0 "let t = Task.spawn(fn() \x7b\x7d);\nTask.join(t)" none start =
        .ok value last) ∧
      ∃ last, runFresh {} 0 "let t = Task.spawn(fn() \x7b\x7d);\nt.id = t.id;\nTask.join(t)" none
        start = .error (.script e) last := by
  intro start place wording e
  have joined : faultOf
      (runFresh {} 0 "let t = Task.spawn(fn() \x7b\x7d);\nTask.join(t)" none start) = none := by
    decide +kernel
  have refused : faultOf (runFresh {} 0
      "let t = Task.spawn(fn() \x7b\x7d);\nt.id = t.id;\nTask.join(t)" none start) =
        some (.script e) := by
    decide +kernel
  exact ⟨exists_of_faultOf_eq_none joined, exists_of_faultOf refused⟩

example : (endState (runFresh { builtins := [.json, .print] } 0
    "let r = JSON.parse('\x7b\"a\": [\"x\"]\x7d'); r.a = r.a; print(r)" none
    (.unused ((FileTree.directory []).disk "/") 0 0.0))).store.output = "\x7ba: [\"x\"]\x7d\n" := by
  decide +kernel

end Scriptlet
