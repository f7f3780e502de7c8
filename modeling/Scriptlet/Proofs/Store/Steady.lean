import Scriptlet.Proofs.Store.Discipline

/-!
# Steady values

Texts, copies, members and sums of values are made without a breach of discipline: what is read off
a store fails only as code may fail, and what changes the store keeps it in order.
-/

namespace Scriptlet

variable {D : Discipline} {A : Agenda} {holds : Schedule → List Entry → Prop} {store : Store}
  {α : Type} {fault : Fault → Prop}

/-! ## Texts of values -/

namespace Store.Obeys

variable (obeys : store.Obeys D holds)

include obeys

/-- The data in the members of an object in the store is allowed. -/
theorem data_of_member {id : ObjectId} {object : HostObject}
    (found : store.objects[id]? = some object)
    {fields : Assoc Field} (members : object.members? = some fields) {name : String} {held : Data}
    (member : (name, .raw held) ∈ fields) : D.data held :=
  D.object_members (obeys.objects object (Array.mem_of_getElem? found)) members member

theorem displayObject_fails {room : Nat}
    (values : ∀ less < room, ∀ nested value, Fails D.fault (store.display less nested value))
    (datas : ∀ less < room, ∀ nested data, D.data data →
      Fails D.fault (store.displayData less nested data)) (id : ObjectId) :
    Fails D.fault (store.displayObject room id) := by
  match room, values, datas with
  | 0, _, _ => exact .error D.exhausted
  | 1, _, _ => exact .error D.exhausted
  | room + 2, values, datas =>
      rw [Store.displayObject]
      split
      case h_6 typeName fields found =>
        refine .bind (.mapM ?_) fun _ _ => .ok _
        rintro ⟨name, field⟩ member
        cases field with
        | value value => exact .bind (values room (by omega) true value) fun _ _ => .ok _
        | raw data =>
            have allowed := obeys.data_of_member found rfl (List.mem_of_mem_filter member)
            exact .bind (datas room (by omega) true data allowed) fun _ _ => .ok _
      all_goals exact .ok _

/-- The text of a value or of data can only fail as code may fail. -/
theorem display_fails_both (room : Nat) :
    (∀ nested value, Fails D.fault (store.display room nested value)) ∧
      ∀ nested data, D.data data → Fails D.fault (store.displayData room nested data) := by
  induction room using Nat.strongRecOn with
  | ind room ih =>
      have objects (less : Nat) (below : less < room) (id : ObjectId) :
          Fails D.fault (store.displayObject less id) :=
        obeys.displayObject_fails (fun lower smaller => (ih lower (by omega)).1)
          (fun lower smaller => (ih lower (by omega)).2) id
      constructor
      · intro nested value
        unfold Store.display
        split
        case h_6 id room _ =>
          refine .bind (.mapM fun item _ => ?_) fun _ _ => .ok _
          exact (ih (room + 1) (by omega)).1 true item
        case h_7 => exact objects _ (by omega) _
        case h_8 => exact .error D.exhausted
        all_goals exact .ok _
      · intro nested data allowed
        unfold Store.displayData
        split
        case h_3 n =>
          split
          · exact .ok _
          · exact .error D.tooLarge
        case h_7 => exact .error (D.foreign allowed)
        case h_8 items room _ =>
          refine .bind (.mapM fun item member => ?_) fun _ _ => .ok _
          exact (ih (room + 1) (by omega)).2 true item (D.list.mp allowed item member)
        case h_9 fields room _ =>
          refine .bind (.mapM ?_) fun _ _ => .ok _
          rintro ⟨name, data⟩ member
          have inTable := List.mem_of_mem_filter member
          exact .bind ((ih room (by omega)).2 true data (D.table allowed _ inTable))
            fun _ _ => .ok _
        case h_10 => exact objects _ (by omega) _
        case h_11 => exact .error D.exhausted
        all_goals exact .ok _

theorem display_fails (room : Nat) (nested : Bool) (value : Value) :
    Fails D.fault (store.display room nested value) :=
  (obeys.display_fails_both room).1 nested value

theorem displayData_fails (room : Nat) (nested : Bool) {data : Data} (allowed : D.data data) :
    Fails D.fault (store.displayData room nested data) :=
  (obeys.display_fails_both room).2 nested data allowed

theorem describe_fails (room : Nat) (value : Value) :
    Fails D.fault (store.describe room value) := by
  unfold Store.describe
  split
  · refine .bind (obeys.displayObject_fails (fun _ _ => obeys.display_fails _) ?_ _)
      fun _ _ => .ok _
    exact fun _ _ nested _ allowed => obeys.displayData_fails _ nested allowed
  · exact .ok _
  · exact .ok _
  · exact .bind (obeys.display_fails room true value) fun _ _ => .ok _

theorem spaced_fails (room : Nat) (values : List Value) :
    Fails D.fault (spaced store room values) :=
  .bind (.mapM fun value _ => obeys.display_fails room false value) fun _ _ => .ok _

/-! ## JSON forms -/

theorem objectToJson_fails {room : Nat}
    (values : ∀ value, Fails D.fault (store.toJson room value))
    (datas : ∀ data, D.data data → Fails D.fault (store.dataToJson room data)) (id : ObjectId) :
    Fails D.fault (store.objectToJson room id) := by
  match room, values, datas with
  | 0, _, _ =>
      unfold Store.objectToJson
      exact .error D.exhausted
  | room + 1, values, datas =>
      rw [Store.objectToJson]
      split
      · rename_i typeName fields found
        refine .bind (.mapM ?_) fun _ _ => .ok _
        rintro ⟨name, field⟩ member
        cases field with
        | value value => exact .bind (values value) fun _ _ => .ok _
        | raw data =>
            have allowed := obeys.data_of_member found rfl (List.mem_of_mem_filter member)
            exact .bind (datas data allowed) fun _ _ => .ok _
      · exact .ok _

/-- The JSON form of a value or of data can only fail as code may fail. -/
theorem toJson_fails_both (room : Nat) :
    (∀ value, Fails D.fault (store.toJson room value)) ∧
      ∀ data, D.data data → Fails D.fault (store.dataToJson room data) := by
  induction room using Nat.strongRecOn with
  | ind room ih =>
      have objects (less : Nat) (below : less < room) (id : ObjectId) :
          Fails D.fault (store.objectToJson less id) :=
        obeys.objectToJson_fails (ih less below).1 (ih less below).2 id
      constructor
      · intro value
        unfold Store.toJson
        split
        case h_6 room id =>
          exact .bind (.mapM fun item _ => (ih room (by omega)).1 item) fun _ _ => .ok _
        case h_7 => exact objects _ (by omega) _
        case h_8 | h_9 => exact .error D.exhausted
        all_goals exact .ok _
      · intro data allowed
        unfold Store.dataToJson
        split
        case h_3 n =>
          split
          · exact .ok _
          · exact .error D.tooLarge
        case h_7 => exact .error (D.foreign allowed)
        case h_8 room items =>
          refine .bind (.mapM fun item member => ?_) fun _ _ => .ok _
          exact (ih room (by omega)).2 item (D.list.mp allowed item member)
        case h_9 room fields =>
          refine .bind (.mapM ?_) fun _ _ => .ok _
          rintro ⟨name, data⟩ member
          have inTable := List.mem_of_mem_filter member
          exact .bind ((ih room (by omega)).2 data (D.table allowed _ inTable)) fun _ _ => .ok _
        case h_10 => exact objects _ (by omega) _
        case h_11 => exact .error D.exhausted
        all_goals exact .ok _

end Store.Obeys

/-! ## Values and data -/

theorem areEqual_fails (D : Discipline) (store : Store) (room : Nat) (left right : Value) :
    Fails D.fault (store.areEqual room left right) := by
  induction room using Nat.strongRecOn generalizing left right with
  | ind room ih =>
      unfold Store.areEqual
      split
      case h_7 room a b =>
        have pairs (pairs : List (Value × Value)) :
            Fails D.fault (allPairs (store.areEqual room) pairs) := by
          induction pairs with
          | nil => exact .ok true
          | cons pair rest next =>
              refine .bind (ih room (by omega) pair.1 pair.2) fun same _ => ?_
              cases same
              · exact .ok false
              · exact next
        dsimp only
        split
        · exact pairs _
        · exact .ok _
      case h_8 => exact .error D.exhausted
      all_goals exact .ok _

theorem unwrap_fails (D : Discipline) (store : Store) (room : Nat) (value : Value) :
    Fails D.fault (store.unwrap room value) := by
  induction room using Nat.strongRecOn generalizing value with
  | ind room ih =>
      unfold Store.unwrap
      split
      case h_7 room id =>
        exact .bind (.mapM fun item _ => ih room (by omega) item) fun _ _ => .ok _
      case h_8 => exact .error D.exhausted
      all_goals exact .ok _

/-- The data of a value is allowed. -/
theorem unwrap_data (D : Discipline) {store : Store} {room : Nat} {value : Value} {data : Data}
    (unwrapped : store.unwrap room value = .ok data) : D.data data := by
  induction room using Nat.strongRecOn generalizing value data with
  | ind room ih =>
      unfold Store.unwrap at unwrapped
      split at unwrapped
      case h_7 room id =>
        obtain ⟨items, copied, same⟩ := of_bind_ok unwrapped
        cases same
        refine D.list.mpr fun item member => ?_
        obtain ⟨value, -, unwrapped⟩ := mem_of_mapM_ok copied member
        exact ih room (by omega) unwrapped
      case h_8 => cases unwrapped
      all_goals
        cases unwrapped
        exact D.atom rfl

/-- The data of values is allowed. -/
theorem unwrapAll_data (D : Discipline) {store : Store} {room : Nat} {values : List Value}
    {items : List Data} (unwrapped : values.mapM (store.unwrap room) = .ok items) :
    ∀ item ∈ items, D.data item := by
  intro item member
  obtain ⟨value, -, unwrapped⟩ := mem_of_mapM_ok unwrapped member
  exact unwrap_data D unwrapped

theorem addArray_steady (items : Array Value) :
    Steady D A fault (fun _ => True) (Store.addArray items) :=
  fun _ obeys => .ok (obeys.similar rfl rfl rfl rfl rfl) trivial

theorem changeArray_steady (id : ArrayId) (change : Array Value → Array Value) :
    Steady D A fault (fun _ => True) (Store.changeArray id change) :=
  .modify fun _ obeys => obeys.similar rfl rfl rfl rfl rfl

theorem addClosure_steady {closure : Closure} (allowed : D.body closure.body) :
    Steady D A fault (fun _ => True) (Store.addClosure closure) :=
  fun _ obeys => .ok (obeys.pushClosure allowed) trivial

theorem addObject_steady {object : HostObject} (allowed : D.object object) :
    Steady D A fault (fun _ => True) (Store.addObject object) :=
  fun _ obeys => .ok (obeys.pushObject allowed) trivial

theorem addNative_steady (name : String) {operation : Native}
    (allowed : D.action (.native operation)) :
    Steady D A fault (fun _ => True) (Store.addNative name operation) :=
  addObject_steady allowed

theorem newRecord_steady {typeName : String} {fields : Assoc Data}
    (all : ∀ field ∈ fields, D.raw typeName field.2) :
    Steady D A fault (fun _ => True) (Data.newRecord typeName fields) :=
  addObject_steady (D.object_newRecord all)

/-- A record of atoms may have any type name. -/
theorem newAtoms_steady (typeName : String) {fields : Assoc Data}
    (atoms : ∀ field ∈ fields, field.2.isAtom = true) :
    Steady D A fault (fun _ => True) (Data.newRecord typeName fields) :=
  newRecord_steady fun field member => D.rawAtom (atoms field member)

theorem setField_steady (id : ObjectId) (name : String) (value : Value) :
    Steady D A fault (fun _ => True) (Store.setField id name value) :=
  .modify fun _ obeys => obeys.setField id name value

theorem note_steady (level : Level) {origin : Origin} (other : origin ≠ .tasks)
    (message : String) : Steady D A fault (fun _ => True) (Store.note level origin message) :=
  .modify fun _ obeys => obeys.note other

mutual

theorem wrap_steady : ∀ {data : Data}, D.data data →
    Steady D A D.fault (fun _ => True) data.wrap
  | .null, _ | .bool _, _ | .float _, _ | .text _, _ | .closure _, _ | .host _, _ => by
      unfold Data.wrap
      exact .pure trivial
  | .foreign, allowed => by
      unfold Data.wrap
      exact .throw (D.foreign allowed)
  | .int n, _ => by
      unfold Data.wrap
      split
      · exact .pure trivial
      · exact .throw D.tooLarge
  | .list items, allowed => by
      unfold Data.wrap
      exact .bind (wrapAll_steady (D.list.mp allowed)) fun values _ =>
        addArray_steady values.toArray
  | .table fields, allowed => by
      unfold Data.wrap
      refine .bind (newRecord_steady ?_) fun _ _ => .pure trivial
      exact fun field member => D.rawRecord (D.table allowed field member)

theorem wrapAll_steady : ∀ {items : List Data}, (∀ item ∈ items, D.data item) →
    Steady D A D.fault (fun _ => True) (Data.wrapAll items)
  | [], _ => by
      unfold Data.wrapAll
      exact .pure trivial
  | data :: rest, all => by
      unfold Data.wrapAll
      refine .bind (wrap_steady (all data List.mem_cons_self)) fun _ _ => ?_
      refine .bind (wrapAll_steady fun item member => all item (List.mem_cons_of_mem _ member)) ?_
      exact fun _ _ => .pure trivial

end

mutual

theorem toData_steady : ∀ json : Json, Steady D A fault D.data json.toData
  | .null | .bool _ | .int _ | .float _ | .text _ => by
      unfold Json.toData
      exact .pure (D.atom rfl)
  | .list items => by
      unfold Json.toData
      exact .bind (itemsToData_steady items) fun _ all => .pure (D.list.mpr all)
  | .object fields => by
      unfold Json.toData
      refine .bind (fieldsToData_steady fields) fun _ all => ?_
      exact .bind (addObject_steady all) fun _ _ => .pure (D.atom rfl)

theorem itemsToData_steady : ∀ items : List Json,
    Steady D A fault (fun datas => ∀ data ∈ datas, D.data data) (Json.itemsToData items)
  | [] => by
      unfold Json.itemsToData
      exact .pure (by simp)
  | item :: rest => by
      unfold Json.itemsToData
      refine .bind (toData_steady item) fun data first => ?_
      refine .bind (itemsToData_steady rest) fun datas others => .pure ?_
      exact List.forall_mem_cons.mpr ⟨first, others⟩

theorem fieldsToData_steady : ∀ fields : List (String × Json),
    Steady D A fault (fun fields => D.object (.record "Record" fields)) (Json.fieldsToData fields)
  | [] => by
      unfold Json.fieldsToData
      exact .pure (by simp [Discipline.object])
  | (name, item) :: rest => by
      unfold Json.fieldsToData
      refine .bind (toData_steady item) fun data first => ?_
      refine .bind (fieldsToData_steady rest) fun fields others => .pure ?_
      intro other held member
      rcases List.mem_cons.mp member with same | member
      · cases same
        exact D.rawRecord first
      · exact others other held member

end

/-! ## Members and operators -/

theorem get?_mem {fields : Assoc α} {name : String} {value : α}
    (found : fields.get? name = some value) : (name, value) ∈ fields := by
  induction fields with
  | nil => cases found
  | cons first rest ih =>
      obtain ⟨key, other⟩ := first
      rw [Assoc.get?_cons] at found
      split at found
      · rename_i same
        cases found
        exact same ▸ List.mem_cons_self
      · exact List.mem_cons_of_mem _ (ih found)

/-- The methods that a store has are allowed. -/
theorem Store.Obeys.method? (obeys : store.Obeys D holds) {kind : Kind} {name : String}
    {method : MethodEntry} (found : store.method? kind name = some method) : D.method method := by
  unfold Store.method? at found
  split at found
  · cases found
  · exact obeys.methods method (List.mem_of_find?_eq_some found)

theorem member?_steady (receiver : Value) (name : String) :
    Steady D A D.fault (fun found => ∀ member ∈ found, D.member member)
      (Store.member? receiver name) := by
  refine .looking fun store obeys => ?_
  split
  · split
    · rename_i id field found
      obtain ⟨fields, members, found⟩ := Option.bind_eq_some_iff.mp found
      obtain ⟨object, present, members⟩ := Option.bind_eq_some_iff.mp members
      have read : Steady D A D.fault (fun _ => True) field.read := by
        cases field with
        | value held => exact .pure trivial
        | raw data => exact wrap_steady (obeys.data_of_member present members (get?_mem found))
      exact .bind read fun _ _ => .pure (by simp [Discipline.member])
    · exact .pure nofun
  · split
    · exact .pure nofun
    · refine .choosing (.pure (by simp [Discipline.member])) (.pure fun member found => ?_)
      obtain ⟨method, registered, rfl⟩ := Option.map_eq_some_iff.mp found
      exact obeys.method? registered

theorem bindMethod_steady (room : Nat) {method : MethodEntry} (allowed : D.method method)
    (receiver : Value) :
    Steady D A D.fault (fun _ => True) (Store.bindMethod room method receiver) := by
  cases method with
  | standard method =>
      exact .bind (addNative_steady method.name (D.bound method receiver)) fun _ _ => .pure trivial
  | hosted method =>
      refine .looking fun store _ => .checking (unwrap_fails D store room receiver) ?_
      intro data unwrapped
      have copied : D.action (.native (.boundCopy method data)) :=
        D.boundCopy.mpr ⟨unwrap_data D unwrapped, allowed⟩
      exact .bind (addNative_steady method.name copied) fun _ _ => .pure trivial

theorem memberValue_steady (room : Nat) (receiver : Value) {member : Member}
    (allowed : D.member member) :
    Steady D A D.fault (fun _ => True) (Store.memberValue room receiver member) := by
  cases member with
  | value value => exact .pure trivial
  | method method => exact bindMethod_steady room allowed receiver

theorem readMember_steady (room : Nat) (receiver : Value) (name : String) :
    Steady D A D.fault D.member (Store.readMember room receiver name) := by
  unfold Store.readMember
  split
  · exact .throw (D.cause _)
  · refine .bind (member?_steady receiver name) fun found allowed => ?_
    split
    · exact .pure (allowed _ rfl)
    · refine .looking fun store obeys => .checking (obeys.describe_fails room receiver) ?_
      exact fun _ _ => .throw (D.cause _)

theorem readIndex_steady (room : Nat) (receiver index : Value) :
    Steady D A D.fault (fun _ => True) (Store.readIndex room receiver index) := by
  refine .looking fun store obeys => ?_
  have refuse (failure : LookupFailure) : Steady D A D.fault (fun _ => True) (do
      let shown ← ofExcept (store.display room false index)
      throw (.ofCause (.undefinedName ("[" ++ shown ++ "]") failure)) : StoreM Value) :=
    .checking (obeys.display_fails room false index) fun _ _ => .throw (D.cause _)
  dsimp only
  split
  · exact refuse _
  · split
    · split
      · exact .pure trivial
      · exact .pure trivial
      · exact refuse _
    · exact refuse _

theorem writeMember_steady (room : Nat) (receiver : Value) (name : String) (value : Value) :
    Steady D A D.fault (fun _ => True) (Store.writeMember room receiver name value) := by
  refine .looking fun store obeys => ?_
  have refuse : Steady D A D.fault (fun _ => True)
      (Store.writeMember.refuse room receiver name store) :=
    .checking (obeys.describe_fails room receiver) fun _ _ => .throw (D.misuse _)
  split
  · split
    · exact setField_steady _ name value
    · exact refuse
  · exact refuse

theorem refuseOperands_steady (operator : String) (left right : Value) :
    Steady D A D.fault (fun _ => True)
      (ofExcept (refuseOperands operator left right) : StoreM Value) :=
  .ofExcept (fun _ _ => trivial) (.error (D.misuse _))

theorem operate_steady (room : Nat) (operator : String) (operation : Operation)
    (left right : Value) :
    Steady D A D.fault (fun _ => True) (Store.operate room operator operation left right) := by
  cases operation with
  | add =>
      refine .looking fun store obeys => ?_
      have texts : Steady D A D.fault (fun _ => True) (do
          let first ← ofExcept (store.display room false left)
          let second ← ofExcept (store.display room false right)
          return .text (first ++ second) : StoreM Value) :=
        .checking (obeys.display_fails room false left) fun _ _ =>
          .checking (obeys.display_fails room false right) fun _ _ => .pure trivial
      split
      · exact .pure trivial
      · exact texts
      · exact texts
      · exact addArray_steady _
      · exact refuseOperands_steady _ _ _
  | arithmetic operation =>
      unfold Store.operate
      dsimp only
      split
      · exact .pure trivial
      · exact refuseOperands_steady _ _ _
  | compare comparison =>
      unfold Store.operate
      dsimp only
      split
      · exact .pure trivial
      · exact .pure trivial
      · exact refuseOperands_steady _ _ _
  | equal | notEqual =>
      exact .looking fun store _ =>
        .checking (areEqual_fails D store room left right) fun _ _ => .pure trivial

theorem segmentOf_steady (room : Nat) (name : String) (value : Value) (segment : String) :
    Steady D A D.fault (fun _ => True) (segmentOf room name value segment) := by
  unfold segmentOf
  split
  · exact .throw (D.cause _)
  · refine .bind (member?_steady value segment) fun found allowed => ?_
    split
    · exact memberValue_steady room value (allowed _ rfl)
    · exact .throw (D.cause _)

theorem itemAt_fails (D : Discipline) (store : Store) (name : String) (value : Value)
    (index : String) : Fails D.fault (itemAt store name value index) := by
  unfold itemAt
  dsimp only
  split
  · split
    · exact .error (D.cause _)
    · split
      · exact .ok _
      · exact .error (D.cause _)
  · exact .error (D.cause _)

end Scriptlet
