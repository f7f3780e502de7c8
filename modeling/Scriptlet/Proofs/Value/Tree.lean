import Mathlib.Data.List.Forall2
import Scriptlet.Proofs.Fault.Answers
import Scriptlet.Value.JsonForm

/-!
# Values as trees

A value that does not contain itself unfolds to a finite tree, in which the cells of the store are
written out.  Data of the host unfolds to the tree of the value that it becomes.  The JSON form of a
value is a function of its tree alone.
-/

namespace Scriptlet

/-- What a value unfolds to. -/
inductive Tree where
  | number (value : Float)
  | text (value : String)
  | bool (value : Bool)
  /-- A field of a record that its JSON form leaves out. -/
  | function
  /-- Whatever else has no JSON form of its own. -/
  | other
  | list (items : List Tree)
  | record (fields : List (String × Tree))

namespace Tree

mutual

/-- The tree with all the trees inside it. -/
def parts : Tree → List Tree
  | .list items => .list items :: partsOfItems items
  | .record fields => .record fields :: partsOfFields fields
  | leaf => [leaf]

/-- The trees inside the items of a list. -/
def partsOfItems : List Tree → List Tree
  | [] => []
  | item :: rest => item.parts ++ partsOfItems rest

/-- The trees inside the fields of a record. -/
def partsOfFields : List (String × Tree) → List Tree
  | [] => []
  | (_, value) :: rest => value.parts ++ partsOfFields rest

end

mutual

/-- Whether two trees are equal: numbers are compared as numbers, and records field by field in
order. -/
def same : Tree → Tree → Bool
  | .number x, .number y => x == y
  | .text a, .text b => a == b
  | .bool a, .bool b => a == b
  | .function, .function => true
  | .other, .other => true
  | .list items, .list items' => sameItems items items'
  | .record fields, .record fields' => sameFields fields fields'
  | _, _ => false

/-- Whether two lists have equal items. -/
def sameItems : List Tree → List Tree → Bool
  | [], [] => true
  | item :: rest, item' :: rest' => item.same item' && sameItems rest rest'
  | _, _ => false

/-- Whether two records have equal fields under the same names. -/
def sameFields : List (String × Tree) → List (String × Tree) → Bool
  | [], [] => true
  | (name, value) :: rest, (name', value') :: rest' =>
      name == name' && value.same value' && sameFields rest rest'
  | _, _ => false

end

/-- Whether a field of a record is left out of the JSON form. -/
def isFunction : Tree → Bool
  | .function => true
  | _ => false

mutual

/-- The JSON form of a tree. -/
def toJson : Tree → Json
  | .number x => Number.toJson x
  | .text value => .text value
  | .bool value => .bool value
  | .function => .null
  | .other => .null
  | .list items => .list (itemsToJson items)
  | .record fields => .object (fieldsToJson fields)

/-- The JSON forms of the items of a list. -/
def itemsToJson : List Tree → List Json
  | [] => []
  | item :: rest => item.toJson :: itemsToJson rest

/-- The JSON forms of the fields of a record that are not left out. -/
def fieldsToJson : List (String × Tree) → List (String × Json)
  | [] => []
  | (name, value) :: rest =>
      if value.isFunction then fieldsToJson rest else (name, value.toJson) :: fieldsToJson rest

end

theorem itemsToJson_eq_map (items : List Tree) : itemsToJson items = items.map toJson := by
  induction items with
  | nil => rfl
  | cons item rest ih => rw [itemsToJson, ih, List.map_cons]

theorem self_mem_parts (tree : Tree) : tree ∈ tree.parts := by
  cases tree <;> simp [parts]

theorem mem_partsOfItems {part item : Tree} {items : List Tree} (member : item ∈ items)
    (inside : part ∈ item.parts) : part ∈ partsOfItems items := by
  induction items with
  | nil => cases member
  | cons first rest ih =>
      rw [partsOfItems, List.mem_append]
      rcases List.mem_cons.mp member with rfl | member
      · exact Or.inl inside
      · exact Or.inr (ih member)

theorem mem_partsOfFields {part : Tree} {field : String × Tree} {fields : List (String × Tree)}
    (member : field ∈ fields) (inside : part ∈ field.2.parts) : part ∈ partsOfFields fields := by
  induction fields with
  | nil => cases member
  | cons first rest ih =>
      rw [partsOfFields, List.mem_append]
      rcases List.mem_cons.mp member with rfl | member
      · exact Or.inl inside
      · exact Or.inr (ih member)

theorem parts_item_subset {item : Tree} {items : List Tree} (member : item ∈ items) :
    item.parts ⊆ (Tree.list items).parts := by
  intro part inside
  rw [parts]
  exact List.mem_cons_of_mem _ (mem_partsOfItems member inside)

theorem parts_field_subset {field : String × Tree} {fields : List (String × Tree)}
    (member : field ∈ fields) : field.2.parts ⊆ (Tree.record fields).parts := by
  intro part inside
  rw [parts]
  exact List.mem_cons_of_mem _ (mem_partsOfFields member inside)

end Tree

namespace Store

mutual

/-- The tree of a value. -/
def tree (store : Store) : (room : Nat) → Value → Except Fault Tree
  | _, .number x => .ok (.number x)
  | _, .text value => .ok (.text value)
  | _, .bool value => .ok (.bool value)
  | _, .absent => .ok .other
  | _, .closure _ => .ok .other
  | room + 2, .array id => do
      return .list (← (store.items id).toList.mapM (tree store room))
  | room + 1, .host id => objectTree store room id
  | _, .array _ => .error .exhausted
  | _, .host _ => .error .exhausted

/-- The tree of a host object. -/
def objectTree (store : Store) : (room : Nat) → ObjectId → Except Fault Tree
  | room + 1, id =>
      match store.objects[id]? with
      | some (.record _ fields) => do
          return .record (← fields.mapM fun (name, field) => do
            if store.isJsonOmitted field then return (name, .function)
            else match field with
              | .value value => return (name, ← tree store (room + 1) value)
              | .raw data => return (name, ← dataTree store (room + 1) data))
      | _ => .ok .other
  | 0, _ => .error .exhausted

/-- The tree of the value that data of the host becomes. -/
def dataTree (store : Store) : (room : Nat) → Data → Except Fault Tree
  | _, .null => .ok .other
  | _, .bool value => .ok (.bool value)
  | _, .int n =>
      match Number.ofInt? n with
      | some x => .ok (.number x)
      | none => .error .tooLarge
  | _, .float x => .ok (.number x)
  | _, .text value => .ok (.text value)
  | _, .closure _ => .ok .other
  | _, .foreign => .error .notExposable
  | room + 2, .list items => do
      return .list (← items.mapM (dataTree store room))
  | room + 2, .table fields => do
      return .record (← fields.mapM fun (name, data) => do
        if store.isJsonOmitted (.raw data) then return (name, .function)
        else return (name, ← dataTree store room data))
  | room + 1, .host id => objectTree store room id
  | _, _ => .error .exhausted

end

/-! ## The JSON form of a tree -/

theorem mapM_map {α β γ : Type} {form : α → Except Fault γ} {unfold : α → Except Fault β}
    {view : β → γ} {items : List α} (each : ∀ item ∈ items, form item = view <$> unfold item) :
    items.mapM form = List.map view <$> items.mapM unfold := by
  induction items with
  | nil => rfl
  | cons item rest ih =>
      rw [List.mapM_cons, List.mapM_cons, each item List.mem_cons_self,
        ih fun other member => each other (List.mem_cons_of_mem item member)]
      cases unfold item with
      | error fault => rfl
      | ok value => cases rest.mapM unfold <;> rfl

/-- The fields that are left out of the JSON form of a record are marked in its tree. -/
theorem filter_mapM_map {α : Type} {omitted : α → Bool} {form : α → Except Fault Json}
    {unfold : α → Except Fault Tree} {fields : List (String × α)}
    (each : ∀ field ∈ fields, form field.2 = Tree.toJson <$> unfold field.2)
    (plain : ∀ item tree, unfold item = .ok tree → tree.isFunction = false) :
    (fields.filter fun field => !omitted field.2).mapM
        (fun field => return (field.1, ← form field.2)) =
      Tree.fieldsToJson <$> fields.mapM fun field => do
        if omitted field.2 then return (field.1, .function)
        else return (field.1, ← unfold field.2) := by
  induction fields with
  | nil => rfl
  | cons field rest ih =>
      have later := ih fun other member => each other (List.mem_cons_of_mem field member)
      have here := each field List.mem_cons_self
      rw [List.mapM_cons, List.filter_cons]
      cases left : omitted field.2 with
      | true =>
          simp only [Bool.not_true, Bool.false_eq_true, if_false, if_true]
          rw [later]
          cases rest.mapM fun field => (do
            if omitted field.2 then return (field.1, Tree.function)
            else return (field.1, ← unfold field.2) : Except Fault (String × Tree)) <;> rfl
      | false =>
          simp only [Bool.not_false, Bool.false_eq_true, if_false, if_true]
          rw [List.mapM_cons, later, here]
          cases unfolded : unfold field.2 with
          | error fault => rfl
          | ok tree =>
              have kept := plain field.2 tree unfolded
              cases rest.mapM fun field => (do
                if omitted field.2 then return (field.1, Tree.function)
                else return (field.1, ← unfold field.2) : Except Fault (String × Tree)) with
              | error fault => rfl
              | ok trees =>
                  simp [bind, Except.bind, pure, Except.pure, Functor.map, Except.map,
                    Tree.fieldsToJson, kept]

theorem listToJson_eq_tree {α : Type} {form : α → Except Fault Json}
    {unfold : α → Except Fault Tree} {items : List α}
    (each : ∀ item ∈ items, form item = Tree.toJson <$> unfold item) :
    Json.list <$> items.mapM form = Tree.toJson <$> Tree.list <$> items.mapM unfold := by
  have view : Tree.toJson ∘ Tree.list = Json.list ∘ List.map Tree.toJson := by
    funext trees
    simp [Tree.toJson, Tree.itemsToJson_eq_map]
  rw [mapM_map each, ← comp_map, ← comp_map, view]

theorem recordToJson_eq_tree {α : Type} (omitted : α → Bool) {form : α → Except Fault Json}
    {unfold : α → Except Fault Tree} {fields : List (String × α)}
    (each : ∀ field ∈ fields, form field.2 = Tree.toJson <$> unfold field.2)
    (plain : ∀ item tree, unfold item = .ok tree → tree.isFunction = false) :
    Json.object <$> (fields.filter fun field => !omitted field.2).mapM
        (fun field => return (field.1, ← form field.2)) =
      Tree.toJson <$> Tree.record <$> fields.mapM fun field => do
        if omitted field.2 then return (field.1, .function)
        else return (field.1, ← unfold field.2) := by
  have view : Tree.toJson ∘ Tree.record = Json.object ∘ Tree.fieldsToJson := by
    funext trees
    simp [Tree.toJson]
  rw [filter_mapM_map each plain, ← comp_map, ← comp_map, view]

/-- A host object unfolds to a record, or it has no JSON form of its own. -/
theorem objectTree_cases {store : Store} {room : Nat} {id : ObjectId} {tree : Tree}
    (unfolds : store.objectTree room id = .ok tree) :
    ((∃ fields, tree = .record fields) ∧ ∃ typeName fields,
        store.objects[id]? = some (.record typeName fields)) ∨
      (tree = .other ∧ ∀ typeName fields,
        store.objects[id]? ≠ some (.record typeName fields)) := by
  cases room with
  | zero => simp [objectTree] at unfolds
  | succ room =>
      rw [objectTree] at unfolds
      split at unfolds
      · rename_i typeName fields found
        obtain ⟨trees, -, same⟩ := of_bind_ok unfolds
        exact Or.inl ⟨⟨trees, (Except.ok.inj same).symm⟩, typeName, fields, found⟩
      · rename_i different
        exact Or.inr ⟨(Except.ok.inj unfolds).symm, different⟩

theorem objectTree_plain {store : Store} {room : Nat} {id : ObjectId} {tree : Tree}
    (unfolds : store.objectTree room id = .ok tree) : tree.isFunction = false := by
  rcases objectTree_cases unfolds with ⟨⟨fields, rfl⟩, -⟩ | ⟨rfl, -⟩ <;> rfl

theorem tree_plain {store : Store} {room : Nat} {value : Value} {tree : Tree}
    (unfolds : store.tree room value = .ok tree) : tree.isFunction = false := by
  unfold Store.tree at unfolds
  split at unfolds
  case h_6 =>
    obtain ⟨items, -, found⟩ := of_bind_ok unfolds
    obtain rfl := Except.ok.inj found
    rfl
  case h_7 => exact objectTree_plain unfolds
  all_goals
    cases unfolds
    try rfl

theorem dataTree_plain {store : Store} {room : Nat} {data : Data} {tree : Tree}
    (unfolds : store.dataTree room data = .ok tree) : tree.isFunction = false := by
  unfold Store.dataTree at unfolds
  split at unfolds
  case h_3 =>
    split at unfolds
    · cases unfolds
      rfl
    · cases unfolds
  case h_8 =>
    obtain ⟨items, -, found⟩ := of_bind_ok unfolds
    obtain rfl := Except.ok.inj found
    rfl
  case h_9 =>
    obtain ⟨fields, -, found⟩ := of_bind_ok unfolds
    obtain rfl := Except.ok.inj found
    rfl
  case h_10 => exact objectTree_plain unfolds
  all_goals
    cases unfolds
    try rfl

/-- The tree of what a field holds, if it is not left out. -/
def fieldTree (store : Store) (room : Nat) : Field → Except Fault Tree
  | .value value => store.tree room value
  | .raw data => store.dataTree room data

theorem objectTree_record {store : Store} {id : ObjectId} {typeName : String}
    {fields : Assoc Field} (found : store.objects[id]? = some (.record typeName fields))
    (room : Nat) :
    store.objectTree (room + 1) id = Tree.record <$> fields.mapM fun field => do
      if store.isJsonOmitted field.2 then return (field.1, .function)
      else return (field.1, ← store.fieldTree (room + 1) field.2) := by
  have fields_eq : (fun (field : String × Field) => (do
        if store.isJsonOmitted field.2 then return (field.1, Tree.function)
        else return (field.1, ← store.fieldTree (room + 1) field.2) :
          Except Fault (String × Tree))) = fun (name, field) => do
        if store.isJsonOmitted field then return (name, .function)
        else match field with
          | .value value => return (name, ← tree store (room + 1) value)
          | .raw data => return (name, ← dataTree store (room + 1) data) := by
    funext ⟨name, field⟩
    cases field <;> rfl
  rw [objectTree, found, fields_eq]
  rfl

/-- The JSON form of what a field holds, if it is not left out. -/
def fieldToJson (store : Store) (room : Nat) : Field → Except Fault Json
  | .value value => store.toJson room value
  | .raw data => store.dataToJson room data

theorem objectToJson_record {store : Store} {id : ObjectId} {typeName : String}
    {fields : Assoc Field} (found : store.objects[id]? = some (.record typeName fields))
    (room : Nat) :
    store.objectToJson (room + 1) id = Json.object <$>
      (fields.filter fun field => !store.isJsonOmitted field.2).mapM
        fun field => return (field.1, ← store.fieldToJson (room + 1) field.2) := by
  have fields_eq : (fun (field : String × Field) => (do
        return (field.1, ← store.fieldToJson (room + 1) field.2) :
          Except Fault (String × Json))) = fun (name, field) => do
        match field with
          | .value value => return (name, ← toJson store (room + 1) value)
          | .raw data => return (name, ← dataToJson store (room + 1) data) := by
    funext ⟨name, field⟩
    cases field <;> rfl
  rw [objectToJson, found, fields_eq]
  rfl

/-- The JSON form of an object follows from those of what its fields hold. -/
theorem objectToJson_eq_tree {store : Store} {room : Nat}
    (values : ∀ value, store.toJson room value = Tree.toJson <$> store.tree room value)
    (datas : ∀ data, store.dataToJson room data = Tree.toJson <$> store.dataTree room data)
    (id : ObjectId) : store.objectToJson room id = Tree.toJson <$> store.objectTree room id := by
  cases room with
  | zero => rw [objectToJson, objectTree]; rfl
  | succ room =>
      cases found : store.objects[id]? with
      | none => simp only [objectToJson, objectTree, found]; rfl
      | some object =>
          cases object with
          | record typeName fields =>
              have each : ∀ field ∈ fields, store.fieldToJson (room + 1) field.2 =
                  Tree.toJson <$> store.fieldTree (room + 1) field.2 := by
                rintro ⟨name, field⟩ -
                cases field with
                | value value => exact values value
                | raw data => exact datas data
              have plain (field : Field) (tree : Tree)
                  (unfolds : store.fieldTree (room + 1) field = .ok tree) :
                  tree.isFunction = false := by
                cases field with
                | value value => exact tree_plain unfolds
                | raw data => exact dataTree_plain unfolds
              rw [objectToJson_record found, objectTree_record found]
              exact recordToJson_eq_tree store.isJsonOmitted each plain
          | _ => simp only [objectToJson, objectTree, found]; rfl

/-- The JSON form of a value is that of its tree. -/
theorem toJson_eq_tree (store : Store) (room : Nat) :
    (∀ value, store.toJson room value = Tree.toJson <$> store.tree room value) ∧
      (∀ data, store.dataToJson room data = Tree.toJson <$> store.dataTree room data) ∧
      ∀ id, store.objectToJson room id = Tree.toJson <$> store.objectTree room id := by
  -- An object takes no room for itself, so its fields are settled before it in the same round.
  induction room using Nat.strongRecOn with
  | ind room ih =>
      have values (value : Value) :
          store.toJson room value = Tree.toJson <$> store.tree room value := by
        cases value with
        | array id =>
            rcases room with _ | _ | room
            · simp only [Store.toJson, Store.tree]; rfl
            · simp only [Store.toJson, Store.tree]; rfl
            · rw [Store.toJson, Store.tree]
              exact listToJson_eq_tree fun item _ => (ih room (by omega)).1 item
        | host id =>
            rcases room with _ | room
            · simp only [Store.toJson, Store.tree]; rfl
            · rw [Store.toJson, Store.tree]
              exact (ih room (by omega)).2.2 id
        | _ => rw [Store.toJson, Store.tree]; rfl
      have datas (data : Data) :
          store.dataToJson room data = Tree.toJson <$> store.dataTree room data := by
        cases data with
        | int n =>
            rw [dataToJson, dataTree]
            cases Number.ofInt? n <;> rfl
        | list items =>
            rcases room with _ | _ | room
            · simp only [dataToJson, dataTree]; rfl
            · simp only [dataToJson, dataTree]; rfl
            · rw [dataToJson, dataTree]
              exact listToJson_eq_tree fun item _ => (ih room (by omega)).2.1 item
        | table fields =>
            rcases room with _ | _ | room
            · simp only [dataToJson, dataTree]; rfl
            · simp only [dataToJson, dataTree]; rfl
            · rw [dataToJson, dataTree]
              exact recordToJson_eq_tree (fun data => store.isJsonOmitted (.raw data))
                (fun field _ => (ih room (by omega)).2.1 field.2) fun _ _ => dataTree_plain
        | host id =>
            rcases room with _ | room
            · simp only [dataToJson, dataTree]; rfl
            · rw [dataToJson, dataTree]
              exact (ih room (by omega)).2.2 id
        | _ => rw [dataToJson, dataTree]; rfl
      exact ⟨values, datas, objectToJson_eq_tree values datas⟩

end Store
end Scriptlet
