import Scriptlet.Proofs.Json.Reading
import Scriptlet.Proofs.Value.Tree
import Scriptlet.Proofs.Store.Growth
import Scriptlet.Library.JsonText

/-!
# JSON texts of values

The JSON text of a value is read as a value with the same JSON text; if the value has nothing that
JSON cannot express, the two values are equal as trees.

The JSON form of a tree is canonical, so it is read back from its text.  The reader makes a record
for each object and puts the data into it as it was read; this data, and the value that it becomes,
unfold to the tree of the JSON form in every store to which cells have been added since.
-/

namespace Scriptlet

open Number

/-! ## The forms of trees -/

/-- The numbers of a tree read back, and the fields of each record have distinct names. -/
structure Tree.Faithful (tree : Tree) : Prop where
  readsBack : ∀ x parts, .number x ∈ tree.parts → shape x = .finite parts → ReadsBack x
  distinct : ∀ fields, .record fields ∈ tree.parts → (fields.map (·.1)).Nodup

/-- A tree is built from finite numbers, texts and booleans by lists and records. -/
structure Tree.Solid (tree : Tree) : Prop where
  expressible : .function ∉ tree.parts ∧ .other ∉ tree.parts
  finite : ∀ x, .number x ∈ tree.parts → ∃ parts, shape x = .finite parts

theorem Tree.Faithful.part {tree part : Tree} (faithful : tree.Faithful)
    (inside : part.parts ⊆ tree.parts) : part.Faithful where
  readsBack x parts found := faithful.readsBack x parts (inside found)
  distinct fields found := faithful.distinct fields (inside found)

theorem Tree.Solid.part {tree part : Tree} (solid : tree.Solid)
    (inside : part.parts ⊆ tree.parts) : part.Solid where
  expressible := ⟨fun found => solid.expressible.1 (inside found),
    fun found => solid.expressible.2 (inside found)⟩
  finite x found := solid.finite x (inside found)

namespace Json

theorem Canonical.mono {depth depth' : Nat} {json : Json} (canonical : Canonical depth json)
    (deeper : depth ≤ depth') : Canonical depth' json := by
  induction canonical generalizing depth' with
  | null => exact .null depth'
  | bool depth value => exact .bool depth' value
  | number depth x readsBack => exact .number depth' x readsBack
  | text depth value => exact .text depth' value
  | list depth items canonical ih =>
      obtain ⟨depth', rfl⟩ : ∃ n, depth' = n + 1 := ⟨depth' - 1, by omega⟩
      exact .list depth' items fun item member => ih item member (by omega)
  | object depth fields distinct canonical ih =>
      obtain ⟨depth', rfl⟩ : ∃ n, depth' = n + 1 := ⟨depth' - 1, by omega⟩
      exact .object depth' fields distinct fun field member => ih field member (by omega)

end Json

theorem Tree.mem_fieldsToJson {fields : List (String × Tree)} {entry : String × Json}
    (member : entry ∈ fieldsToJson fields) :
    ∃ field ∈ fields, field.2.isFunction = false ∧ entry = (field.1, field.2.toJson) := by
  induction fields with
  | nil => cases member
  | cons field rest ih =>
      obtain ⟨name, value⟩ := field
      rw [fieldsToJson] at member
      split at member
      · obtain ⟨field, found, plain⟩ := ih member
        exact ⟨field, List.mem_cons_of_mem _ found, plain⟩
      · rename_i kept
        rcases List.mem_cons.mp member with rfl | member
        · exact ⟨(name, value), List.mem_cons_self, by simpa using kept, rfl⟩
        · obtain ⟨field, found, plain⟩ := ih member
          exact ⟨field, List.mem_cons_of_mem _ found, plain⟩

theorem Tree.names_fieldsToJson (fields : List (String × Tree)) :
    ((fieldsToJson fields).map (·.1)).Sublist (fields.map (·.1)) := by
  induction fields with
  | nil => exact List.Sublist.slnil
  | cons field rest ih =>
      obtain ⟨name, value⟩ := field
      rw [fieldsToJson]
      split
      · exact ih.cons name
      · exact ih.cons_cons name

theorem canonical_list {depth : Nat} {items : List Tree}
    (each : ∀ item ∈ items, Json.Canonical depth item.toJson) :
    Json.Canonical (depth + 1) (Tree.list items).toJson := by
  rw [Tree.toJson, Tree.itemsToJson_eq_map]
  apply Json.Canonical.list
  intro json member
  obtain ⟨item, found, rfl⟩ := List.mem_map.mp member
  exact each item found

theorem canonical_record {depth : Nat} {fields : List (String × Tree)}
    (distinct : (fields.map (·.1)).Nodup)
    (each : ∀ field ∈ fields, field.2.isFunction = false → Json.Canonical depth field.2.toJson) :
    Json.Canonical (depth + 1) (Tree.record fields).toJson := by
  rw [Tree.toJson]
  apply Json.Canonical.object
  · exact (Tree.names_fieldsToJson fields).nodup distinct
  · intro entry member
    obtain ⟨field, found, plain, rfl⟩ := Tree.mem_fieldsToJson member
    exact each field found plain

namespace Store

/-- A field of the tree of a record is left out or is the tree of a field of the record. -/
theorem mem_of_fields_ok {α : Type} {omitted : α → Bool} {unfold : α → Except Fault Tree}
    {fields : List (String × α)} {trees : List (String × Tree)}
    (unfolds : fields.mapM (fun field => (do
      if omitted field.2 then return (field.1, .function)
      else return (field.1, ← unfold field.2) : Except Fault (String × Tree))) = .ok trees)
    {tree : String × Tree} (member : tree ∈ trees) (kept : tree.2.isFunction = false) :
    ∃ field ∈ fields, unfold field.2 = .ok tree.2 := by
  obtain ⟨field, found, entry⟩ := mem_of_mapM_ok unfolds member
  split at entry
  · obtain rfl := Except.ok.inj entry
    cases kept
  · obtain ⟨value, held, same⟩ := of_bind_ok entry
    obtain rfl := Except.ok.inj same
    exact ⟨field, found, held⟩

theorem canonical_of_mapM {α : Type} {unfold : α → Except Fault Tree} {items : List α}
    {depth : Nat} {tree : Tree}
    (unfolds : Tree.list <$> items.mapM unfold = .ok tree) (faithful : tree.Faithful)
    (each : ∀ item tree, unfold item = .ok tree → tree.Faithful →
      Json.Canonical depth tree.toJson) :
    Json.Canonical (depth + 1) tree.toJson := by
  obtain ⟨trees, items_ok, same⟩ := of_bind_ok unfolds
  obtain rfl := Except.ok.inj same
  apply canonical_list
  intro item member
  obtain ⟨held, -, here⟩ := mem_of_mapM_ok items_ok member
  exact each held item here (faithful.part (Tree.parts_item_subset member))

theorem canonical_of_fields {α : Type} (omitted : α → Bool) {unfold : α → Except Fault Tree}
    {fields : List (String × α)} {depth : Nat} {tree : Tree}
    (unfolds : Tree.record <$> fields.mapM (fun field => (do
      if omitted field.2 then return (field.1, .function)
      else return (field.1, ← unfold field.2) : Except Fault (String × Tree))) = .ok tree)
    (faithful : tree.Faithful)
    (each : ∀ item tree, unfold item = .ok tree → tree.Faithful →
      Json.Canonical depth tree.toJson) :
    Json.Canonical (depth + 1) tree.toJson := by
  obtain ⟨trees, fields_ok, same⟩ := of_bind_ok unfolds
  obtain rfl := Except.ok.inj same
  apply canonical_record (faithful.distinct trees (Tree.self_mem_parts _))
  intro field member kept
  obtain ⟨held, -, here⟩ := mem_of_fields_ok fields_ok member kept
  exact each held.2 field.2 here (faithful.part (Tree.parts_field_subset member))

theorem canonical_of_objectTree {store : Store} {room : Nat}
    (values : ∀ value tree, store.tree room value = .ok tree → tree.Faithful →
      Json.Canonical room tree.toJson)
    (datas : ∀ data tree, store.dataTree room data = .ok tree → tree.Faithful →
      Json.Canonical room tree.toJson)
    (id : ObjectId) (tree : Tree) (unfolds : store.objectTree room id = .ok tree)
    (faithful : tree.Faithful) : Json.Canonical (room + 1) tree.toJson := by
  cases room with
  | zero => simp [objectTree] at unfolds
  | succ room =>
      by_cases record : ∃ typeName fields, store.objects[id]? = some (.record typeName fields)
      · obtain ⟨typeName, fields, found⟩ := record
        rw [objectTree_record found] at unfolds
        apply canonical_of_fields store.isJsonOmitted unfolds faithful
        intro field tree unfolds faithful
        cases field with
        | value value => exact values value tree unfolds faithful
        | raw data => exact datas data tree unfolds faithful
      · rw [objectTree] at unfolds
        split at unfolds
        · rename_i typeName fields found
          exact absurd ⟨typeName, fields, found⟩ record
        · obtain rfl := Except.ok.inj unfolds
          exact .null _

/-- The JSON form of a tree is canonical, with brackets no deeper than the room for the value. -/
theorem canonical_of_tree (store : Store) (room : Nat) :
    (∀ value tree, store.tree room value = .ok tree → tree.Faithful →
        Json.Canonical room tree.toJson) ∧
      (∀ data tree, store.dataTree room data = .ok tree → tree.Faithful →
        Json.Canonical room tree.toJson) ∧
      ∀ id tree, store.objectTree room id = .ok tree → tree.Faithful →
        Json.Canonical (room + 1) tree.toJson := by
  induction room using Nat.strongRecOn with
  | ind room ih =>
      have values (value : Value) (tree : Tree) (unfolds : store.tree room value = .ok tree)
          (faithful : tree.Faithful) : Json.Canonical room tree.toJson := by
        unfold Store.tree at unfolds
        split at unfolds
        case h_6 room id =>
          exact (canonical_of_mapM unfolds faithful (ih room (by omega)).1).mono (by omega)
        case h_7 room id => exact (ih room (by omega)).2.2 id tree unfolds faithful
        all_goals first
          | cases unfolds; done
          | obtain rfl := Except.ok.inj unfolds
        case h_1 x =>
          exact .number room x fun parts => faithful.readsBack x parts (Tree.self_mem_parts _)
        case h_2 value => exact .text room value
        case h_3 value => exact .bool room value
        case h_4 => exact .null room
        case h_5 => exact .null room
      have datas (data : Data) (tree : Tree) (unfolds : store.dataTree room data = .ok tree)
          (faithful : tree.Faithful) : Json.Canonical room tree.toJson := by
        unfold Store.dataTree at unfolds
        split at unfolds
        case h_3 n =>
          split at unfolds
          · rename_i x held
            obtain rfl := Except.ok.inj unfolds
            exact .number room x fun parts => faithful.readsBack x parts (Tree.self_mem_parts _)
          · cases unfolds
        case h_8 room items =>
          exact (canonical_of_mapM unfolds faithful (ih room (by omega)).2.1).mono (by omega)
        case h_9 room fields =>
          exact (canonical_of_fields (fun data => store.isJsonOmitted (.raw data))
            unfolds faithful (ih room (by omega)).2.1).mono (by omega)
        case h_10 room id => exact (ih room (by omega)).2.2 id tree unfolds faithful
        all_goals first
          | cases unfolds; done
          | obtain rfl := Except.ok.inj unfolds
        case h_1 => exact .null room
        case h_2 value => exact .bool room value
        case h_4 x =>
          exact .number room x fun parts => faithful.readsBack x parts (Tree.self_mem_parts _)
        case h_5 value => exact .text room value
        case h_6 => exact .null room
      exact ⟨values, datas, canonical_of_objectTree values datas⟩

end Store

/-! ## Trees of JSON values -/

namespace Json

mutual

/-- The tree of the value that a JSON value is read as. -/
def tree : Json → Tree
  | .null => .other
  | .bool value => .bool value
  | .int n => .number (Number.ofInt n)
  | .float x => .number x
  | .text value => .text value
  | .list items => .list (itemTrees items)
  | .object fields => .record (fieldTrees fields)

/-- The trees of the items of a list. -/
def itemTrees : List Json → List Tree
  | [] => []
  | item :: rest => item.tree :: itemTrees rest

/-- The trees of the fields of an object. -/
def fieldTrees : List (String × Json) → List (String × Tree)
  | [] => []
  | (name, value) :: rest => (name, value.tree) :: fieldTrees rest

end

theorem tree_plain (json : Json) : json.tree.isFunction = false := by
  cases json <;> rfl

/-- An integer that a number is written as is the integer of an equal number. -/
theorem ofInt_of_number {x : Float} {n : Int} (form : Number.toJson x = .int n)
    (readsBack : ∀ parts, shape x = .finite parts → ReadsBack x) :
    Number.ofInt? n = some (Number.ofInt n) ∧ (Number.ofInt n == x) = true := by
  obtain ⟨parts, finite, -⟩ := toJson_int form
  obtain ⟨-, y, held, same⟩ := ofInt?_of_readsBack form (readsBack parts finite)
  have whole : y = Number.ofInt n := by
    unfold Number.ofInt? at held
    dsimp only at held
    split at held
    · cases held
    · exact (Option.some.inj held).symm
  rw [← whole]
  exact ⟨held, same⟩

theorem itemsToJson_itemTrees {items : List Json}
    (each : ∀ item ∈ items, item.tree.toJson = item) :
    Tree.itemsToJson (itemTrees items) = items := by
  induction items with
  | nil => rfl
  | cons item rest ih =>
      rw [itemTrees, Tree.itemsToJson, each item List.mem_cons_self,
        ih fun other member => each other (List.mem_cons_of_mem item member)]

theorem fieldsToJson_fieldTrees {fields : List (String × Json)}
    (each : ∀ field ∈ fields, field.2.tree.toJson = field.2) :
    Tree.fieldsToJson (fieldTrees fields) = fields := by
  induction fields with
  | nil => rfl
  | cons field rest ih =>
      have here := each field List.mem_cons_self
      rw [fieldTrees, Tree.fieldsToJson, tree_plain, here,
        ih fun other member => each other (List.mem_cons_of_mem field member)]
      rfl

/-- A canonical JSON value is the form of its tree. -/
theorem Canonical.toJson_tree {depth : Nat} {json : Json} (canonical : Canonical depth json) :
    json.tree.toJson = json := by
  induction canonical with
  | null => rfl
  | bool depth value => rfl
  | text depth value => rfl
  | number depth x readsBack =>
      rcases toJson_cases x with form | ⟨n, form⟩ | form
      · rw [form]
        rfl
      · obtain ⟨-, same⟩ := ofInt_of_number form readsBack
        have whole : Number.toJson (Number.ofInt n) = .int n := (toJson_eq_of_beq same).trans form
        rw [form, tree, Tree.toJson, whole]
      · rw [form, tree, Tree.toJson, form]
  | list depth items canonical ih => rw [tree, Tree.toJson, itemsToJson_itemTrees ih]
  | object depth fields distinct canonical ih =>
      rw [tree, Tree.toJson, fieldsToJson_fieldTrees ih]

end Json

/-- A finite number is equal to the one that its JSON form is read as. -/
theorem Tree.same_number {x : Float} {parts : Parts} (finite : shape x = .finite parts)
    (readsBack : ReadsBack x) : (Tree.number x).same (Number.toJson x).tree = true := by
  rcases toJson_cases x with form | ⟨n, form⟩ | form
  · unfold Number.toJson at form
    rw [finite] at form
    dsimp only at form
    split at form <;> cases form
  · obtain ⟨-, same⟩ := Json.ofInt_of_number form fun _ _ => readsBack
    rw [form, Json.tree, Tree.same, Number.beq_comm]
    exact same
  · obtain ⟨y, -, same⟩ := readsBack
    rw [form, Json.tree, Tree.same, Float.beq_self_iff]
    exact (Float.beq_iff_ne_nan_and_eq.mp same).2.1

mutual

/-- A solid tree is equal to the tree of its JSON form. -/
theorem Tree.same_tree (tree : Tree) (faithful : tree.Faithful) (solid : tree.Solid) :
    tree.same tree.toJson.tree = true := by
  cases tree with
  | number x =>
      have found : Tree.number x ∈ (Tree.number x).parts := Tree.self_mem_parts _
      obtain ⟨parts, finite⟩ := solid.finite x found
      exact Tree.same_number finite (faithful.readsBack x parts found finite)
  | text value => simp [Tree.toJson, Json.tree, Tree.same]
  | bool value => simp [Tree.toJson, Json.tree, Tree.same]
  | function => exact absurd (Tree.self_mem_parts _) solid.expressible.1
  | other => exact absurd (Tree.self_mem_parts _) solid.expressible.2
  | list items =>
      rw [Tree.toJson, Json.tree, Tree.same]
      exact Tree.sameItems_trees items
        (fun item member => faithful.part (Tree.parts_item_subset member))
        (fun item member => solid.part (Tree.parts_item_subset member))
  | record fields =>
      rw [Tree.toJson, Json.tree, Tree.same]
      exact Tree.sameFields_trees fields
        (fun field member => faithful.part (Tree.parts_field_subset member))
        (fun field member => solid.part (Tree.parts_field_subset member))

theorem Tree.sameItems_trees (items : List Tree) (faithful : ∀ item ∈ items, item.Faithful)
    (solid : ∀ item ∈ items, item.Solid) :
    Tree.sameItems items (Json.itemTrees (Tree.itemsToJson items)) = true := by
  cases items with
  | nil => rfl
  | cons item rest =>
      have here := Tree.same_tree item (faithful item List.mem_cons_self)
        (solid item List.mem_cons_self)
      have later := Tree.sameItems_trees rest
        (fun entry member => faithful entry (List.mem_cons_of_mem item member))
        (fun entry member => solid entry (List.mem_cons_of_mem item member))
      rw [Tree.itemsToJson, Json.itemTrees, Tree.sameItems, here, later]
      rfl

theorem Tree.sameFields_trees (fields : List (String × Tree))
    (faithful : ∀ field ∈ fields, field.2.Faithful) (solid : ∀ field ∈ fields, field.2.Solid) :
    Tree.sameFields fields (Json.fieldTrees (Tree.fieldsToJson fields)) = true := by
  cases fields with
  | nil => rfl
  | cons field rest =>
      obtain ⟨name, value⟩ := field
      have here := Tree.same_tree value (faithful (name, value) List.mem_cons_self)
        (solid (name, value) List.mem_cons_self)
      have later := Tree.sameFields_trees rest
        (fun entry member => faithful entry (List.mem_cons_of_mem _ member))
        (fun entry member => solid entry (List.mem_cons_of_mem _ member))
      have kept : value.isFunction = false := by
        cases value with
        | function =>
            exact absurd (Tree.self_mem_parts _)
              (solid (name, .function) List.mem_cons_self).expressible.1
        | _ => rfl
      rw [Tree.fieldsToJson, kept]
      simp [Json.fieldTrees, Tree.sameFields, here, later]

end

/-! ## Reading into the store -/

/-- The data stands for a JSON value, with brackets at most `depth` levels deep, in every later
store, and so does the value that it becomes. -/
structure Represents (store : Store) (depth : Nat) (data : Data) (json : Json) : Prop where
  kept : ∀ later, store.Grows later → later.isJsonOmitted (.raw data) = false
  shown : ∀ later, store.Grows later → ∀ room, 2 * depth ≤ room →
    later.dataTree room data = .ok json.tree
  wrapped : ∀ later, store.Grows later → ∃ value last, data.wrap later = .ok value last ∧
    later.Grows last ∧ ∀ final, last.Grows final → ∀ room, 2 * depth ≤ room →
      final.tree room value = .ok json.tree

/-- A field of a record holds data for a field of an object, under the same name. -/
def RepresentsField (store : Store) (depth : Nat) (field : String × Field)
    (entry : String × Json) : Prop :=
  field.1 = entry.1 ∧ ∃ data, field.2 = .raw data ∧ Represents store depth data entry.2

namespace Represents

variable {store later : Store} {depth : Nat} {data : Data} {json : Json}

theorem grow (represents : Represents store depth data json) (grows : store.Grows later) :
    Represents later depth data json where
  kept last more := represents.kept last (grows.trans more)
  shown last more := represents.shown last (grows.trans more)
  wrapped last more := represents.wrapped last (grows.trans more)

/-- Data without parts becomes a value without parts. -/
theorem leaf (value : Value) (plain : ∀ store : Store, store.isJsonOmitted (.raw data) = false)
    (shown : ∀ (store : Store) room, store.dataTree room data = .ok json.tree)
    (wrapped : ∀ store, data.wrap store = .ok value store)
    (value_shown : ∀ (store : Store) room, store.tree room value = .ok json.tree) :
    Represents store depth data json where
  kept later _ := plain later
  shown later _ room _ := shown later room
  wrapped later _ := ⟨value, later, wrapped later, .refl later, fun final _ room _ =>
    value_shown final room⟩

theorem null : Represents store depth .null .null := by
  apply leaf .absent (fun _ => rfl) _ (fun _ => rfl)
  · intro store room
    rw [Store.tree, Json.tree]
  · intro store room
    rw [Store.dataTree, Json.tree]

theorem bool (value : Bool) : Represents store depth (.bool value) (.bool value) := by
  apply leaf (.bool value) (fun _ => rfl) _ (fun _ => rfl)
  · intro store room
    rw [Store.tree, Json.tree]
  · intro store room
    rw [Store.dataTree, Json.tree]

theorem text (value : String) : Represents store depth (.text value) (.text value) := by
  apply leaf (.text value) (fun _ => rfl) _ (fun _ => rfl)
  · intro store room
    rw [Store.tree, Json.tree]
  · intro store room
    rw [Store.dataTree, Json.tree]

theorem float (x : Float) : Represents store depth (.float x) (.float x) := by
  apply leaf (.number x) (fun _ => rfl) _ (fun _ => rfl)
  · intro store room
    rw [Store.tree, Json.tree]
  · intro store room
    rw [Store.dataTree, Json.tree]

theorem int {n : Int} (held : Number.ofInt? n = some (Number.ofInt n)) :
    Represents store depth (.int n) (.int n) := by
  apply leaf (.number (Number.ofInt n)) (fun _ => rfl)
  · intro store room
    rw [Store.dataTree, held, Json.tree]
  · intro store
    rw [Data.wrap, held]
    rfl
  · intro store room
    rw [Store.tree, Json.tree]

theorem mapM_dataTree {datas : List Data} {items : List Json}
    (each : List.Forall₂ (Represents store depth) datas items) (grows : store.Grows later)
    {room : Nat} (enough : 2 * depth ≤ room) :
    datas.mapM (later.dataTree room) = .ok (Json.itemTrees items) := by
  induction each with
  | nil => rfl
  | cons here _ ih =>
      rw [List.mapM_cons, here.shown later grows room enough, ih]
      rfl

theorem wrapAll {datas : List Data} {items : List Json}
    (each : List.Forall₂ (Represents store depth) datas items) (grows : store.Grows later) :
    ∃ values last, Data.wrapAll datas later = .ok values last ∧ later.Grows last ∧
      ∀ final, last.Grows final → ∀ room, 2 * depth ≤ room →
        values.mapM (final.tree room) = .ok (Json.itemTrees items) := by
  induction each generalizing later with
  | nil => exact ⟨[], later, rfl, .refl later, fun _ _ _ _ => rfl⟩
  | cons here _ ih =>
      obtain ⟨value, middle, first, growsFirst, valueShown⟩ := here.wrapped later grows
      obtain ⟨values, last, rest, growsRest, valuesShown⟩ := ih (grows.trans growsFirst)
      refine ⟨value :: values, last, ?_, growsFirst.trans growsRest, ?_⟩
      · simp [Data.wrapAll, bind, EStateM.bind, first, rest, pure, EStateM.pure]
      · intro final growsFinal room enough
        rw [List.mapM_cons, valueShown final (growsRest.trans growsFinal) room enough,
          valuesShown final growsFinal room enough]
        rfl

theorem list {datas : List Data} {items : List Json}
    (each : List.Forall₂ (Represents store depth) datas items) :
    Represents store (depth + 1) (.list datas) (.list items) where
  kept later _ := rfl
  shown later grows room enough := by
    obtain ⟨room, rfl⟩ : ∃ n, room = n + 2 := ⟨room - 2, by omega⟩
    rw [Store.dataTree, mapM_dataTree each grows (by omega)]
    rfl
  wrapped later grows := by
    obtain ⟨values, last, wrapped, growsLast, shown⟩ := wrapAll each grows
    refine ⟨.array last.arrays.size, { last with arrays := last.arrays.push values.toArray }, ?_,
      growsLast.trans (.push_array last _), ?_⟩
    · rw [Data.wrap]
      simp [bind, EStateM.bind, wrapped]
      rfl
    · intro final growsFinal room enough
      obtain ⟨room, rfl⟩ : ∃ n, room = n + 2 := ⟨room - 2, by omega⟩
      have cell := growsFinal.arrays last.arrays.size values.toArray (by simp)
      have items_eq : (final.items last.arrays.size).toList = values := by
        simp [Store.items, cell]
      rw [Store.tree, items_eq,
        shown final (.trans (.push_array last _) growsFinal) room (by omega)]
      rfl

theorem mapM_fieldTree {fields : List (String × Field)} {entries : List (String × Json)}
    (each : List.Forall₂ (RepresentsField store depth) fields entries)
    (grows : store.Grows later) {room : Nat} (enough : 2 * depth ≤ room) :
    fields.mapM (fun field => (do
        if later.isJsonOmitted field.2 then return (field.1, .function)
        else return (field.1, ← later.fieldTree room field.2) : Except Fault (String × Tree))) =
      .ok (Json.fieldTrees entries) := by
  induction each with
  | nil => rfl
  | @cons field entry fields entries here _ ih =>
      obtain ⟨name, field⟩ := field
      obtain ⟨rfl, data, rfl, represents⟩ := here
      rw [List.mapM_cons, represents.kept later grows, Store.fieldTree,
        represents.shown later grows room enough, ih]
      rfl

theorem object {fields : List (String × Field)} {entries : List (String × Json)}
    (each : List.Forall₂ (RepresentsField store depth) fields entries)
    {id : ObjectId} (found : store.objects[id]? = some (.record "Record" fields)) :
    Represents store (depth + 1) (.host id) (.object entries) := by
  have unfolds (later : Store) (grows : store.Grows later) (room : Nat)
      (enough : 2 * (depth + 1) ≤ room + 1) :
      later.objectTree room id = .ok (.record (Json.fieldTrees entries)) := by
    obtain ⟨room, rfl⟩ : ∃ n, room = n + 1 := ⟨room - 1, by omega⟩
    rw [Store.objectTree_record (grows.objects id _ found),
      mapM_fieldTree each grows (by omega)]
    rfl
  constructor
  case kept =>
    intro later grows
    simp [Store.isJsonOmitted, Store.isHostFunction, grows.objects id _ found,
      HostObject.isFunction]
  case shown =>
    intro later grows room enough
    obtain ⟨room, rfl⟩ : ∃ n, room = n + 1 := ⟨room - 1, by omega⟩
    rw [Store.dataTree, unfolds later grows room enough, Json.tree]
  case wrapped =>
    intro later grows
    refine ⟨.host id, later, rfl, .refl later, ?_⟩
    intro final growsFinal room enough
    obtain ⟨room, rfl⟩ : ∃ n, room = n + 1 := ⟨room - 1, by omega⟩
    rw [Store.tree, unfolds final (grows.trans growsFinal) room enough, Json.tree]

theorem number (store : Store) (depth : Nat) (x : Float)
    (readsBack : ∀ parts, shape x = .finite parts → ReadsBack x) :
    ∃ data, (∀ store, (Number.toJson x).toData store = .ok data store) ∧
      Represents store depth data (Number.toJson x) := by
  rcases toJson_cases x with form | ⟨n, form⟩ | form
  · rw [form]
    exact ⟨.null, fun _ => rfl, null⟩
  · rw [form]
    exact ⟨.int n, fun _ => rfl, int (Json.ofInt_of_number form readsBack).1⟩
  · rw [form]
    exact ⟨.float x, fun _ => rfl, float x⟩

end Represents

theorem RepresentsField.grow {store later : Store} (grows : store.Grows later) {depth : Nat}
    {field : String × Field} {entry : String × Json}
    (held : RepresentsField store depth field entry) : RepresentsField later depth field entry := by
  obtain ⟨name_eq, data, raw, represents⟩ := held
  exact ⟨name_eq, data, raw, represents.grow grows⟩

/-- The items of a list are read into data one after the other. -/
theorem Json.itemsToData_represents {depth : Nat} {items : List Json}
    (each : ∀ item ∈ items, ∀ store, ∃ data later, item.toData store = .ok data later ∧
      store.Grows later ∧ Represents later depth data item) (store : Store) :
    ∃ datas later, Json.itemsToData items store = .ok datas later ∧ store.Grows later ∧
      List.Forall₂ (Represents later depth) datas items := by
  induction items generalizing store with
  | nil => exact ⟨[], store, rfl, .refl store, .nil⟩
  | cons item rest ih =>
      obtain ⟨data, middle, first, growsFirst, represents⟩ := each item List.mem_cons_self store
      obtain ⟨datas, later, others, growsOthers, representAll⟩ :=
        ih (fun other member => each other (List.mem_cons_of_mem item member)) middle
      refine ⟨data :: datas, later, ?_, growsFirst.trans growsOthers,
        .cons (represents.grow growsOthers) representAll⟩
      simp [Json.itemsToData, bind, EStateM.bind, first, others, pure, EStateM.pure]

/-- The fields of an object are read into data one after the other. -/
theorem Json.fieldsToData_represents {depth : Nat} {entries : List (String × Json)}
    (each : ∀ entry ∈ entries, ∀ store, ∃ data later, entry.2.toData store = .ok data later ∧
      store.Grows later ∧ Represents later depth data entry.2) (store : Store) :
    ∃ fields later, Json.fieldsToData entries store = .ok fields later ∧ store.Grows later ∧
      List.Forall₂ (RepresentsField later depth) fields entries := by
  induction entries generalizing store with
  | nil => exact ⟨[], store, rfl, .refl store, .nil⟩
  | cons entry rest ih =>
      obtain ⟨name, item⟩ := entry
      obtain ⟨data, middle, first, growsFirst, represents⟩ :=
        each (name, item) List.mem_cons_self store
      obtain ⟨fields, later, others, growsOthers, representAll⟩ :=
        ih (fun other member => each other (List.mem_cons_of_mem _ member)) middle
      refine ⟨(name, .raw data) :: fields, later, ?_, growsFirst.trans growsOthers,
        .cons ⟨rfl, data, rfl, represents.grow growsOthers⟩ representAll⟩
      simp [Json.fieldsToData, bind, EStateM.bind, first, others, pure, EStateM.pure]

/-- A canonical JSON value is read into data that stands for it. -/
theorem Json.Canonical.toData_represents {depth : Nat} {json : Json}
    (canonical : Json.Canonical depth json) (store : Store) :
    ∃ data later, json.toData store = .ok data later ∧ store.Grows later ∧
      Represents later depth data json := by
  induction canonical generalizing store with
  | null depth => exact ⟨.null, store, rfl, .refl store, .null⟩
  | bool depth value => exact ⟨.bool value, store, rfl, .refl store, .bool value⟩
  | text depth value => exact ⟨.text value, store, rfl, .refl store, .text value⟩
  | number depth x readsBack =>
      obtain ⟨data, read, represents⟩ :=
        Represents.number store depth x readsBack
      exact ⟨data, store, read store, .refl store, represents⟩
  | list depth items canonical ih =>
      obtain ⟨datas, later, read, grows, each⟩ := Json.itemsToData_represents ih store
      refine ⟨.list datas, later, ?_, grows, .list each⟩
      simp [Json.toData, bind, EStateM.bind, read, pure, EStateM.pure]
  | object depth fields distinct canonical ih =>
      obtain ⟨held, later, read, grows, each⟩ := Json.fieldsToData_represents ih store
      have added := Store.Grows.push_object later (.record "Record" held)
      have stillEach := each.imp fun field entry => RepresentsField.grow added
      refine ⟨.host later.objects.size, _, ?_, grows.trans added, .object stillEach (by simp)⟩
      simp [Json.toData, bind, EStateM.bind, read, pure, EStateM.pure]
      rfl

/-! ## Texts -/

/-- Whether a tree has no JSON form of its own. -/
def Tree.isOther : Tree → Bool
  | .other => true
  | _ => false

theorem Store.objectTree_isOther {store : Store} {room : Nat} {id : ObjectId} {tree : Tree}
    (unfolds : store.objectTree room id = .ok tree) :
    tree.isOther = !match store.objects[id]? with
      | some (.record ..) => true
      | _ => false := by
  rcases Store.objectTree_cases unfolds with ⟨⟨trees, rfl⟩, typeName, fields, found⟩ |
    ⟨rfl, different⟩
  · rw [found]
    rfl
  · split
    · rename_i found
      exact absurd found (different _ _)
    · rfl

/-- The JSON text of a value is that of its tree, unless it has no JSON form of its own. -/
theorem jsonText_eq_tree {store : Store} {room : Nat} {value : Value} {tree : Tree}
    (unfolds : store.tree room value = .ok tree) :
    jsonText room [value] store =
      .ok (if tree.isOther then .absent else .text tree.toJson.write) store := by
  have form : store.toJson room value = .ok tree.toJson := by
    rw [(store.toJson_eq_tree room).1, unfolds]
    rfl
  have run (isExpressible : Bool) (agrees : tree.isOther = !isExpressible) :
      (if isExpressible then
          (do return .text (← ofExcept (store.toJson room value)).write : StoreM Value)
        else return .absent) store =
      .ok (if tree.isOther then .absent else .text tree.toJson.write) store := by
    rw [agrees, form]
    cases isExpressible <;> rfl
  cases value with
  | host id =>
      cases room with
      | zero => simp [Store.tree] at unfolds
      | succ room =>
          rw [Store.tree] at unfolds
          exact run _ (Store.objectTree_isOther unfolds)
  | array id =>
      rcases room with _ | _ | room
      · simp [Store.tree] at unfolds
      · simp [Store.tree] at unfolds
      · rw [Store.tree] at unfolds
        obtain ⟨items, -, same⟩ := of_bind_ok unfolds
        obtain rfl := Except.ok.inj same
        exact run true rfl
  | absent =>
      rw [Store.tree] at unfolds
      obtain rfl := Except.ok.inj unfolds
      exact run false rfl
  | closure id =>
      rw [Store.tree] at unfolds
      obtain rfl := Except.ok.inj unfolds
      exact run false rfl
  | _ =>
      rw [Store.tree] at unfolds
      obtain rfl := Except.ok.inj unfolds
      exact run true rfl

theorem jsonValue_text (room : Nat) (text : String) (store : Store) :
    jsonValue room [.text text] store =
      (match Json.read (room / 2) text.toList with
        | .ok value => do (← value.toData).wrap
        | .error (.invalid problem position) =>
            throw (.ofMisuse (.jsonText (Json.problemMessage text.toList problem position)))
        | .error (.digits count) => throw (.host .wrongValue (Json.digitsMessage count))
        | .error .tooDeep => throw .exhausted : StoreM Value) store :=
  rfl

theorem jsonValue_of_read {room : Nat} {text : String} {json : Json}
    (read : Json.read (room / 2) text.toList = .ok json) (store : Store) :
    jsonValue room [.text text] store = (json.toData >>= Data.wrap) store := by
  rw [jsonValue_text, read]

theorem Store.tree_number {store : Store} {room : Nat} {value : Value} {x : Float}
    (unfolds : store.tree room value = .ok (.number x)) : value = .number x := by
  unfold Store.tree at unfolds
  split at unfolds
  case h_1 =>
    cases unfolds
    rfl
  case h_6 =>
    obtain ⟨items, -, same⟩ := of_bind_ok unfolds
    cases same
  case h_7 =>
    rcases objectTree_cases unfolds with ⟨⟨fields, same⟩, -⟩ | ⟨same, -⟩ <;> cases same
  all_goals cases unfolds

/-- What can be expressed is written as something other than null. -/
theorem Tree.toJson_tree_isOther {tree : Tree} (plain : tree.isFunction = false)
    (expressible : tree.isOther = false)
    (finite : ∀ x, tree = .number x → ∃ parts, shape x = .finite parts) :
    tree.toJson.tree.isOther = false := by
  cases tree with
  | number x =>
      obtain ⟨parts, finite⟩ := finite x rfl
      simp only [Tree.toJson, Number.toJson, finite]
      split <;> rfl
  | text value => rfl
  | bool value => rfl
  | function => cases plain
  | other => cases expressible
  | list items => rfl
  | record fields => rfl

/-- A value that unfolds to a tree, is not itself a number that is not finite, and has a JSON text
is read from this text, in any store, as a value with the same text, and with an equal tree if the
tree is solid.  Reading takes at most twice the room that writing had. -/
theorem jsonValue_jsonText {room : Nat} {store final : Store} {value : Value} {tree : Tree}
    {text : String} (unfolds : store.tree room value = .ok tree)
    (finite : ∀ x, value = .number x → ∃ parts, shape x = .finite parts)
    (faithful : tree.Faithful) (written : jsonText room [value] store = .ok (.text text) final)
    {room' : Nat} (enough : 2 * room ≤ room') (later : Store) :
    ∃ value' store', jsonValue room' [.text text] later = .ok value' store' ∧
      jsonText room' [value'] store' = .ok (.text text) store' ∧
      (tree.Solid → ∃ tree', store'.tree room' value' = .ok tree' ∧ tree.same tree' = true) := by
  rw [jsonText_eq_tree unfolds] at written
  cases expressible : tree.isOther with
  | true => simp [expressible] at written
  | false =>
      obtain ⟨rfl, -⟩ : tree.toJson.write = text ∧ store = final := by
        simpa [expressible] using written
      have canonical := (store.canonical_of_tree room).1 value tree unfolds faithful
      have read : Json.read (room' / 2) tree.toJson.write.toList = .ok tree.toJson := by
        rw [Json.write, String.toList_ofList]
        exact canonical.read_render (by omega)
      obtain ⟨data, middle, toData, -, represents⟩ := canonical.toData_represents later
      obtain ⟨value', store', wrapped, -, shown⟩ := represents.wrapped middle (.refl middle)
      have unfolds' := shown store' (.refl store') room' enough
      refine ⟨value', store', ?_, ?_, ?_⟩
      · rw [jsonValue_of_read read]
        simp [bind, EStateM.bind, toData, wrapped]
      · have topFinite (x : Float) (found : tree = .number x) :
            ∃ parts, shape x = .finite parts := by
          obtain rfl := found
          exact finite x (Store.tree_number unfolds)
        have kept := Tree.toJson_tree_isOther (Store.tree_plain unfolds) expressible topFinite
        rw [jsonText_eq_tree unfolds', kept, canonical.toJson_tree]
        rfl
      · intro solid
        exact ⟨tree.toJson.tree, unfolds', tree.same_tree faithful solid⟩

/-- A record with an array that a script has put there and data as it was read. -/
def nestedStore : Store :=
  { arrays := #[#[.number 0.5, .text "a\"b\n", .bool true]]
    objects := #[.record "Record" [("items", .value (.array 0)), ("size", .raw (.int 7))]] }

/-- The tree of the record. -/
def nestedTree : Tree :=
  .record [("items", .list [.number 0.5, .text "a\"b\n", .bool true]), ("size", .number 7.0)]

theorem nestedStore_tree : nestedStore.tree 5 (.host 0) = .ok nestedTree := by
  have seven : Number.ofInt? 7 = some 7.0 := by decide
  simp [Store.tree, Store.objectTree, Store.dataTree, nestedStore, nestedTree,
    Store.isJsonOmitted, Store.isHostFunction, Store.items, seven]
  rfl

theorem nestedTree_faithful : nestedTree.Faithful := by
  constructor
  · intro x parts found _
    simp only [nestedTree, Tree.parts, Tree.partsOfItems, Tree.partsOfFields] at found
    rcases (by simpa using found : x = 0.5 ∨ x = 7.0) with rfl | rfl
    · exact ⟨0.5, by decide +kernel, by decide⟩
    · exact ⟨7.0, by decide +kernel, by decide⟩
  · intro fields found
    simp only [nestedTree, Tree.parts, Tree.partsOfItems, Tree.partsOfFields] at found
    obtain rfl := by simpa using found
    decide

theorem nestedTree_solid : nestedTree.Solid := by
  constructor
  · simp [nestedTree, Tree.parts, Tree.partsOfItems, Tree.partsOfFields]
  · intro x found
    simp only [nestedTree, Tree.parts, Tree.partsOfItems, Tree.partsOfFields] at found
    rcases (by simpa using found : x = 0.5 ∨ x = 7.0) with rfl | rfl
    · exact ⟨⟨false, 4503599627370496, -53⟩, by decide⟩
    · exact ⟨⟨false, 7881299347898368, -50⟩, by decide⟩

theorem nestedStore_text : jsonText 5 [.host 0] nestedStore =
    .ok (.text "\x7b\"items\":[0.5,\"a\\\"b\\n\",true],\"size\":7\x7d") nestedStore := by
  have text : nestedTree.toJson.write =
      "\x7b\"items\":[0.5,\"a\\\"b\\n\",true],\"size\":7\x7d" := by decide +kernel
  rw [jsonText_eq_tree nestedStore_tree, text]
  rfl

theorem jsonValue_jsonText_nested :
    ∃ value' store' tree', jsonValue 10
        [.text "\x7b\"items\":[0.5,\"a\\\"b\\n\",true],\"size\":7\x7d"] nestedStore =
        .ok value' store' ∧
      jsonText 10 [value'] store' =
        .ok (.text "\x7b\"items\":[0.5,\"a\\\"b\\n\",true],\"size\":7\x7d") store' ∧
      store'.tree 10 value' = .ok tree' ∧ nestedTree.same tree' = true := by
  obtain ⟨value', store', read, written, equal⟩ :=
    jsonValue_jsonText nestedStore_tree (fun x found => by cases found) nestedTree_faithful
      nestedStore_text (by decide : 2 * 5 ≤ 10) nestedStore
  obtain ⟨tree', unfolds, same⟩ := equal nestedTree_solid
  exact ⟨value', store', tree', read, written, unfolds, same⟩

end Scriptlet
