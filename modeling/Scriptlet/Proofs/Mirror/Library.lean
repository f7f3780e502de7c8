import Scriptlet.Proofs.Mirror.Store

/-!
# Mirrored operations

The members of values, the operators and the operations of the host do the same on mirrored stores.
-/

namespace Scriptlet

variable {M : Translation} {store other : Store}

/-! ## Members -/

namespace Translation.Stores

open Naming

variable (stores : M.Stores store other)

include stores

theorem length? (value : Value) : other.length? (M.value value) = store.length? value := by
  cases value with
  | array id => simp [Store.length?, stores.items]
  | _ => rfl

theorem method? (kind : Kind) (name : String) :
    other.method? kind name = store.method? kind name := by
  unfold Store.method?
  rw [stores.methods]

/-- The field behind a member of a host object. -/
theorem fieldAt (id : ObjectId) (name : String) :
    (other.objects[M.objects id]?.bind HostObject.members?).bind (Assoc.get? · name) =
      ((store.objects[id]?.bind HostObject.members?).bind (Assoc.get? · name)).map M.field := by
  rw [stores.objectAt]
  cases store.objects[id]? with
  | none => rfl
  | some object =>
      rw [Option.map_some, Option.bind_some, Option.bind_some, M.members?_object]
      cases object.members? with
      | none => rfl
      | some fields => exact Assoc.get?_mapValues M.field fields name

theorem itemAt (name : String) (value : Value) (index : String) :
    itemAt other name (M.value value) index =
      (Scriptlet.itemAt store name value index).map M.value := by
  unfold Scriptlet.itemAt
  cases value with
  | array id =>
      simp only [value_array, stores.items, Array.size_map]
      cases Number.read? index.toList with
      | none => rfl
      | some x =>
          dsimp only
          cases Number.toIndex? x (store.items id).size with
          | none => rfl
          | some i =>
              simp only [Except.map, Array.getD_eq_getD_getElem?, Array.getElem?_map]
              cases (store.items id)[i]? <;> rfl
  | _ => rfl

end Translation.Stores

/-- The members of values that are no host objects. -/
theorem plainMember_reflects (stores : M.Stores store other) (receiver : Value) (name : String) :
    Reflects M (Images (Option.map M.member))
      (match store.length? receiver with
        | none => return none
        | some length =>
            if name = "length" then return some (.value (.number (Number.ofNat length)))
            else return (store.method? receiver.kind name).map .method)
      (match other.length? (M.value receiver) with
        | none => return none
        | some length =>
            if name = "length" then return some (.value (.number (Number.ofNat length)))
            else return (other.method? (M.value receiver).kind name).map .method) := by
  rw [stores.length?, M.kind_value, stores.method?]
  cases store.length? receiver with
  | none => exact .pure rfl
  | some length =>
      dsimp only
      split
      · exact .pure rfl
      · refine .pure ?_
        cases store.method? receiver.kind name <;> rfl

theorem member?_reflects (receiver : Value) (name : String) :
    Reflects M (Images (Option.map M.member)) (Store.member? receiver name)
      (Store.member? (M.value receiver) name) := by
  refine .looking (member?_alters receiver name).retains fun store there stores => ?_
  have plain := plainMember_reflects stores receiver name
  cases receiver with
  | host id =>
      simp only [Naming.value_host]
      rw [stores.fieldAt]
      cases (store.objects[id]?.bind HostObject.members?).bind (Assoc.get? · name) with
      | none => exact .pure rfl
      | some field =>
          refine .bind (read_reflects field) fun value => ?_
          exact .pure rfl
  | _ => exact plain

theorem bindMethod_reflects (room : Nat) (method : MethodEntry) (receiver : Value) :
    Reflects M (Images M.value) (Store.bindMethod room method receiver)
      (Store.bindMethod room method (M.value receiver)) := by
  cases method with
  | standard method =>
      refine .bind (addNative_reflects method.name (.bound method receiver)) fun id => ?_
      exact .pure rfl
  | hosted method =>
      refine .looking (bindMethod_alters room (.hosted method) receiver).retains
        fun store there stores => ?_
      refine .bind (.ofExcept (stores.unwrap room receiver)) fun data => ?_
      refine .bind (addNative_reflects method.name (.boundCopy method data)) fun id => ?_
      exact .pure rfl

theorem memberValue_reflects (room : Nat) (receiver : Value) (member : Member) :
    Reflects M (Images M.value) (Store.memberValue room receiver member)
      (Store.memberValue room (M.value receiver) (M.member member)) := by
  cases member with
  | value value => exact .pure rfl
  | method method => exact bindMethod_reflects room method receiver

theorem ownMember_reflects (room : Nat) (receiver : Value) (name : String) :
    Reflects M (Images M.member)
      (do match ← Store.member? receiver name with
        | some member => return member
        | none =>
            let owner ← ofExcept ((← get).describe room receiver)
            throw (.ofCause (.undefinedName name (.noMember owner name))))
      (do match ← Store.member? (M.value receiver) name with
        | some member => return member
        | none =>
            let owner ← ofExcept ((← get).describe room (M.value receiver))
            throw (.ofCause (.undefinedName name (.noMember owner name)))) := by
  refine .bind (member?_reflects receiver name) fun member => ?_
  cases member with
  | some member => exact .pure rfl
  | none =>
      refine .looking (Alters.retains (.looking fun _ => .checking fun _ => .throw _))
        fun store there stores => ?_
      refine .bind (.asking (stores.describe room receiver)) fun owner => ?_
      exact .throw _

theorem readMember_reflects (room : Nat) (receiver : Value) (name : String) :
    Reflects M (Images M.member) (Store.readMember room receiver name)
      (Store.readMember room (M.value receiver) name) := by
  have own := ownMember_reflects (M := M) room receiver name
  cases receiver with
  | absent => exact .throw _
  | _ => exact own

theorem readIndex_reflects (room : Nat) (receiver index : Value) :
    Reflects M (Images M.value) (Store.readIndex room receiver index)
      (Store.readIndex room (M.value receiver) (M.value index)) := by
  refine .looking (readIndex_alters room receiver index).retains fun store there stores => ?_
  have refuse (failure : LookupFailure) : Reflects M (Images M.value)
      (do
        let shown ← ofExcept (store.display room false index)
        throw (.ofCause (.undefinedName ("[" ++ shown ++ "]") failure)) : StoreM Value)
      (do
        let shown ← ofExcept (there.display room false (M.value index))
        throw (.ofCause (.undefinedName ("[" ++ shown ++ "]") failure))) := by
    refine .bind (.asking (stores.display room false index)) fun shown => ?_
    exact .throw _
  dsimp only
  rw [stores.length?, M.kind_value]
  cases store.length? receiver with
  | none => exact refuse _
  | some length =>
      dsimp only
      cases index with
      | number x =>
          simp only [Naming.value_number]
          cases Number.toIndex? x length with
          | none => exact refuse _
          | some i =>
              cases receiver with
              | array id =>
                  refine .pure ?_
                  simp only [stores.items, Array.getD_eq_getD_getElem?, Array.getElem?_map]
                  cases (store.items id)[i]? <;> rfl
              | text value => exact .pure rfl
              | _ => exact refuse _
      | _ => exact refuse _

theorem writeMember_reflects (room : Nat) (receiver : Value) (name : String) (value : Value) :
    Reflects M (Images id) (Store.writeMember room receiver name value)
      (Store.writeMember room (M.value receiver) name (M.value value)) := by
  refine .looking (writeMember_alters room receiver name value).retains fun store there stores => ?_
  have refuse : Reflects M (Images id) (Store.writeMember.refuse room receiver name store)
      (Store.writeMember.refuse room (M.value receiver) name there) := by
    refine .bind (.asking (stores.describe room receiver)) fun target => ?_
    exact .throw _
  cases receiver with
  | host id =>
      simp only [Naming.value_host]
      rw [stores.objectAt]
      cases store.objects[id]? with
      | none => exact refuse
      | some object =>
          cases object with
          | record => exact setField_reflects id name value
          | _ => exact refuse
  | _ => exact refuse

theorem ownSegment_reflects (room : Nat) (name : String) (value : Value) (segment : String) :
    Reflects M (Images M.value)
      (do match ← Store.member? value segment with
        | some member => Store.memberValue room value member
        | none => throw (.ofCause (.undefinedName name (.noSegment segment))))
      (do match ← Store.member? (M.value value) segment with
        | some member => Store.memberValue room (M.value value) member
        | none => throw (.ofCause (.undefinedName name (.noSegment segment)))) := by
  refine .bind (member?_reflects value segment) fun member => ?_
  cases member with
  | some member => exact memberValue_reflects room value member
  | none => exact .throw _

theorem segmentOf_reflects (room : Nat) (name : String) (value : Value) (segment : String) :
    Reflects M (Images M.value) (segmentOf room name value segment)
      (segmentOf room name (M.value value) segment) := by
  have own := ownSegment_reflects (M := M) room name value segment
  cases value with
  | absent => exact .throw _
  | _ => exact own

/-! ## Operators -/

theorem refuseOperands_mirrored {α : Type} (operator : String) (left right : Value) :
    (refuseOperands operator (M.value left) (M.value right) : Except Fault α) =
      refuseOperands operator left right := by
  unfold refuseOperands
  rw [M.kind_value, M.kind_value]

theorem refuseOperands_reflects {results : Value → Value → Prop} (operator : String)
    (left right : Value) : Reflects M results (ofExcept (refuseOperands operator left right))
      (ofExcept (refuseOperands operator (M.value left) (M.value right))) := by
  rw [refuseOperands_mirrored]
  exact .throw _

theorem add_reflects (room : Nat) (left right : Value) :
    Reflects M (Images M.value) (Store.add room left right)
      (Store.add room (M.value left) (M.value right)) := by
  refine .looking (operate_alters room "+" .add left right).retains fun store there stores => ?_
  have texts : Reflects M (Images M.value)
      (do
        let first ← ofExcept (store.display room false left)
        let second ← ofExcept (store.display room false right)
        return .text (first ++ second))
      (do
        let first ← ofExcept (there.display room false (M.value left))
        let second ← ofExcept (there.display room false (M.value right))
        return .text (first ++ second)) := by
    refine .bind (.asking (stores.display room false left)) fun first => ?_
    refine .bind (.asking (stores.display room false right)) fun second => ?_
    exact .pure rfl
  cases left <;> cases right
  case number.number => exact .pure rfl
  case array.array a b =>
    simp only [Naming.value_array, stores.items]
    rw [← Array.map_append]
    exact addArray_reflects _
  all_goals first
    | exact texts
    | exact refuseOperands_reflects "+" _ _

theorem operate_reflects (room : Nat) (operator : String) (operation : Operation)
    (left right : Value) :
    Reflects M (Images M.value) (Store.operate room operator operation left right)
      (Store.operate room operator operation (M.value left) (M.value right)) := by
  unfold Store.operate
  cases operation with
  | add => exact add_reflects room left right
  | arithmetic operation =>
      cases left <;> cases right
      case number.number => exact .pure rfl
      all_goals exact refuseOperands_reflects operator _ _
  | compare comparison =>
      cases left <;> cases right
      case number.number | text.text => exact .pure rfl
      all_goals exact refuseOperands_reflects operator _ _
  | equal | notEqual =>
      refine .looking (Alters.retains (.looking fun _ => .checking fun _ => .pure _))
        fun store there stores => ?_
      refine .bind (.asking (stores.areEqual room left right)) fun same => ?_
      exact .pure rfl

theorem negate_mirrored (value : Value) :
    Store.negate (M.value value) = (Store.negate value).map M.value := by
  cases value <;> rfl

/-! ## Methods -/

theorem joinItems_mirrored (stores : M.Stores store other) (room : Nat) (items : ArrayId)
    (separator : Value) :
    Method.joinItems other room (M.arrays + items) (M.value separator) =
      Method.joinItems store room items separator := by
  unfold Method.joinItems
  rw [stores.display, stores.items, Array.toList_map, mapM_same (stores.display room false)]

theorem method_reflects (room : Nat) (method : Method) (receiver : Value) (arguments : List Value) :
    Reflects M (Images M.value) (method.perform room receiver arguments)
      (method.perform room (M.value receiver) (arguments.map M.value)) := by
  unfold Method.perform
  rw [List.length_map]
  refine .bind (.asking rfl) fun _ => ?_
  have joining (id : ArrayId) (separator : Value) : Reflects M (Images M.value)
      (do return .text (← ofExcept (Method.joinItems (← get) room id separator)))
      (do return .text (← ofExcept (Method.joinItems (← get) room (M.arrays + id)
        (M.value separator)))) := by
    refine .looking (Alters.retains (.looking fun _ => .checking fun _ => .pure _))
      fun store there stores => ?_
    refine .bind (.asking (joinItems_mirrored stores room id separator)) fun text => ?_
    exact .pure rfl
  have splitting (value : String) (separator : Value) : Reflects M (Images M.value)
      (do
        let mark ← ofExcept ((← get).display room false separator)
        Store.addArray ((Method.splitText value mark).map Value.text).toArray)
      (do
        let mark ← ofExcept ((← get).display room false (M.value separator))
        Store.addArray ((Method.splitText value mark).map Value.text).toArray) := by
    refine .looking (Alters.retains (.looking fun _ => .checking fun _ => addArray_alters _))
      fun store there stores => ?_
    refine .bind (.asking (stores.display room false separator)) fun mark => ?_
    simpa [Function.comp_def] using
      addArray_reflects ((Method.splitText value mark).map Value.text).toArray
  cases receiver with
  | array id =>
      cases method with
      | push =>
          refine .bind (changeArray_reflects id fun items => by simp) fun _ => ?_
          refine .looking (Alters.retains (.looking fun _ => .pure _))
            fun store there stores => .pure ?_
          rw [stores.items, Array.size_map]
          rfl
      | pop =>
          refine .looking (Alters.retains (.looking fun _ => .bind (changeArray_alters _ _) fun _ =>
            .pure _)) fun store there stores => ?_
          refine .bind (changeArray_reflects id fun items => by simp) fun _ => .pure ?_
          rw [stores.items, Array.back?_map]
          cases (store.items id).back? <;> rfl
      | join =>
          cases arguments with
          | nil => exact joining id (.text ",")
          | cons separator rest => exact joining id separator
      | _ => exact .pure rfl
  | text value =>
      cases method with
      | upper | lower => exact .pure rfl
      | split =>
          cases arguments with
          | nil => simpa using addArray_reflects #[.text value]
          | cons separator rest =>
              cases separator with
              | absent => simpa using addArray_reflects #[.text value]
              | _ => exact splitting value _
      | _ => exact .pure rfl
  | _ => cases method <;> exact .pure rfl

/-- Operations on data that give data. -/
theorem onData_reflects (room : Nat) (arguments : List Value)
    {operation there : List Data → StoreM Data}
    (same : ∀ items, Reflects M (Images M.data) (operation items) (there (items.map M.data))) :
    Reflects M (Images M.value) (onData room arguments operation)
      (onData room (arguments.map M.value) there) := by
  have retains : Retains (onData room arguments operation) := by
    refine .bind Alters.get.retains fun store => .bind (Alters.ofExcept _).retains fun items => ?_
    exact .bind (same items).retains fun data => (wrap_alters data).retains
  refine .looking retains fun store other stores => ?_
  refine .bind (.ofExcept (stores.unwrapAll room arguments)) fun items => ?_
  refine .bind (same items) fun data => ?_
  exact wrap_reflects data

theorem answer_reflects (answer : Answer) :
    Reflects M (Images M.data) answer.give
      (answer.rename (M.closures + ·) M.objects).give := by
  cases answer with
  | data held => exact .pure rfl
  | record typeName fields =>
      refine .bind (newRecord_reflects typeName fields) fun id => ?_
      exact .pure rfl

theorem implementation_reflects (implementation : Implementation) (items : List Data) :
    Reflects M (Images M.data) (implementation.perform items)
      (implementation.perform (items.map M.data)) := by
  refine ⟨(implementation_alters implementation items).retains, fun store other stores within => ?_⟩
  have natural : implementation.run (items.map M.data) = _ :=
    implementation.natural (fun _ _ => Nat.add_left_cancel)
      (fun _ _ same => stores.objects.injective same) items
  have same : Reflects M (Images M.data) (implementation.perform items)
      (implementation.perform (items.map M.data)) := by
    unfold Implementation.perform
    rw [natural]
    cases implementation.run items with
    | ok answer => exact answer_reflects answer
    | error refusal => exact .throw _
  exact same.paired store other stores within

theorem methodOnCopy_reflects (room : Nat) (method : HostMethod) (receiver : Data)
    (arguments : List Value) :
    Reflects M (Images M.value) (method.performOn room receiver arguments)
      (method.performOn room (M.data receiver) (arguments.map M.value)) :=
  onData_reflects room arguments fun items =>
    implementation_reflects method.implementation (receiver :: items)

theorem methodEntry_reflects (room : Nat) (method : MethodEntry) (receiver : Value)
    (arguments : List Value) :
    Reflects M (Images M.value) (method.perform room receiver arguments)
      (method.perform room (M.value receiver) (arguments.map M.value)) := by
  cases method with
  | standard method => exact method_reflects room method receiver arguments
  | hosted method =>
      exact onData_reflects room (receiver :: arguments)
        (implementation_reflects method.implementation)

/-! ## Numbers and dates -/

theorem numbersOf_mirrored (stores : M.Stores store other) (room : Nat) (function : String)
    (items : List Data) :
    numbersOf other room function (items.map M.data) = numbersOf store room function items := by
  induction items with
  | nil => rfl
  | cons item rest ih =>
      rw [List.map_cons]
      cases item with
      | float x =>
          rw [M.data_float, numbersOf, numbersOf, ih]
      | list items =>
          rw [M.data_list, numbersOf, numbersOf, ← M.data_list, stores.displayData]
          all_goals simp
      | table fields =>
          rw [M.data_table, numbersOf, numbersOf, ← M.data_table, stores.displayData]
          all_goals simp
      | _ => exact congrArg (· >>= _) (stores.displayData room false _)

theorem math_mirrored (stores : M.Stores store other) (room : Nat) (function : MathFunction)
    (items : List Data) : function.perform other room (items.map M.data) =
      (function.perform store room items).map M.data := by
  unfold MathFunction.perform
  rw [numbersOf_mirrored stores]
  cases numbersOf store room function.name items with
  | error fault => rfl
  | ok numbers =>
      dsimp only [bind, Except.bind]
      split <;> rfl

theorem leastArgument_mirrored (stores : M.Stores store other) (room : Nat) (items : List Data) :
    leastArgument other room (items.map M.data) = (leastArgument store room items).map M.data := by
  unfold leastArgument
  rw [numbersOf_mirrored stores]
  cases numbersOf store room "min" items with
  | error fault => rfl
  | ok numbers => cases numbers <;> rfl

theorem greatestArgument_mirrored (stores : M.Stores store other) (room : Nat) (items : List Data) :
    greatestArgument other room (items.map M.data) =
      (greatestArgument store room items).map M.data := by
  unfold greatestArgument
  rw [numbersOf_mirrored stores]
  cases numbersOf store room "max" items with
  | error fault => rfl
  | ok numbers => cases numbers <;> rfl

theorem drawNumber_reflects : Reflects M (Images M.data) drawNumber drawNumber where
  retains := drawNumber_alters.retains
  paired store other stores _ := by
    have random := stores.random
    refine .ok ?_ { stores with random := ?_ }
    · rw [random]
      rfl
    · rw [random]

theorem dateAt_reflects (milliseconds : Float) :
    Reflects M (Images M.data) (dateAt milliseconds) (dateAt milliseconds) := by
  unfold dateAt
  split
  · rename_i moment _
    have made : Reflects M (Images M.objects) (newDate milliseconds moment)
        (newDate milliseconds moment) := by
      refine .bind (addNative_reflects "iso" (.isoAt milliseconds)) fun iso => ?_
      exact newRecord_reflects "Date" _
    refine .bind made fun id => ?_
    exact .pure rfl
  · exact .throw _

theorem makeDate_reflects (room : Nat) (items : List Data) :
    Reflects M (Images M.data) (makeDate room items) (makeDate room (items.map M.data)) := by
  unfold makeDate
  rw [List.length_map]
  refine .bind (.asking rfl) fun _ => .looking (Alters.retains (.looking fun _ => ?_))
    fun store there stores => ?_
  · split
    · exact dateAt_alters _
    · exact dateAt_alters _
    · exact dateAt_alters _
    · exact .checking fun _ => .throw _
  have refuse (data : Data) : Reflects M (Images M.data)
      (do throw (.ofMisuse (.dateOperand (← ofExcept (store.displayData room false data)))))
      (do throw (.ofMisuse (.dateOperand
        (← ofExcept (there.displayData room false (M.data data)))))) := by
    refine .bind (.asking (stores.displayData room false data)) fun shown => ?_
    exact .throw _
  cases items with
  | nil =>
      rw [List.map_nil]
      dsimp only
      rw [stores.now]
      exact dateAt_reflects _
  | cons item rest =>
      rw [List.map_cons]
      cases item with
      | null =>
          rw [M.data_null]
          dsimp only
          rw [stores.now]
          exact dateAt_reflects _
      | float x => exact dateAt_reflects x
      | list items =>
          have refused := refuse (.list items)
          rw [M.data_list] at refused ⊢
          exact refused
      | table fields =>
          have refused := refuse (.table fields)
          rw [M.data_table] at refused ⊢
          exact refused
      | _ => exact refuse _

theorem isoText_mirrored (milliseconds : Float) :
    isoText milliseconds = (isoText milliseconds).map M.data := by
  unfold isoText
  split <;> rfl

/-! ## Jobs -/

theorem Naming.States.isDone {left right : JobState} (states : M.States left right) :
    right.isDone = left.isDone := by
  cases states <;> rfl

theorem Naming.States.isCancelled {left right : JobState} (states : M.States left right) :
    right.isCancelled = left.isCancelled := by
  cases states <;> rfl

namespace Naming.Schedules

variable {left right : Schedule} (schedules : M.Schedules left right)

include schedules

theorem job? (number : Nat) : Option.Rel M.Jobs (left.job? number) (right.job? number) := by
  unfold Schedule.job?
  split
  · exact .none
  · simpa using schedules.jobs.items (number - 1)

theorem setState (number : Nat) {state there : JobState} (states : M.States state there) :
    M.Schedules (left.setState number state) (right.setState number there) := by
  unfold Schedule.setState
  split
  · exact schedules
  · refine { schedules with jobs := ?_ }
    have same (job other : Job) (jobs : M.Jobs job other) :
        M.Jobs { job with state := state } { other with state := there } :=
      ⟨jobs.function, jobs.arguments, states⟩
    simpa using schedules.jobs.modify same (number - 1)

theorem knows (number : Nat) : right.knows number = left.knows number := by
  unfold Schedule.knows
  rw [schedules.forgotten, schedules.jobs.size, Nat.zero_add]

theorem add (function : Value) (arguments : List Value) :
    M.Schedules (left.add function arguments)
      (right.add (M.value function) (arguments.map M.value)) where
  jobs := schedules.jobs.push ⟨rfl, rfl, .waiting false⟩
  forgotten := schedules.forgotten
  ready := by
    rw [Schedule.add, Schedule.add, schedules.ready, schedules.jobs.size, Nat.zero_add]
  isOpen := rfl
  active := schedules.active

end Naming.Schedules

theorem noteJobs_reflects (message : String) :
    Reflects M (Images id) (noteJobs message) (noteJobs message) :=
  note_reflects _ _ message

theorem openSchedule_reflects : Reflects M (Images id) openSchedule openSchedule := by
  refine .looking openSchedule_alters.retains fun store there stores => ?_
  rw [stores.schedule.isOpen]
  split
  · refine .bind (changeSchedule_reflects fun _ _ schedules => ?_) fun _ => noteJobs_reflects _
    exact { schedules with isOpen := rfl }
  · exact .pure rfl

theorem enlist_reflects (function : Value) (arguments : List Value) :
    Reflects M (Images M.value) (enlist function arguments)
      (enlist (M.value function) (arguments.map M.value)) := by
  refine .bind openSchedule_reflects fun _ => ?_
  refine .bind (changeSchedule_reflects fun _ _ schedules => schedules.add _ _) fun _ => ?_
  refine .looking (Alters.retains (.looking fun _ => .bind (note_alters _ _ _) fun _ =>
    .bind (addNative_alters _ _) fun _ => .bind (addNative_alters _ _) fun _ =>
      .bind (newRecord_alters _ _) fun _ => .pure _)) fun store there stores => ?_
  dsimp only
  rw [stores.schedule.jobs.size, Nat.zero_add]
  refine .bind (noteJobs_reflects _) fun _ => ?_
  refine .bind (addNative_reflects "done" _) fun done => ?_
  refine .bind (addNative_reflects "cancelled" _) fun cancelled => ?_
  refine .bind (newRecord_reflects "Task" _) fun id => ?_
  exact .pure rfl

theorem spawnJob_reflects (arguments : List Value) :
    Reflects M (Images M.value) (spawnJob arguments) (spawnJob (arguments.map M.value)) := by
  cases arguments with
  | nil => exact .throw _
  | cons function arguments =>
      cases function with
      | closure | host => exact enlist_reflects _ arguments
      | _ => exact .throw _

theorem handleNumber_mirrored (stores : M.Stores store other) (operation : String)
    (handle : Value) :
    handleNumber other operation (M.value handle) = handleNumber store operation handle := by
  unfold handleNumber
  rw [M.kind_value]
  cases handle with
  | host id =>
      simp only [Naming.value_host]
      rw [stores.objectAt]
      cases store.objects[id]? with
      | none => rfl
      | some object =>
          cases object with
          | record typeName fields =>
              by_cases task : typeName = "Task"
              · subst task
                simp only [Option.map_some, Naming.object, Assoc.get?_mapValues]
                cases fields.get? "id" with
                | none => rfl
                | some field =>
                    cases field with
                    | value => rfl
                    | raw data => cases data <;> simp [Naming.field]
              · simp [Naming.object, task]
          | _ => rfl
  | _ => rfl

theorem jobOf_mirrored (stores : M.Stores store other) (operation : String) (handle : Value) :
    jobOf other operation (M.value handle) = jobOf store operation handle := by
  unfold jobOf
  rw [handleNumber_mirrored stores]
  simp only [stores.schedule.knows]

theorem requestCancel_mirrored {left right : JobState} (states : M.States left right) :
    M.States (Schedule.requestCancel left) (Schedule.requestCancel right) := by
  cases states with
  | waiting => exact .waiting true
  | running => exact .running true
  | returned value => exact .returned value
  | failed alike => exact .failed alike
  | cancelled => exact .cancelled

theorem cancelJob_reflects (arguments : List Value) :
    Reflects M (Images M.value) (cancelJob arguments) (cancelJob (arguments.map M.value)) := by
  unfold cancelJob
  rw [List.length_map, M.headD_values]
  refine .bind (.asking rfl) fun _ => .looking
    (Alters.retains (.looking fun _ => .checking fun number => ?_)) fun store there stores => ?_
  · split
    · exact .pure _
    · split
      · exact .pure _
      · exact .bind (note_alters _ _ _) fun _ => .bind (changeSchedule_alters _) fun _ => .pure _
  refine .bind (.asking (jobOf_mirrored stores "cancel" (arguments.headD .absent))) fun number => ?_
  have jobs := stores.schedule.job? number
  dsimp only [id]
  revert jobs
  generalize store.schedule.job? number = job
  generalize there.schedule.job? number = jobThere
  rintro (jobs | _)
  · dsimp only
    rw [jobs.state.isDone]
    split
    · exact .pure rfl
    · refine .bind (noteJobs_reflects _) fun _ => ?_
      refine .bind (changeSchedule_reflects fun _ _ schedules => ?_) fun _ => .pure rfl
      exact schedules.setState number (requestCancel_mirrored jobs.state)
  · exact .pure rfl

theorem askJob_reflects {question : JobState → Bool}
    (same : ∀ left right, M.States left right → question right = question left) (number : Nat) :
    Reflects M (Images M.data) (askJob question number) (askJob question number) := by
  refine .looking (Alters.retains (.looking fun _ => .pure _)) fun store there stores => .pure ?_
  have jobs := stores.schedule.job? number
  revert jobs
  generalize store.schedule.job? number = job
  generalize there.schedule.job? number = jobThere
  rintro (jobs | _)
  · exact congrArg Data.bool (same _ _ jobs.state)
  · rfl

/-! ## JSON texts -/

theorem jsonText_reflects (room : Nat) (arguments : List Value) :
    Reflects M (Images M.value) (jsonText room arguments)
      (jsonText room (arguments.map M.value)) := by
  unfold jsonText
  rw [List.length_map, M.headD_values]
  refine .bind (.asking rfl) fun _ => .looking (Alters.retains (.looking fun _ =>
    .choosing (.checking fun _ => .pure _) (.pure _))) fun store there stores => ?_
  generalize arguments.headD .absent = value
  have writing : Reflects M (Images M.value)
      (do return .text (← ofExcept (store.toJson room value)).write)
      (do return .text (← ofExcept (there.toJson room (M.value value))).write) := by
    refine .bind (.asking (stores.toJson room value)) fun json => ?_
    exact .pure rfl
  refine .choosing ?_ writing (.pure rfl)
  cases value with
  | host id =>
      rw [Naming.value_host]
      dsimp only
      rw [stores.objectAt]
      cases store.objects[id]? with
      | none => rfl
      | some object => cases object <;> rfl
  | _ => rfl

theorem jsonValue_reflects (room : Nat) (arguments : List Value) :
    Reflects M (Images M.value) (jsonValue room arguments)
      (jsonValue room (arguments.map M.value)) := by
  unfold jsonValue
  rw [List.length_map, M.headD_values]
  refine .bind (.asking rfl) fun _ => ?_
  cases arguments.headD .absent with
  | text text =>
      simp only [Naming.value_text]
      cases Json.read (room / 2) text.toList with
      | ok value =>
          refine .bind (toData_reflects value) fun data => ?_
          exact wrap_reflects data
      | error failure => cases failure <;> exact .throw _
  | _ => exact .throw _

/-! ## Host operations -/

theorem native_reflects (room : Nat) (operation : Native) (arguments : List Value) :
    Reflects M (Images M.value) (operation.perform room arguments)
      ((M.native operation).perform room (arguments.map M.value)) := by
  have checked {operation there : List Data → StoreM Data} {check : Nat → Except Fault Unit}
      (same : ∀ items, Reflects M (Images M.data) (operation items) (there (items.map M.data))) :
      Reflects M (Images M.value)
        (onData room arguments fun items => do
          ofExcept (check items.length)
          operation items)
        (onData room (arguments.map M.value) fun items => do
          ofExcept (check items.length)
          there items) := by
    refine onData_reflects room arguments fun items => ?_
    rw [List.length_map]
    exact .bind (.asking rfl) fun _ => same items
  cases operation with
  | bound method receiver => exact method_reflects room method receiver arguments
  | boundCopy method receiver => exact methodOnCopy_reflects room method receiver arguments
  | math function =>
      exact onData_reflects room arguments fun items =>
        .reading fun _ _ stores => math_mirrored stores room function items
  | least =>
      exact onData_reflects room arguments fun items =>
        .reading fun _ _ stores => leastArgument_mirrored stores room items
  | greatest =>
      exact onData_reflects room arguments fun items =>
        .reading fun _ _ stores => greatestArgument_mirrored stores room items
  | random => exact checked fun _ => drawNumber_reflects
  | date => exact onData_reflects room arguments (makeDate_reflects room)
  | now =>
      refine checked fun _ =>
        .looking (Alters.retains (.looking fun _ => .pure _)) fun store there stores => .pure ?_
      rw [stores.now]
      rfl
  | isoNow =>
      refine checked fun _ => .reading fun store there stores => ?_
      rw [stores.now]
      exact isoText_mirrored store.now
  | isoAt milliseconds => exact checked fun _ => .ofExcept (isoText_mirrored milliseconds)
  | writeJson => exact jsonText_reflects room arguments
  | readJson => exact jsonValue_reflects room arguments
  | print =>
      refine .looking (Alters.retains (.looking fun _ => .checking fun _ =>
        .bind (emit_alters _) fun _ => .pure _)) fun store there stores => ?_
      refine .bind (.asking (stores.spaced room arguments)) fun text => ?_
      exact .bind (emit_reflects _) fun _ => .pure rfl
  | log =>
      refine .looking (Alters.retains (.looking fun _ => .checking fun _ =>
        .bind (note_alters _ _ _) fun _ => .pure _)) fun store there stores => ?_
      refine .bind (.asking (stores.spaced room arguments)) fun text => ?_
      exact .bind (note_reflects _ _ _) fun _ => .pure rfl
  | spawn => exact spawnJob_reflects arguments
  | cancel => exact cancelJob_reflects arguments
  | isDone job => exact checked fun _ => askJob_reflects (fun _ _ states => states.isDone) job
  | isCancelled job =>
      exact checked fun _ => askJob_reflects (fun _ _ states => states.isCancelled) job
  | hosted implementation =>
      exact onData_reflects room arguments (implementation_reflects implementation)

end Scriptlet
