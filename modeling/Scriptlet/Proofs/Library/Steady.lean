import Scriptlet.Proofs.Store.Steady

/-!
# Steady operations of the host

Every operation of the host that the discipline allows keeps the store in order and fails only as
host functions may fail.
-/

namespace Scriptlet

variable {D : Discipline} {A : Agenda} {fault : Fault → Prop}

/-! ## Arguments -/

theorem signature_fails (D : Discipline) (signature : Signature) (given : Nat) :
    Fails D.failure (signature.check given) := by
  unfold Signature.check
  split
  · exact .error (D.reported _ rfl)
  · exact .ok _

theorem refuseArguments_fails (D : Discipline) (label : String) (given : Nat) :
    Fails D.failure (refuseArguments label given) := by
  unfold refuseArguments
  split
  · exact .ok _
  · exact .error (D.reported _ rfl)

theorem onData_steady (room : Nat) (arguments : List Value) {operation : List Data → StoreM Data}
    (each : ∀ items, (∀ item ∈ items, D.data item) →
      Steady D A D.failure D.data (operation items)) :
    Steady D A D.failure (fun _ => True) (onData room arguments operation) := by
  refine .looking fun store _ => .checking ?_ fun items unwrapped => ?_
  · exact .mapM fun value _ failure failed => D.weaken (unwrap_fails D store room value _ failed)
  · refine .bind (each items (unwrapAll_data D unwrapped)) fun data allowed => ?_
    exact (wrap_steady allowed).weaken

/-! ## Methods -/

theorem joinItems_fails {holds : Schedule → List Entry → Prop} {store : Store}
    (obeys : store.Obeys D holds) (room : Nat) (items : ArrayId) (separator : Value) :
    Fails D.failure (Method.joinItems store room items separator) := by
  intro failure failed
  apply D.weaken
  revert failed
  apply Fails.bind (obeys.display_fails room false separator) fun _ _ => ?_
  exact .bind (.mapM fun value _ => obeys.display_fails room false value) fun _ _ => .ok _

theorem method_steady (room : Nat) (method : Method) (receiver : Value) (arguments : List Value) :
    Steady D A D.failure (fun _ => True) (method.perform room receiver arguments) := by
  unfold Method.perform
  refine .checking (signature_fails D _ _) fun _ _ => ?_
  split
  · exact .bind (changeArray_steady _ _) fun _ _ => .looking fun _ _ => .pure trivial
  · exact .looking fun _ _ => .bind (changeArray_steady _ _) fun _ _ => .pure trivial
  · refine .looking fun _ obeys => .checking (joinItems_fails obeys _ _ _) fun _ _ => ?_
    exact .pure trivial
  · refine .looking fun _ obeys => .checking (joinItems_fails obeys _ _ _) fun _ _ => ?_
    exact .pure trivial
  · exact .pure trivial
  · exact .pure trivial
  · exact addArray_steady _
  · exact addArray_steady _
  · refine Steady.weaken (.looking fun _ obeys => ?_)
    exact .checking (obeys.display_fails _ _ _) fun _ _ => addArray_steady _
  · exact .pure trivial

theorem implementation_steady {implementation : Implementation}
    (allowed : D.action (.native (.hosted implementation))) {items : List Data}
    (all : ∀ item ∈ items, D.data item) :
    Steady D A D.failure D.data (implementation.perform items) := by
  unfold Implementation.perform
  split
  · rename_i answer answered
    have holds := D.answers allowed all answered
    cases answer with
    | data held => exact .pure holds
    | record typeName fields => exact .bind (newRecord_steady holds) fun _ _ => .pure (D.atom rfl)
  · rename_i refusal refused
    exact .throw (D.refuses allowed all refused)

theorem methodOnCopy_steady (room : Nat) {method : HostMethod} {receiver : Data}
    (allowed : D.action (.native (.boundCopy method receiver))) (arguments : List Value) :
    Steady D A D.failure (fun _ => True) (method.performOn room receiver arguments) := by
  obtain ⟨data, hosted⟩ := D.boundCopy.mp allowed
  exact onData_steady room arguments fun _ all =>
    implementation_steady hosted (List.forall_mem_cons.mpr ⟨data, all⟩)

theorem methodEntry_steady (room : Nat) {method : MethodEntry} (allowed : D.method method)
    (receiver : Value) (arguments : List Value) :
    Steady D A D.failure (fun _ => True) (method.perform room receiver arguments) := by
  cases method with
  | standard method => exact method_steady room method receiver arguments
  | hosted method => exact onData_steady room _ fun _ => implementation_steady allowed

/-! ## Numbers and dates -/

section Numbers

variable {holds : Schedule → List Entry → Prop} {store : Store} (obeys : store.Obeys D holds)

include obeys

theorem numbersOf_fails (room : Nat) (function : String) {arguments : List Data}
    (all : ∀ item ∈ arguments, D.data item) :
    Fails D.fault (numbersOf store room function arguments) := by
  induction arguments with
  | nil => exact .ok []
  | cons data rest ih =>
      unfold numbersOf
      split
      · cases ‹data :: rest = []›
      · rename_i same
        cases same
        refine .bind (ih fun item member => all item (List.mem_cons_of_mem _ member)) ?_
        exact fun _ _ => .ok _
      · rename_i same
        cases same
        refine .bind (obeys.displayData_fails room false (all _ List.mem_cons_self)) ?_
        exact fun _ _ => .error (D.misuse _)

theorem math_fails (room : Nat) (function : MathFunction) {arguments : List Data}
    (all : ∀ item ∈ arguments, D.data item) :
    Fails D.fault (function.perform store room arguments) := by
  refine .bind (numbersOf_fails obeys room _ all) fun numbers _ => ?_
  dsimp only
  split
  · exact .ok _
  · exact .ok _
  · exact .error (D.misuse _)

theorem leastArgument_fails (room : Nat) {arguments : List Data}
    (all : ∀ item ∈ arguments, D.data item) :
    Fails D.fault (leastArgument store room arguments) := by
  refine .bind (numbersOf_fails obeys room _ all) fun numbers _ => ?_
  split <;> exact .ok _

theorem greatestArgument_fails (room : Nat) {arguments : List Data}
    (all : ∀ item ∈ arguments, D.data item) :
    Fails D.fault (greatestArgument store room arguments) := by
  refine .bind (numbersOf_fails obeys room _ all) fun numbers _ => ?_
  split <;> exact .ok _

end Numbers

/-- The answers of functions on numbers are atoms. -/
theorem math_isAtom {store : Store} {room : Nat} {function : MathFunction}
    {arguments : List Data} {data : Data}
    (answered : function.perform store room arguments = .ok data) : data.isAtom = true := by
  obtain ⟨numbers, -, answered⟩ := of_bind_ok answered
  dsimp only at answered
  split at answered <;> cases answered <;> rfl

theorem leastArgument_isAtom {store : Store} {room : Nat} {arguments : List Data} {data : Data}
    (answered : leastArgument store room arguments = .ok data) : data.isAtom = true := by
  obtain ⟨numbers, -, answered⟩ := of_bind_ok answered
  split at answered <;> cases answered <;> rfl

theorem greatestArgument_isAtom {store : Store} {room : Nat} {arguments : List Data} {data : Data}
    (answered : greatestArgument store room arguments = .ok data) : data.isAtom = true := by
  obtain ⟨numbers, -, answered⟩ := of_bind_ok answered
  split at answered <;> cases answered <;> rfl

/-- An answer that is an atom, from a question that fails as code may. -/
theorem atom_steady {answer : Except Fault Data} (bad : Fails D.fault answer)
    (good : ∀ data, answer = .ok data → data.isAtom = true) :
    Steady D A D.failure D.data (ofExcept answer) :=
  .ofExcept (fun data answered => D.atom (good data answered)) fun failure failed =>
    D.weaken (bad failure failed)

theorem isoText_steady (milliseconds : Float) :
    Steady D A D.failure D.data (ofExcept (isoText milliseconds)) := by
  unfold isoText
  split
  · exact .pure (D.atom rfl)
  · exact .throw (D.reported _ rfl)

theorem dateAt_steady (milliseconds : Float) :
    Steady D A D.failure D.data (dateAt milliseconds) := by
  unfold dateAt
  split
  · refine .bind (.bind (addNative_steady _ (D.isoAt _)) fun iso _ => newAtoms_steady "Date" ?_)
      fun _ _ => .pure (D.atom rfl)
    simp [Data.isAtom]
  · exact .throw (D.weaken (D.misuse _))

theorem makeDate_steady (room : Nat) {arguments : List Data}
    (all : ∀ item ∈ arguments, D.data item) :
    Steady D A D.failure D.data (makeDate room arguments) := by
  refine .checking (signature_fails D _ _) fun _ _ => .looking fun store obeys => ?_
  split
  · exact dateAt_steady _
  · exact dateAt_steady _
  · exact dateAt_steady _
  · refine Steady.weaken (.checking (obeys.displayData_fails room false ?_) fun _ _ => ?_)
    · exact all _ List.mem_cons_self
    · exact .throw (D.misuse _)

/-! ## Jobs -/

theorem Schedule.mem_jobs_of_job? {schedule : Schedule} {number : Nat} {job : Job}
    (found : schedule.job? number = some job) : job ∈ schedule.jobs := by
  unfold Schedule.job? at found
  split at found
  · cases found
  · exact Array.mem_of_getElem? found

/-- A job that is put into another stage is the only one that changes. -/
theorem failures_setState {schedule : Schedule} {number : Nat} {state : JobState}
    (failures : ∀ job ∈ schedule.jobs, ∀ fault, job.state = .failed fault → D.recorded fault)
    (allowed : ∀ fault, state = .failed fault → D.recorded fault) :
    ∀ job ∈ (schedule.setState number state).jobs, ∀ fault, job.state = .failed fault →
      D.recorded fault := by
  unfold Schedule.setState
  split
  · exact failures
  · intro job found
    obtain ⟨index, found⟩ := Array.mem_iff_getElem?.mp found
    rw [Array.getElem?_modify] at found
    split at found
    · obtain ⟨old, -, rfl⟩ := Option.map_eq_some_iff.mp found
      exact allowed
    · exact failures job (Array.mem_of_getElem? found)

/-- Closing the schedule abandons jobs, which is no failure. -/
theorem failures_close {schedule : Schedule}
    (failures : ∀ job ∈ schedule.jobs, ∀ fault, job.state = .failed fault → D.recorded fault) :
    ∀ job ∈ schedule.close.jobs, ∀ fault, job.state = .failed fault → D.recorded fault := by
  intro job found fault failed
  obtain ⟨old, present, rfl⟩ := Array.mem_map.mp found
  refine failures old present fault ?_
  dsimp only at failed
  unfold Schedule.abandoned at failed
  split at failed
  · cases failed
  · cases failed
  · exact failed

theorem setState_steady (restates : A.Restates) (number : Nat) {state : JobState}
    (allowed : ∀ fault, state = .failed fault → D.recorded fault) :
    Steady D A fault (fun _ => True)
      (changeSchedule fun schedule => schedule.setState number state) :=
  .modify fun _ obeys => obeys.reschedule (restates number state obeys.jobs) rfl
    (failures_setState obeys.failures allowed)

theorem openSchedule_steady : Steady D A fault (fun _ => True) openSchedule := by
  -- The change and the entry about it are one step for the timetable.
  have opening : Steady D A fault (fun _ => True) (do
      changeSchedule fun schedule => { schedule with isOpen := true }
      noteJobs "task loop opened") :=
    fun store obeys => .ok (obeys.reschedule (A.opened obeys.jobs) (store.jobEntries_push _)
      obeys.failures) trivial
  exact .looking fun _ _ => .choosing opening (.pure trivial)

/-- The failures of the jobs are those from before when a job has been added. -/
theorem failures_add {schedule : Schedule}
    (failures : ∀ job ∈ schedule.jobs, ∀ fault, job.state = .failed fault → D.recorded fault)
    (function : Value) (arguments : List Value) :
    ∀ job ∈ (schedule.add function arguments).jobs, ∀ fault, job.state = .failed fault →
      D.recorded fault := by
  intro job found fault failed
  rcases Array.mem_push.mp found with found | rfl
  · exact failures job found fault failed
  · cases failed

/-- The handle of a job is a record of atoms. -/
theorem handle_steady (number : Nat) : Steady D A D.failure (fun _ => True) (do
    let done ← Store.addNative "done" (.isDone number)
    let cancelled ← Store.addNative "cancelled" (.isCancelled number)
    return .host (← Data.newRecord "Task"
      [("id", .int number), ("done", .host done), ("cancelled", .host cancelled)]) :
    StoreM Value) := by
  refine .bind (addNative_steady _ (D.isDone number)) fun _ _ => ?_
  refine .bind (addNative_steady _ (D.isCancelled number)) fun _ _ => ?_
  exact .bind (newAtoms_steady "Task" (by simp [Data.isAtom])) fun _ _ => .pure trivial

theorem enlist_steady (function : Value) (arguments : List Value) :
    Steady D A D.failure (fun _ => True) (enlist function arguments) := by
  -- The new job and the entry about it are one step for the timetable.
  refine .bind openSchedule_steady fun _ _ store obeys => ?_
  have added := obeys.reschedule (A.added function arguments obeys.jobs)
    (store.jobEntries_push _) (failures_add obeys.failures function arguments)
  rw [← Array.size_push] at added
  exact handle_steady _ _ added

theorem spawnJob_steady (arguments : List Value) :
    Steady D A D.failure (fun _ => True) (spawnJob arguments) :=
  spawnJob_rule (fun _ => .throw (D.weaken (D.misuse _))) enlist_steady arguments

theorem jobOf_fails (D : Discipline) (store : Store) (operation : String) (handle : Value) :
    Fails D.failure (jobOf store operation handle) := by
  refine .bind ?_ fun number _ => ?_
  · unfold handleNumber
    dsimp only
    split
    · split
      · split
        · exact .ok _
        · exact .error (D.reported _ rfl)
      · exact .error (D.weaken (D.misuse _))
    · exact .error (D.weaken (D.misuse _))
  · split
    · exact .ok _
    · exact .error (D.weaken (D.cause _))

theorem cancelJob_steady (arguments : List Value) :
    Steady D A D.failure (fun _ => True) (cancelJob arguments) := by
  intro store
  refine .checking (signature_fails D _ _) fun _ _ => .looking ?_
  refine .checking (jobOf_fails D store _ _) fun number _ => ?_
  split
  · exact .pure trivial
  · rename_i job found
    refine .choosing (fun _ => .pure trivial) fun notDone obeys => ?_
    -- The request and the entry about it are one step for the timetable.
    have undone : job.state.isDone = false := by simpa using notDone
    refine .ok (obeys.reschedule (A.requested found undone obeys.jobs) (store.jobEntries_push _)
      (failures_setState obeys.failures fun fault failed => ?_)) trivial
    cases state : job.state with
    | failed other => simp [state, JobState.isDone] at notDone
    | _ => simp [state, Schedule.requestCancel] at failed

/-! ## JSON texts -/

theorem jsonText_steady (room : Nat) (arguments : List Value) :
    Steady D A D.failure (fun _ => True) (jsonText room arguments) := by
  refine .checking (signature_fails D _ _) fun _ _ => .looking fun store obeys => ?_
  refine Steady.weaken (.choosing ?_ (.pure trivial))
  exact .checking ((obeys.toJson_fails_both room).1 _) fun _ _ => .pure trivial

theorem jsonValue_steady (room : Nat) (arguments : List Value) :
    Steady D A D.failure (fun _ => True) (jsonValue room arguments) := by
  refine .checking (signature_fails D _ _) fun _ _ => ?_
  split
  · split
    · exact .bind (toData_steady _) fun data allowed => (wrap_steady allowed).weaken
    · exact .throw (D.weaken (D.misuse _))
    · exact .throw (D.reported _ rfl)
    · exact .throw (D.weaken D.exhausted)
  · exact .throw (D.weaken (D.misuse _))

/-! ## All operations -/

/-- Every operation that is allowed keeps the store in order. -/
theorem native_steady (room : Nat) {operation : Native} (allowed : D.action (.native operation))
    (arguments : List Value) :
    Steady D A D.failure (fun _ => True) (operation.perform room arguments) := by
  cases operation with
  | bound method receiver => exact method_steady room method receiver arguments
  | boundCopy method receiver =>
      exact methodOnCopy_steady room allowed arguments
  | math function =>
      exact onData_steady room arguments fun _ all => .looking fun _ obeys =>
        atom_steady (math_fails obeys room function all) fun _ => math_isAtom
  | least =>
      exact onData_steady room arguments fun _ all => .looking fun _ obeys =>
        atom_steady (leastArgument_fails obeys room all) fun _ => leastArgument_isAtom
  | greatest =>
      exact onData_steady room arguments fun _ all => .looking fun _ obeys =>
        atom_steady (greatestArgument_fails obeys room all) fun _ => greatestArgument_isAtom
  | random =>
      refine onData_steady room arguments fun _ _ => ?_
      refine .checking (refuseArguments_fails D _ _) fun _ _ => ?_
      exact fun _ obeys => .ok (obeys.similar rfl rfl rfl rfl rfl) (D.atom rfl)
  | date => exact onData_steady room arguments fun _ all => makeDate_steady room all
  | now =>
      exact onData_steady room arguments fun _ _ => .checking (signature_fails D _ _) fun _ _ =>
        .looking fun _ _ => .pure (D.atom rfl)
  | isoNow =>
      exact onData_steady room arguments fun _ _ => .checking (signature_fails D _ _) fun _ _ =>
        .looking fun _ _ => isoText_steady _
  | isoAt milliseconds =>
      exact onData_steady room arguments fun _ _ => .checking (signature_fails D _ _) fun _ _ =>
        isoText_steady milliseconds
  | writeJson => exact jsonText_steady room arguments
  | readJson => exact jsonValue_steady room arguments
  | print =>
      refine Steady.weaken (.looking fun _ obeys => ?_)
      refine .checking (obeys.spaced_fails room arguments) fun text _ => ?_
      have printing : Steady D A D.fault (fun _ => True) (Store.emit (text ++ "\n")) :=
        .modify fun _ obeys => obeys.similar rfl rfl rfl rfl rfl
      exact .bind printing fun _ _ => .pure trivial
  | log =>
      refine Steady.weaken (.looking fun _ obeys => ?_)
      refine .checking (obeys.spaced_fails room arguments) fun _ _ => ?_
      exact .bind (note_steady _ (by decide) _) fun _ _ => .pure trivial
  | spawn => exact spawnJob_steady arguments
  | cancel => exact cancelJob_steady arguments
  | isDone | isCancelled =>
      exact onData_steady room arguments fun _ _ =>
        .checking (refuseArguments_fails D _ _) fun _ _ =>
          .looking fun _ _ => .pure (D.atom rfl)
  | hosted implementation =>
      exact onData_steady room arguments fun _ => implementation_steady allowed

end Scriptlet
