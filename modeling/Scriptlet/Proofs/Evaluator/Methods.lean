import Scriptlet.Sample
import Scriptlet.Proofs.Evaluator.Completion
import Scriptlet.Proofs.Scope.Frame

/-!
# Calls of methods

A method of an array or of a text can be called on its receiver at once, or it can be read as a
value, a host function that remembers the receiver, and be called later.  Both calls evaluate the
arguments and then perform the method, on the receiver as it is by then.  A method on plain data is
different: read as a value it remembers the data that the receiver had when it was read.
-/

namespace Scriptlet

/-! ## Methods of values -/

/-- Only arrays and texts have methods, and none is called like a property. -/
theorem Store.method?_some {store : Store} {kind : Kind} {name : String} {method : MethodEntry}
    (registered : store.method? kind name = some method) :
    (kind = .array ∨ kind = .text) ∧ name ≠ "length" := by
  unfold Store.method? at registered
  split at registered
  · cases registered
  · refine ⟨?_, ‹_›⟩
    have found := List.find?_some registered
    simp only [Bool.and_eq_true, decide_eq_true_eq] at found
    obtain ⟨rfl, -⟩ := found
    cases method with
    | standard method => cases method <;> decide
    | hosted method => exact method.owned

section Reading

variable {store : Store} {receiver : Value} {name : String} {method : MethodEntry}
  (registered : store.method? receiver.kind name = some method)

include registered

/-- A method is found by its name. -/
theorem readMember_method (room : Nat) :
    Store.readMember room receiver name store = .ok (.method method) store := by
  obtain ⟨kind, other⟩ := Store.method?_some registered
  have member : Store.member? receiver name store = .ok (some (.method method)) store := by
    unfold Store.member?
    refine (bind_of_ok (rfl : (get : StoreM Store) store = .ok store store)).trans ?_
    cases receiver with
    | array | text =>
        dsimp only [Store.length?]
        rw [if_neg other, registered]
        rfl
    | _ => rcases kind with kind | kind <;> cases kind
  cases receiver with
  | absent => rcases kind with kind | kind <;> cases kind
  | _ => exact bind_of_ok member

end Reading

/-- What a method that was read as a value performs: the method on its receiver, or on the data that
the receiver had in the store at the time. -/
inductive MethodEntry.BoundTo (receiver : Value) (start : Store) : MethodEntry → Native → Prop
  | itself (method : Method) : BoundTo receiver start (.standard method) (.bound method receiver)
  | data (method : HostMethod) {room : Nat} {data : Data}
      (unwrapped : start.unwrap room receiver = .ok data) :
      BoundTo receiver start (.hosted method) (.boundCopy method data)

theorem bindMethod_ok {room : Nat} {method : MethodEntry} {receiver value : Value}
    {store after : Store}
    (binds : Store.bindMethod room method receiver store = .ok value after) :
    ∃ id operation, value = .host id ∧ method.BoundTo receiver store operation ∧
      after.objects[id]? = some (.function method.name (.native operation)) ∧
      after.methods = store.methods := by
  cases method with
  | standard method =>
      cases binds
      exact ⟨_, _, rfl, .itself method, Array.getElem?_push_size, rfl⟩
  | hosted method =>
      obtain ⟨_, _, ⟨⟩, binds⟩ := bind_ok binds
      cases unwrapped : store.unwrap room receiver with
      | error fault =>
          rw [unwrapped] at binds
          cases binds
      | ok data =>
          rw [unwrapped] at binds
          cases binds
          exact ⟨_, _, rfl, .data method unwrapped, Array.getElem?_push_size, rfl⟩

/-! ## Methods that were read as values -/

/-- A value was the member of a receiver, in the store `start`, at some time before: since then the
machine has gone through any courses. -/
inductive Machine.Took (receiver : Value) (name : String) (taken : Value) : Store → Machine → Prop
  | read {before reading after : Machine} {context : Context} {room : Nat} {span : Span}
      {object : Expr} (receives : evaluate context (room + 3) object before = .ok receiver reading)
      (reads : evaluate context (room + 5) (.member span object name) before = .ok taken after) :
      Took receiver name taken reading.store after
  | later {start : Store} {before after : Machine} {kind : List Stmt → Prop} {scope : ScopeId}
      (took : Took receiver name taken start before) (course : before.Course kind scope after) :
      Took receiver name taken start after

theorem Store.Change.methods {before after : Store} (change : before.Change after) :
    after.methods = before.methods := by
  cases change <;> rfl

/-- No course gives values other methods. -/
theorem Machine.Course.methods {kind : List Stmt → Prop} {scope : ScopeId} {before after : Machine}
    (course : before.Course kind scope after) : after.store.methods = before.store.methods := by
  induction course with
  | trans _ _ first second => exact second.trans first
  | store _ _ change => exact change.methods
  | inside _ _ _ inner => exact inner
  | _ => rfl

/-- A method that was read as a value stays a host function, which remembers what it is bound to. -/
theorem Machine.Took.function {receiver taken : Value} {name : String} {start : Store}
    {machine : Machine} (took : Machine.Took receiver name taken start machine)
    {method : MethodEntry} (registered : start.method? receiver.kind name = some method) :
    ∃ id operation, taken = .host id ∧ method.BoundTo receiver start operation ∧
      machine.store.objects[id]? = some (.function method.name (.native operation)) ∧
      machine.store.methods = start.methods := by
  induction took with
  | read receives reads =>
      rw [evaluate, locating_ok_iff] at reads
      obtain ⟨given, reading', receives', reads⟩ := bind_ok reads
      cases receives.symm.trans receives'
      obtain ⟨member, middle, looked, binds⟩ := bind_ok (onStore_ok reads)
      cases (readMember_method registered _).symm.trans looked
      exact bindMethod_ok binds
  | later _ course ih =>
      obtain ⟨id, operation, named, bound, found, methods⟩ := ih registered
      exact ⟨id, operation, named, bound, course.objectAt (fun _ _ => rfl) found,
        course.methods.trans methods⟩

/-! ## Evaluations -/

/-- The value with which steps end. -/
def endValue? : EStateM.Result Fault Machine Value → Option Value
  | .ok value _ => some value
  | .error _ _ => none

theorem eq_ok_of_endValue? {outcome : EStateM.Result Fault Machine Value} {value : Value}
    (ends : endValue? outcome = some value) : outcome = .ok value (endState outcome) := by
  cases outcome <;> cases ends
  rfl

theorem evaluate_name {machine : Machine} {context : Context} {name : String} {value : Value}
    (found : machine.scopes.lookup? name context.scope = some value) (room : Nat) (span : Span) :
    evaluate context (room + 5) (.name span name) machine = .ok value machine := by
  have looked : resolve (room + 3) context.scope name machine = .ok value machine := by
    unfold resolve
    rw [lookupName, bind_of_ok (rfl : (get : MachineM Machine) machine = .ok machine machine),
      found]
    rfl
  rw [evaluate, locating, mapFault_ok_iff]
  exact looked

/-! ## Calls -/

/-- Evaluates arguments, and then has a host function perform an operation on them. -/
def callingOn (context : Context) (room : Nat) (span : Span) (function : String)
    (operation : List Value → StoreM Value) (arguments : List Expr) : MachineM Value :=
  locating context.runner span do
    let values ← arguments.mapM (evaluate context (room + 1))
    callingHost function (Machine.onStore (operation values))

section Calls

variable {machine middle : Machine} {context : Context} {room : Nat}

/-- What calling a host function does. -/
theorem callValue_function {runner : RunnerId} {id : ObjectId} {name : String} {action : Action}
    (found : machine.store.objects[id]? = some (.function name action)) (arguments : List Value) :
    callValue runner (room + 2) (.host id) arguments machine =
      callingHost name (perform (room + 1) action arguments) machine := by
  rw [callValue]
  refine (bind_of_ok rfl).trans ?_
  rw [found]
  rfl

/-- Steps that are the same wherever the first ones lead to are the same after them. -/
theorem bind_congr_ok {α β : Type} {first : MachineM α} {next others : α → MachineM β}
    (same : ∀ value after, first machine = .ok value after →
      next value after = others value after) :
    (first >>= next) machine = (first >>= others) machine := by
  cases run : first machine with
  | ok value after => rw [bind_of_ok run, bind_of_ok run, same value after run]
  | error fault after => rw [bind_of_error run, bind_of_error run]

theorem Machine.course_evaluate (machine : Machine) (context : Context) (room : Nat)
    (expression : Expr) : machine.Course CodeKind.any.body context.scope
      (endState (evaluate context room expression machine)) :=
  (roomFollows CodeKind.any room).evaluate context trivial machine fun _ _ => trivial

theorem Machine.course_evaluateAll (machine : Machine) (context : Context) (room : Nat)
    (expressions : List Expr) : machine.Course CodeKind.any.body context.scope
      (endState (expressions.mapM (evaluate context room) machine)) := by
  refine Follows.mapM expressions (fun expression _ machine => ?_) machine fun _ _ => trivial
  exact fun _ => machine.course_evaluate context room expression

/-- A call of a method on its receiver performs it on the receiver. -/
theorem evaluate_call_method {object : Expr} {receiver : Value} {name : String}
    {method : MethodEntry}
    (receives : evaluate context (room + 2) object machine = .ok receiver middle)
    (registered : middle.store.method? receiver.kind name = some method) (span place : Span)
    (arguments : List Expr) :
    evaluate context (room + 5) (.call span (.member place object name) arguments) machine =
      callingOn context room span method.name (method.perform room receiver) arguments middle := by
  rw [evaluate]
  refine locating_congr ((bind_of_ok receives).trans ?_)
  exact bind_of_ok (onStore_of_ok (readMember_method registered (room + 2)))

/-- A call of a host function performs its operation. -/
theorem evaluate_call_native {callee : Expr} {id : ObjectId} {function : String}
    {operation : Native} (alone : ∀ span object field, callee ≠ .member span object field)
    (named : evaluate context (room + 2) callee machine = .ok (.host id) middle)
    (found : middle.store.objects[id]? = some (.function function (.native operation)))
    (span : Span) (arguments : List Expr) :
    evaluate context (room + 5) (.call span callee arguments) machine =
      callingOn context room span function (operation.perform room) arguments middle := by
  rw [evaluate]
  case x_2 => exact alone
  refine locating_congr ((bind_of_ok named).trans (bind_congr_ok fun values after run => ?_))
  -- The arguments leave the function as it is.
  have course := middle.course_evaluateAll context (room + 1) arguments
  rw [run] at course
  have kept : after.store.objects[id]? = some (.function function (.native operation)) :=
    course.objectAt (fun _ _ => rfl) found
  rw [callValue_function kept]
  rfl

/-- Calls with operations that do the same to the same store are the same. -/
theorem callingOn_congr {function : String} {operation other : List Value → StoreM Value}
    {arguments : List Expr} {span : Span}
    (same : ∀ values after, arguments.mapM (evaluate context (room + 1)) middle = .ok values after →
      operation values after.store = other values after.store) :
    callingOn context room span function operation arguments middle =
      callingOn context room span function other arguments middle := by
  refine locating_congr (bind_congr_ok fun values after run => ?_)
  have performed : Machine.onStore (operation values) after =
      Machine.onStore (other values) after := by
    simp only [Machine.onStore, same values after run]
  unfold callingHost Machine.mapFault
  rw [performed]

end Calls

/-! ## Calls of methods that were read as values -/

/-- An argument whose data is known is passed on as that data. -/
theorem onData_cons {room : Nat} {receiver : Value} {data : Data} {store : Store}
    (unwrapped : store.unwrap room receiver = .ok data) (arguments : List Value)
    (operation : List Data → StoreM Data) :
    onData room (receiver :: arguments) operation store =
      onData room arguments (fun items => operation (data :: items)) store := by
  unfold onData
  rw [bind_of_ok (rfl : (get : StoreM Store) store = .ok store store),
    bind_of_ok (rfl : (get : StoreM Store) store = .ok store store), List.mapM_cons, unwrapped]
  cases arguments.mapM (store.unwrap room) <;> rfl

/-- The two calls are the same if the method works on its receiver itself or if the receiver is a
text, and otherwise if the receiver has, after the arguments, the data that the method remembers. -/
theorem evaluate_takenMethod {start : Store} {later ready : Machine} {receiver taken : Value}
    {name : String} (took : Machine.Took receiver name taken start later) {method : MethodEntry}
    (registered : start.method? receiver.kind name = some method) {context : Context} {room : Nat}
    {callee object : Expr} (alone : ∀ span inner field, callee ≠ .member span inner field)
    (named : evaluate context (room + 2) callee later = .ok taken ready)
    (receives : evaluate context (room + 2) object later = .ok receiver ready) (span place : Span)
    (arguments : List Expr) :
    (method.copies = false ∨ receiver.kind = .text →
        evaluate context (room + 5) (.call span callee arguments) later =
          evaluate context (room + 5) (.call span (.member place object name) arguments) later) ∧
      (∀ hosted, method = .hosted hosted →
        ∃ data, (∃ space, start.unwrap space receiver = .ok data) ∧
          evaluate context (room + 5) (.call span callee arguments) later =
            callingOn context room span hosted.name (hosted.performOn room data) arguments ready ∧
          ((∀ values after, arguments.mapM (evaluate context (room + 1)) ready = .ok values after →
              after.store.unwrap room receiver = .ok data) →
            evaluate context (room + 5) (.call span callee arguments) later =
              evaluate context (room + 5) (.call span (.member place object name) arguments)
                later)) := by
  obtain ⟨id, operation, rfl, bound, found, methods⟩ := took.function registered
  have course := later.course_evaluate context (room + 2) callee
  rw [named] at course
  have kept : ready.store.objects[id]? = some (.function method.name (.native operation)) :=
    course.objectAt (fun _ _ => rfl) found
  have same : ready.store.methods = start.methods := course.methods.trans methods
  have direct := evaluate_call_method receives
    (show ready.store.method? receiver.kind name = some method by
      rw [Store.method?, same]
      exact registered) span place arguments
  have indirect := evaluate_call_native alone named kept span arguments
  cases bound with
  | itself standard => exact ⟨fun _ => indirect.trans direct.symm, nofun⟩
  | @data hosted space data unwrapped =>
      have agree (unchanged : ∀ values after,
          arguments.mapM (evaluate context (room + 1)) ready = .ok values after →
            after.store.unwrap room receiver = .ok data) :
          evaluate context (room + 5) (.call span callee arguments) later =
            evaluate context (room + 5) (.call span (.member place object name) arguments)
              later := by
        rw [indirect, direct]
        exact callingOn_congr fun values after run =>
          (onData_cons (unchanged values after run) values hosted.implementation.perform).symm
      refine ⟨fun always => ?_, ?_⟩
      · obtain inPlace | text := always
        · cases inPlace
        · refine agree fun values after _ => ?_
          cases receiver with
          | text value =>
              rw [Store.unwrap] at unwrapped ⊢
              exact unwrapped
          | _ => cases text
      · rintro _ ⟨⟩
        exact ⟨data, ⟨space, unwrapped⟩, indirect, agree⟩

/-- A machine in which a name is bound to an array, and arrays have a method on plain data. -/
def methodMachine : Machine where
  scopes := #[{ name := "global", parent := none, bindings := [("a", .array 0)] }]
  runners := #[{ source := "", file := none, moduleRoot := none, globals := 0 }]
  disk := (FileTree.directory []).disk "/"
  store := { arrays := #[#[.number 1]], methods := [.hosted Sample.first] }

/-- The machine in which the method has been read as a value. -/
def takenMachine : Machine :=
  endState (evaluate ⟨0, 0, 0⟩ 15 (.member default (.name default "a") "first") methodMachine)

/-- The machine after the method was bound to a name and the array was given another item. -/
def staleMachine : Machine :=
  { takenMachine with
    scopes := takenMachine.scopes.define 0 "p" (.host 0)
    store := { takenMachine.store with
      arrays := takenMachine.store.arrays.modify 0 fun _ => #[.number 2] } }

/-- A method on plain data that was read as a value still has the item that the array had then,
while a call on the array finds the item that the array has. -/
theorem evaluate_takenMethod_stale :
    Machine.Took (.array 0) "first" (.host 0) methodMachine.store staleMachine ∧
      (∃ data, (∃ space, methodMachine.store.unwrap space (.array 0) = .ok data) ∧
        evaluate ⟨0, 0, 0⟩ 15 (.call default (.name default "p") []) staleMachine =
          callingOn ⟨0, 0, 0⟩ 10 default "first" (Sample.first.performOn 10 data) []
            staleMachine) ∧
      endValue? (evaluate ⟨0, 0, 0⟩ 15 (.call default (.name default "p") []) staleMachine) =
        some (.number 1) ∧
      endValue? (evaluate ⟨0, 0, 0⟩ 15
          (.call default (.member default (.name default "a") "first") []) staleMachine) =
        some (.number 2) := by
  have reads := eq_ok_of_endValue?
    (show endValue? (evaluate ⟨0, 0, 0⟩ 15 (.member default (.name default "a") "first")
      methodMachine) = some (.host 0) by decide +kernel)
  have took : Machine.Took (.array 0) "first" (.host 0) methodMachine.store takenMachine :=
    .read (evaluate_name (by decide +kernel) 8 default) reads
  have course : takenMachine.Course (fun _ => True) 0 staleMachine :=
    .trans (.define 0 takenMachine "p" (.host 0))
      (.store 0 { takenMachine with scopes := takenMachine.scopes.define 0 "p" (.host 0) }
        (.items takenMachine.store 0 fun _ => #[.number 2]))
  have stale := took.later course
  have registered :
      methodMachine.store.method? (Value.array 0).kind "first" = some (.hosted Sample.first) := rfl
  have named : evaluate ⟨0, 0, 0⟩ 12 (.name default "p") staleMachine =
      .ok (.host 0) staleMachine := evaluate_name (by decide +kernel) 7 default
  have receives : evaluate ⟨0, 0, 0⟩ 12 (.name default "a") staleMachine =
      .ok (.array 0) staleMachine := evaluate_name (by decide +kernel) 7 default
  have alone (span : Span) (inner : Expr) (field : String) :
      Expr.name default "p" ≠ .member span inner field := by
    rintro ⟨⟩
  obtain ⟨data, remembered, calls, -⟩ :=
    (evaluate_takenMethod stale registered alone named receives default default []).2 _ rfl
  exact ⟨stale, ⟨data, remembered, calls⟩, by decide +kernel, by decide +kernel⟩

end Scriptlet
