import Scriptlet.Proofs.Mirror.Steps

/-!
# Mirrored evaluation

Code that asks for no hidden name does the same on mirrored machines, whatever it evaluates,
executes or calls.  Which runner executes a body does not matter, but for the depth of calls and the
lines that errors quote.
-/

namespace Scriptlet

/-- Everything that takes the given room is mirrored, where calls cannot nest deeper than to the
bound. -/
structure RoomMirrored (M : Translation) (room bound : Nat) : Prop where
  evaluate : ∀ (context : Context) {expression : Expr}, M.Free expression.names →
    Mirrored M bound (Images M.value) (evaluate context room expression)
      (evaluate (M.context context) room expression)
  construct : ∀ (context : Context) {className : String} {arguments : List Expr},
    M.Free (namesAsked className) → M.Free (expressionNames arguments) →
    Mirrored M bound (Images M.value) (construct context room className arguments)
      (construct (M.context context) room className arguments)
  execute : ∀ (context : Context) {statement : Stmt}, M.Free statement.names →
    Mirrored M bound (Images M.completion) (execute context room statement)
      (execute (M.context context) room statement)
  callValue : ∀ (runner : RunnerId) (callee : Value) (arguments : List Value),
    Mirrored M bound (Images M.value) (callValue runner room callee arguments)
      (callValue (M.runner runner) room (M.value callee) (arguments.map M.value))
  callClosure : ∀ (runner : RunnerId) (id : ClosureId) (arguments : List Value),
    Mirrored M bound (Images M.value) (callClosure runner room id arguments)
      (callClosure (M.runner runner) room (M.closures + id) (arguments.map M.value))
  perform : ∀ {action : Action}, (∀ body ∈ action.moduleBodies, M.Free (bodyNames body)) →
    ∀ arguments : List Value, Mirrored M bound (Images M.value) (perform room action arguments)
      (perform room (M.action action) (arguments.map M.value))
  runModule : ∀ {body : List Stmt}, M.Free (bodyNames body) →
    ∀ (unit : UnitId) (runner : RunnerId) (arguments : List Value),
      Mirrored M bound (Images M.value) (runModule room body unit runner arguments)
        (runModule room body (M.unit unit) (M.runner runner) (arguments.map M.value))
  callBack : ∀ (id : ClosureId) (arguments : List Value),
    Mirrored M bound (Images M.value) (callBack room id arguments)
      (callBack room (M.closures + id) (arguments.map M.value))
  callJob : ∀ {job other : Job}, M.Jobs job other →
    Mirrored M bound (Images M.value) (callJob room job) (callJob room other)

section Rooms

variable {M : Translation} {room bound : Nat}

theorem evaluate_mirrored (lower : ∀ less < room, RoomMirrored M less bound) (context : Context)
    {expression : Expr} (free : M.Free expression.names) :
    Mirrored M bound (Images M.value) (evaluate context room expression)
      (evaluate (M.context context) room expression) := by
  match room, lower with
  | 0, _ | 1, _ | 2, _ | 3, _ | 4, _ => exact .throw _
  | room + 5, lower =>
      refine locating_mirrored ?_
      have two := lower (room + 2) (by omega)
      cases expression with
      | number | text | bool => exact .pure rfl
      | name span id => exact resolve_mirrored _ _ _ free
      | binary span left operator right =>
          obtain ⟨freeLeft, freeRight⟩ := free.of_append
          refine .bind (two.evaluate context freeLeft) fun first => ?_
          cases operator.operation? with
          | some operation =>
              refine .bind (two.evaluate context freeRight) fun second => .onStore ?_
              exact operate_reflects _ _ operation first second
          | none =>
              refine .bind (.isTruthy first) fun truth => ?_
              dsimp only [id]
              split
              · exact .pure rfl
              · refine .bind (two.evaluate context freeRight) fun second => ?_
                exact .bind (.isTruthy second) fun _ => .pure rfl
      | unary span operator operand =>
          refine .bind (two.evaluate context free) fun value => ?_
          cases operator with
          | negate => exact .ofExcept (negate_mirrored value)
          | not => exact .bind (.isTruthy value) fun _ => .pure rfl
      | assign span target value =>
          obtain ⟨freeTarget, freeValue⟩ := free.of_append
          cases target with
          | name place id =>
              refine .bind (two.evaluate context freeValue) fun value => ?_
              refine .bind (assign_mirrored _ (freeTarget id List.mem_cons_self) value) ?_
              exact fun _ => .pure rfl
          | member place object field =>
              refine .bind (two.evaluate context freeTarget) fun receiver => ?_
              refine .bind (two.evaluate context freeValue) fun value => ?_
              refine .bind (.onStore (writeMember_reflects _ receiver field value)) ?_
              exact fun _ => .pure rfl
      | call span callee arguments =>
          obtain ⟨freeCallee, freeArguments⟩ := free.of_append
          have values : Mirrored M bound (Images (List.map M.value))
              (arguments.mapM (evaluate context (room + 1)))
              (arguments.mapM (evaluate (M.context context) (room + 1))) :=
            .mapM arguments fun _ found =>
              (lower (room + 1) (by omega)).evaluate context (freeArguments.argument found)
          cases callee with
          | member place object field =>
              refine .bind (two.evaluate context freeCallee) fun receiver => ?_
              refine .bind (.onStore (readMember_reflects _ receiver field)) fun found => ?_
              refine .bind values fun items => ?_
              cases found with
              | value callee => exact two.callValue _ callee items
              | method method =>
                  exact callingHost_mirrored _
                    (.onStore (methodEntry_reflects _ method receiver items))
          | _ =>
              refine .bind (two.evaluate context freeCallee) fun callee => ?_
              exact .bind values fun items => two.callValue _ callee items
      | member span object field =>
          refine .bind ((lower (room + 3) (by omega)).evaluate context free) fun receiver => ?_
          refine .onStore (.bind (readMember_reflects _ receiver field) fun found => ?_)
          exact memberValue_reflects _ receiver found
      | index span object index =>
          obtain ⟨freeObject, freeIndex⟩ := free.of_append
          refine .bind (two.evaluate context freeObject) fun receiver => ?_
          refine .bind (two.evaluate context freeIndex) fun place => ?_
          exact .onStore (readIndex_reflects _ receiver place)
      | array span elements =>
          refine .bind (.mapM elements fun _ found => two.evaluate context (free.argument found)) ?_
          intro items
          rw [← List.map_toArray]
          exact .onStore (addArray_reflects items.toArray)
      | function span params body => exact .onStore (addClosure_reflects free)
      | load span path =>
          refine .bind (two.evaluate context free) fun value => ?_
          refine .bind (checkModulePath_mirrored value) fun path => ?_
          refine .bindKnowing (loadModule_mirrored _ _ path)
            (fun loaded => .of_follows fun machine =>
              (newModule_follows path loaded.2 context.runner trivial machine :
                Follows _ 0 _ _)) ?_
          rintro loaded _ ⟨rfl, freeBody⟩
          exact newModule_mirrored path freeBody _ _
      | construct span className arguments =>
          obtain ⟨freeName, freeArguments⟩ := free.of_append
          exact (lower (room + 3) (by omega)).construct context freeName freeArguments

theorem construct_mirrored (lower : ∀ less < room, RoomMirrored M less bound) (context : Context)
    {className : String} {arguments : List Expr} (freeName : M.Free (namesAsked className))
    (freeArguments : M.Free (expressionNames arguments)) :
    Mirrored M bound (Images M.value) (construct context room className arguments)
      (construct (M.context context) room className arguments) := by
  match room, lower with
  | 0, _ | 1, _ => exact .throw _
  | room + 2, lower =>
      refine .bind (resolve_mirrored _ _ _ freeName) fun callee => ?_
      refine .bind (checkConstructible_mirrored _ _ callee) fun _ => ?_
      refine .bind (.mapM arguments fun _ found => (lower room (by omega)).evaluate context
        (freeArguments.argument found)) fun values => ?_
      exact (lower (room + 1) (by omega)).callValue _ callee values

theorem body_grows (context : Context) (room : Nat) (body : List Stmt) :
    Grows (sequence (execute context room) body .absent) :=
  .of_follows (body_follows (roomFollows CodeKind.any room) context trivial)

theorem body_mirrored (lower : RoomMirrored M room bound) (context : Context) {body : List Stmt}
    (free : M.Free (bodyNames body)) :
    Mirrored M bound (Images M.completion) (sequence (execute context room) body .absent)
      (sequence (execute (M.context context) room) body .absent) :=
  sequence_mirrored body (fun _ found => lower.execute context (free.statement found)) .absent

theorem execute_mirrored (lower : ∀ less < room, RoomMirrored M less bound) (context : Context)
    {statement : Stmt} (free : M.Free statement.names) :
    Mirrored M bound (Images M.completion) (execute context room statement)
      (execute (M.context context) room statement) := by
  match room, lower with
  | 0, _ | 1, _ | 2, _ | 3, _ | 4, _ => exact .throw _
  | room + 5, lower =>
      refine locating_mirrored ?_
      have two := lower (room + 2) (by omega)
      have three := lower (room + 3) (by omega)
      cases statement with
      | declare span id initial =>
          cases initial with
          | none => exact .bind (define_mirrored _ id _) fun _ => .pure rfl
          | some initial =>
              refine .bind (two.evaluate context free) fun value => ?_
              exact .bind (define_mirrored _ id value) fun _ => .pure rfl
      | expression span value => exact .bind (three.evaluate context free) fun _ => .pure rfl
      | block span statements =>
          refine .bind (openScope_mirrored "block" context.scope rfl) fun scope => ?_
          exact body_mirrored two { context with scope := scope } free
      | conditional span condition consequent alternate =>
          cases alternate with
          | none =>
              obtain ⟨freeCondition, freeConsequent⟩ := free.of_append
              refine .bind (two.evaluate context freeCondition) fun value => ?_
              refine .bind (.isTruthy value) fun truth => ?_
              dsimp only [id]
              split
              · exact two.execute context freeConsequent
              · exact .pure rfl
          | some alternate =>
              obtain ⟨freeCondition, freeBranches⟩ := free.of_append
              obtain ⟨freeConsequent, freeAlternate⟩ := freeBranches.of_append
              refine .bind (two.evaluate context freeCondition) fun value => ?_
              refine .bind (.isTruthy value) fun truth => ?_
              dsimp only [id]
              split
              · exact two.execute context freeConsequent
              · exact two.execute context freeAlternate
      | loop span condition body =>
          obtain ⟨freeCondition, freeBody⟩ := free.of_append
          refine repeatWhile_mirrored ?_ (two.execute context freeBody) _
          exact .bind (two.evaluate context freeCondition) fun value => .isTruthy value
      | function span name params body =>
          refine .bind (.onStore (addClosure_reflects free)) fun closure => ?_
          cases name with
          | none => exact .pure rfl
          | some id => exact .bind (define_mirrored _ id closure) fun _ => .pure rfl
      | result span value =>
          cases value with
          | none => exact .pure rfl
          | some value => exact .bind (three.evaluate context free) fun _ => .pure rfl
      | leave | proceed => exact .pure rfl
      | construct span className arguments =>
          obtain ⟨freeName, freeArguments⟩ := free.of_append
          refine .bind (two.construct context freeName freeArguments) fun instanceValue => ?_
          refine .bind (bindInstance_mirrored context span className instanceValue) fun _ => ?_
          exact .pure rfl
      | load span path =>
          have one := lower (room + 1) (by omega)
          refine .bind (one.evaluate context free) fun value => ?_
          refine .bind (checkModulePath_mirrored value) fun path => ?_
          refine .bindKnowing (loadModule_mirrored _ _ path) (fun loaded => ?_) ?_
          · exact (body_grows _ _ _).bind fun _ => .pure
          · rintro loaded _ ⟨rfl, freeBody⟩
            refine .bind (body_mirrored one { context with unit := loaded.2 } freeBody) ?_
            exact fun completion => .pure (by rw [M.completion_value]; rfl)

/-- The modules that the actions of host objects run ask for no hidden name. -/
theorem Translation.Stores.action_free {store other : Store} (stores : M.Stores store other)
    {id : ObjectId} {name : String} {action : Action}
    (found : store.objects[id]?.bind HostObject.callable? = some (name, action)) :
    ∀ body ∈ action.moduleBodies, M.Free (bodyNames body) := by
  obtain ⟨object, present, called⟩ := Option.bind_eq_some_iff.mp found
  obtain ⟨there, -, -, free⟩ := stores.objects.some_of_left present
  intro body runs
  refine free body ?_
  cases object with
  | function | factory =>
      cases called
      exact runs
  | _ => cases called

/-- What calling a host object does in the other run. -/
theorem Translation.Stores.callableAt {store other : Store} (stores : M.Stores store other)
    (id : ObjectId) :
    other.objects[M.objects id]?.bind HostObject.callable? =
      (store.objects[id]?.bind HostObject.callable?).map fun callable =>
        (callable.1, M.action callable.2) := by
  rw [stores.objectAt]
  cases store.objects[id]? with
  | none => rfl
  | some object => exact M.callable?_object object

theorem callValue_mirrored (lower : ∀ less < room, RoomMirrored M less bound) (runner : RunnerId)
    (callee : Value) (arguments : List Value) :
    Mirrored M bound (Images M.value) (callValue runner room callee arguments)
      (callValue (M.runner runner) room (M.value callee) (arguments.map M.value)) := by
  match room, lower with
  | 0, _ | 1, _ => exact .throw _
  | room + 2, lower =>
      have one := lower (room + 1) (by omega)
      cases callee with
      | closure id => exact one.callClosure runner id arguments
      | host id =>
          have grows : Grows (callValue runner (room + 2) (.host id) arguments) :=
            .of_follows ((roomFollows CodeKind.any (room + 2)).callValue 0 runner _ arguments)
          refine .looking grows fun machine other machines _ => ?_
          rw [machines.store.callableAt]
          cases found : machine.store.objects[id]?.bind HostObject.callable? with
          | none => exact refuseCall_mirrored room (.host id)
          | some callable =>
              exact callingHost_mirrored _
                (one.perform (machines.store.action_free found) arguments)
      | number | text | bool | absent | array => exact refuseCall_mirrored room _

/-- Both runs have as many calls left to the limit, or both have enough of them. -/
theorem Translation.Depths.deep_iff {left right : Machine} (depths : M.Depths (room + 1) left right)
    (machines : M.Machines left right) {id : RunnerId} {runner other : Runner}
    (here : left.runners[id]? = some runner) (there : right.runners[M.runner id]? = some other) :
    right.depthLimit ≤ other.depth ↔ left.depthLimit ≤ runner.depth := by
  cases depths with
  | ample ample ampleThere =>
      have below := ample runner (Array.mem_of_getElem? here)
      have belowThere := ampleThere other (Array.mem_of_getElem? there)
      omega
  | equal _ same => rw [machines.depthLimit, same id runner other here there]

theorem callClosure_mirrored {less : Nat} (lower : ∀ room' < room, RoomMirrored M room' less)
    (runner : RunnerId) (id : ClosureId) (arguments : List Value) :
    Mirrored M (less + 1) (Images M.value) (callClosure runner room id arguments)
      (callClosure (M.runner runner) room (M.closures + id) (arguments.map M.value)) := by
  match room, lower with
  | 0, _ => exact .throw _
  | room + 1, lower =>
      have grows : Grows (callClosure runner (room + 1) id arguments) :=
        .of_follows ((roomFollows CodeKind.any (room + 1)).callClosure 0 runner id arguments)
      refine .looking grows fun machine other machines depths => ?_
      have runners := machines.runners runner
      cases here : machine.runners[runner]? with
      | none =>
          rw [here] at runners
          generalize other.runners[M.runner runner]? = there at runners ⊢
          cases runners
          exact refuseCall_mirrored room (.closure id)
      | some current =>
          rw [here] at runners
          cases there : other.runners[M.runner runner]? with
          | none =>
              rw [there] at runners
              cases runners
          | some currentThere =>
              have deep := depths.deep_iff machines here there
              rw [machines.store.closureAt]
              cases found : machine.store.closures[id]? with
              | none => exact refuseCall_mirrored room (.closure id)
              | some closure =>
                  obtain ⟨_, -, -, free⟩ := machines.store.closures.some_of_left found
                  dsimp only [Option.map_some]
                  by_cases limit : machine.depthLimit ≤ current.depth
                  · rw [if_pos limit, if_pos (deep.mpr limit), machines.depthLimit]
                    exact .throw _
                  · rw [if_neg limit, if_neg (deep.not.mpr limit)]
                    refine .bind (openScope_mirrored _ _ (.arguments closure.params arguments rfl))
                      fun scope => ?_
                    rw [← bind_assoc, ← bind_assoc]
                    refine .bind (insideCall_mirrored (body_mirrored (lower room (by omega))
                      ⟨runner, closure.unit, scope⟩ free)) fun completion => ?_
                    exact .pure (M.returned_completion completion)

theorem runModule_mirrored (lower : ∀ less < room, RoomMirrored M less bound) {body : List Stmt}
    (free : M.Free (bodyNames body)) (unit : UnitId) (runner : RunnerId) (arguments : List Value) :
    Mirrored M bound (Images M.value) (runModule room body unit runner arguments)
      (runModule room body (M.unit unit) (M.runner runner) (arguments.map M.value)) := by
  match room, lower with
  | 0, _ | 1, _ | 2, _ => exact .throw _
  | room + 3, lower =>
      have ran (root : ScopeId) : Mirrored M bound (Images M.value)
          (do
            let scope ← Machine.openScope "module" root
            let completion ← guarded (sequence (execute ⟨runner, unit, scope⟩ room) body .absent)
            return completion.value)
          (do
            let scope ← Machine.openScope "module" root
            let completion ←
              guarded (sequence (execute ⟨M.runner runner, M.unit unit, scope⟩ room) body .absent)
            return completion.value) := by
        refine .bind (openScope_mirrored "module" root rfl) fun scope => ?_
        refine .bind (guarded_mirrored (body_mirrored (lower room (by omega))
          ⟨runner, unit, scope⟩ free)) fun completion => ?_
        exact .pure (M.completion_value completion)
      unfold runModule
      rw [List.length_map]
      refine .bind (.checking _) fun _ => ?_
      refine .looking (.looking fun machine => (ran _).grows) fun machine other machines _ => ?_
      have globals : (other.runner? (M.runner runner)).map Runner.globals =
          (machine.runner? runner).map Runner.globals := by
        have runners := machines.runners runner
        unfold Machine.runner?
        generalize machine.runners[runner]? = here at runners ⊢
        generalize other.runners[M.runner runner]? = there at runners ⊢
        cases runners with
        | none => rfl
        | some alike => exact congrArg some alike.globals
      dsimp only
      rw [globals, machines.scopes.root]
      exact ran _

theorem callBack_mirrored (lower : ∀ less < room, RoomMirrored M less bound) (id : ClosureId)
    (arguments : List Value) :
    Mirrored M bound (Images M.value) (callBack room id arguments)
      (callBack room (M.closures + id) (arguments.map M.value)) := by
  match room, lower with
  | 0, _ => exact .throw _
  | room + 1, lower =>
      have grows : Grows (callBack (room + 1) id arguments) :=
        .of_follows ((roomFollows CodeKind.any (room + 1)).callBack 0 id arguments)
      refine .looking grows fun machine other machines _ => ?_
      rw [machines.store.closureAt]
      cases machine.store.closures[id]? with
      | none => exact refuseCall_mirrored room (.closure id)
      | some closure => exact (lower room (by omega)).callClosure closure.runner id arguments

theorem callJob_mirrored (lower : ∀ less < room, RoomMirrored M less bound) {job other : Job}
    (jobs : M.Jobs job other) :
    Mirrored M bound (Images M.value) (callJob room job) (callJob room other) := by
  match room, lower with
  | 0, _ => exact .throw _
  | room + 1, lower =>
      have one := lower room (by omega)
      obtain ⟨function, arguments, state⟩ := job
      obtain ⟨_, _, stateThere⟩ := other
      obtain ⟨rfl, rfl, -⟩ := jobs
      cases function with
      | closure id => exact one.callBack id arguments
      | host id =>
          have grows : Grows (callJob (room + 1) ⟨.host id, arguments, state⟩) :=
            .of_follows ((roomFollows CodeKind.any (room + 1)).callJob 0 _)
          refine .looking grows fun machine other machines _ => ?_
          rw [machines.store.callableAt]
          cases found : machine.store.objects[id]?.bind HostObject.callable? with
          | none => exact .throw _
          | some callable => exact one.perform (machines.store.action_free found) arguments
      | number | text | bool | absent | array => exact .throw _

theorem perform_mirrored (lower : ∀ less < room, RoomMirrored M less bound) {action : Action}
    (free : ∀ body ∈ action.moduleBodies, M.Free (bodyNames body)) (arguments : List Value) :
    Mirrored M bound (Images M.value) (perform room action arguments)
      (perform room (M.action action) (arguments.map M.value)) := by
  match room, lower with
  | 0, _ => exact .throw _
  | room + 1, lower =>
      have one := lower room (by omega)
      have started (number : Nat) : Mirrored M bound (Images id)
          (startJob (callJob room) number) (startJob (callJob room) number) :=
        startJob_mirrored
          (fun number => .of_follows (startJob_follows
            (fun job => (roomFollows CodeKind.any room).callJob 0 job) number))
          (fun _ _ jobs => one.callJob jobs) number
      cases action with
      | native operation => exact .onStore (native_reflects room operation arguments)
      | control operation =>
          cases operation with
          | join => exact joinJob_mirrored started arguments
          | sleep => exact sleepFor_mirrored started arguments
          | yield => exact yieldTurn_mirrored started arguments
          | apply => exact applyData_mirrored room one.callBack arguments
          | runModule body unit runner =>
              exact one.runModule (free body (List.mem_singleton.mpr rfl)) unit runner arguments

end Rooms

/-- Everything that is evaluated, executed or called is mirrored. -/
theorem roomMirrored (M : Translation) (room : Nat) {bound : Nat} (enough : room ≤ bound) :
    RoomMirrored M room bound := by
  induction room using Nat.strongRecOn generalizing bound with
  | ind room ih =>
      have lower (less : Nat) (below : less < room) : RoomMirrored M less bound :=
        ih less below (by omega)
      exact {
        evaluate := fun context _ => evaluate_mirrored lower context
        construct := fun context _ _ => construct_mirrored lower context
        execute := fun context _ => execute_mirrored lower context
        callValue := callValue_mirrored lower
        callClosure := fun runner id arguments => by
          match bound, enough with
          | 0, enough =>
              obtain rfl : room = 0 := by omega
              exact .throw _
          | less + 1, _ =>
              exact callClosure_mirrored (fun room' below => ih room' below (by omega)) runner id
                arguments
        perform := perform_mirrored lower
        runModule := runModule_mirrored lower
        callBack := callBack_mirrored lower
        callJob := callJob_mirrored lower }

end Scriptlet
