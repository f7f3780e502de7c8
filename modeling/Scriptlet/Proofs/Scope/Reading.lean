import Scriptlet.Proofs.Activity.Failure
import Scriptlet.Proofs.Jobs.Stages
import Scriptlet.Proofs.Session.Standard
import Scriptlet.Proofs.Value.Copies

/-!
# Names and expressions that read the same

A member or an item can be read in two ways: its name is looked up, or an expression for it is
evaluated.  Both take the same steps, but they word their errors differently, and the
evaluation gives errors a place.  The wording of an error needs the text of the receiver, so
the evaluation may fail there, and a method that is read as a value may copy its receiver, for
which there must be room.
-/

namespace Scriptlet

/-! ## Faults -/

/-- The same fault, which may have got a place. -/
inductive Fault.Placed (fault : Fault) : Fault → Prop
  | kept : Placed fault fault
  | located {e : ScriptError} (script : fault = .script e) (span : Span) (line : Option String) :
      Placed fault (.script (e.locate span line))

/-- A script error for something that does not exist. -/
def Fault.IsUnbound (fault : Fault) : Prop :=
  ∃ e, fault = .script e ∧ e.cause.family = .binding ∧ e.task = none

namespace Fault

theorem isUnbound_undefinedName (name : String) (failure : LookupFailure) :
    (Fault.ofCause (.undefinedName name failure)).IsUnbound :=
  ⟨_, rfl, rfl, rfl⟩

variable {fault later again : Fault}

theorem Placed.trans (first : fault.Placed later) (second : later.Placed again) :
    fault.Placed again := by
  cases first with
  | kept => exact second
  | located script span line =>
      cases second with
      | kept => exact .located script span line
      | located script' span' line' =>
          cases script'
          rw [ScriptError.locate_locate]
          exact .located script span line

theorem IsUnbound.placed (unbound : fault.IsUnbound) (same : fault.Placed later) :
    later.IsUnbound := by
  obtain ⟨e, rfl, family, free⟩ := unbound
  cases same with
  | kept => exact ⟨e, rfl, family, free⟩
  | located script span line =>
      cases script
      exact ⟨_, rfl, by simpa using family, by simpa using free⟩

theorem IsUnbound.free (unbound : fault.IsUnbound) {e : ScriptError} (script : fault = .script e) :
    e.task = none := by
  obtain ⟨_, rfl, -, free⟩ := unbound
  cases script
  exact free

theorem IsFresh.free (fresh : fault.IsFresh) (same : fault.Placed later) {e : ScriptError}
    (script : later = .script e) : e.task = none := by
  cases same with
  | kept =>
      subst script
      exact fresh.2
  | located script' span line =>
      subst script'
      cases script
      simpa using fresh.2

end Fault

/-- The failure of no job gets a place, and the machine stays as it is. -/
theorem locateFault_of_free (runner : RunnerId) (span : Span) (machine : Machine) {fault : Fault}
    (free : ∀ e, fault = .script e → e.task = none) :
    ∃ placed, locateFault runner span fault machine = .ok placed machine ∧ fault.Placed placed := by
  cases fault with
  | script e =>
      obtain ⟨cause, place, line, task⟩ := e
      obtain rfl : task = none := free _ rfl
      cases place with
      | some place => exact ⟨_, rfl, .kept⟩
      | none => exact ⟨_, rfl, .located rfl span _⟩
  | _ => exact ⟨_, rfl, .kept⟩

theorem locating_of_error {α : Type} {runner : RunnerId} {span : Span} {steps : MachineM α}
    {machine after : Machine} {fault : Fault} (run : steps machine = .error fault after)
    (free : ∀ e, fault = .script e → e.task = none) :
    ∃ placed, locating runner span steps machine = .error placed after ∧ fault.Placed placed := by
  obtain ⟨placed, located, same⟩ := locateFault_of_free runner span after free
  refine ⟨placed, ?_, same⟩
  unfold locating Machine.mapFault
  rw [run]
  dsimp only
  rw [located]

/-! ## Questions -/

section Questions

variable {σ α β : Type} (question : σ → Except Fault α) (next : α → EStateM Fault σ β) {state : σ}

theorem asking_of_ok {value : α} (answer : question state = .ok value) :
    (get >>= fun state => ofExcept (question state) >>= next) state = next value state := by
  change (ofExcept (question state) >>= next) state = _
  rw [answer]
  rfl

theorem asking_of_error {fault : Fault} (answer : question state = .error fault) :
    (get >>= fun state => ofExcept (question state) >>= next) state = .error fault state := by
  change (ofExcept (question state) >>= next) state = _
  rw [answer]
  rfl

end Questions

/-! ## Readings -/

/-- What a lookup and an evaluation come to.  They find the same value and leave the same
machine, or what they read does not exist, or they fail alike.  The evaluation fails by itself
only if a receiver cannot be copied, or one without the member cannot be described, within the
room to spare. -/
inductive SameReading {α : Type} (spare : Nat) :
    (looked evaluated : EStateM.Result Fault Machine α) → Prop
  | found (value : α) (machine : Machine) :
      SameReading spare (.ok value machine) (.ok value machine)
  | unbound {fault fault' : Fault} (machine : Machine) (first : fault.IsUnbound)
      (second : fault'.IsUnbound) :
      SameReading spare (.error fault machine) (.error fault' machine)
  | failed {fault fault' : Fault} (machine : Machine) (fresh : fault.IsFresh)
      (same : fault.Placed fault') :
      SameReading spare (.error fault machine) (.error fault' machine)
  | uncopied {looked : EStateM.Result Fault Machine α} {machine : Machine} {room : Nat}
      {receiver : Value} (fits : spare ≤ room)
      (short : machine.store.unwrap room receiver = .error .exhausted) :
      SameReading spare looked (.error .exhausted machine)
  | undescribed {fault cause fault' : Fault} {machine : Machine} {room : Nat} {receiver : Value}
      (fits : spare ≤ room) (first : fault.IsUnbound)
      (described : machine.store.describe room receiver = .error cause)
      (same : cause.Placed fault') :
      SameReading spare (.error fault machine) (.error fault' machine)

theorem describe_isFresh {store : Store} {room : Nat} {receiver : Value} {cause : Fault}
    (described : store.describe room receiver = .error cause) : cause.IsFresh := by
  have obeys : store.Obeys .bare Agenda.lax.holds := obeys_bare.mpr trivial
  exact obeys.describe_fails room receiver cause described

namespace SameReading

variable {α β : Type} {spare : Nat} {looked : EStateM.Result Fault Machine α} {machine : Machine}
  {value : α}

/-- The same steps read the same. -/
theorem of_steady {operation : StoreM α}
    (steady : Steady .bare .lax Fault.IsFresh (fun _ => True) operation) (machine : Machine) :
    SameReading spare (Machine.onStore operation machine) (Machine.onStore operation machine) := by
  cases run : operation machine.store with
  | ok value store =>
      rw [onStore_of_ok run]
      exact .found value _
  | error fault store =>
      have fresh := ((steady machine.store).of_error (obeys_bare.mpr trivial) run).2
      rw [onStore_of_error run]
      exact .failed _ fresh .kept

/-- What is undefined in both ways may be called by different names. -/
theorem undefined (name name' : String) (failure failure' : LookupFailure) (machine : Machine) :
    SameReading spare (.error (.ofCause (.undefinedName name failure)) machine :
        EStateM.Result Fault Machine α)
      (.error (.ofCause (.undefinedName name' failure')) machine) :=
  .unbound machine (Fault.isUnbound_undefinedName name failure)
    (Fault.isUnbound_undefinedName name' failure')

/-- What an evaluation finds is looked up too. -/
theorem looked_ok {evaluated : EStateM.Result Fault Machine α}
    (same : SameReading spare looked evaluated) (run : evaluated = .ok value machine) :
    looked = .ok value machine := by
  cases same with
  | found => exact run
  | _ => cases run

/-- A node around an evaluation only gives its error a place. -/
theorem locating {runner : RunnerId} {span : Span} {steps : MachineM α}
    (same : SameReading spare looked (steps machine)) :
    SameReading spare looked (Scriptlet.locating runner span steps machine) := by
  generalize run : steps machine = evaluated at same
  cases same with
  | found value after =>
      have located : Scriptlet.locating runner span steps machine = .ok value after :=
        mapFault_ok_iff.mpr run
      rw [located]
      exact .found value after
  | unbound after first second =>
      obtain ⟨placed, located, same⟩ := locating_of_error run fun _ => second.free
      rw [located]
      exact .unbound after first (second.placed same)
  | failed after fresh same =>
      obtain ⟨placed, located, again⟩ := locating_of_error run fun _ => fresh.free same
      rw [located]
      exact .failed after fresh (same.trans again)
  | uncopied fits short =>
      obtain ⟨placed, located, same⟩ := locating_of_error run (by rintro e ⟨⟩)
      rw [located]
      cases same with
      | kept => exact .uncopied fits short
      | located script => cases script
  | undescribed fits first described same =>
      obtain ⟨placed, located, again⟩ :=
        locating_of_error run fun _ => (describe_isFresh described).free same
      rw [located]
      exact .undescribed fits first described (same.trans again)

/-- Steps in turn read the same if each of them does. -/
theorem bind {first second : MachineM α} {next next' : α → MachineM β}
    (same : SameReading spare (first machine) (second machine))
    (after : ∀ value middle, second machine = .ok value middle →
      SameReading spare (next value middle) (next' value middle)) :
    SameReading spare ((first >>= next) machine) ((second >>= next') machine) := by
  generalize looked_run : first machine = looked at same
  generalize run : second machine = evaluated at same
  cases same with
  | found value middle =>
      rw [bind_of_ok looked_run, bind_of_ok run]
      exact after value middle run
  | unbound middle first second =>
      rw [bind_of_error looked_run, bind_of_error run]
      exact .unbound middle first second
  | failed middle fresh same =>
      rw [bind_of_error looked_run, bind_of_error run]
      exact .failed middle fresh same
  | uncopied fits short =>
      rw [bind_of_error run]
      exact .uncopied fits short
  | undescribed fits first described same =>
      rw [bind_of_error looked_run, bind_of_error run]
      exact .undescribed fits first described same

end SameReading

end Scriptlet
