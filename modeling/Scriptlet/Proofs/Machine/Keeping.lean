import Scriptlet.Proofs.Store.Change
import Scriptlet.Machine

/-!
# Keeping a condition

Steps keep a condition on their state when it is true again after them, whether or not they fail.
The rules follow the steps from a given state, together with what is known of their results and of
the ways in which they fail.
-/

namespace Scriptlet

/-- An end of steps in a state in which a condition holds, with a result or a fault as described. -/
inductive EndsKept {σ α : Type} (holds : σ → Prop) (fault : Fault → Prop) (result : α → Prop) :
    EStateM.Result Fault σ α → Prop
  | ok {value : α} {after : σ} (held : holds after) (described : result value) :
      EndsKept holds fault result (.ok value after)
  | error {failure : Fault} {after : σ} (held : holds after) (described : fault failure) :
      EndsKept holds fault result (.error failure after)

/-- From a state in which the condition holds, the steps end in one in which it holds again, with a
result or a fault as described. -/
def Keeps {σ α : Type} (holds : σ → Prop) (fault : Fault → Prop) (result : α → Prop)
    (steps : EStateM Fault σ α) (state : σ) : Prop :=
  holds state → EndsKept holds fault result (steps state)

namespace Keeps

variable {σ α β : Type} {holds : σ → Prop} {fault : Fault → Prop} {result : α → Prop}
  {outcome : β → Prop} {state : σ}

/-! ## Ends -/

theorem of_ok {steps : EStateM Fault σ α} (keeps : Keeps holds fault result steps state)
    (held : holds state) {value : α} {after : σ} (run : steps state = .ok value after) :
    holds after ∧ result value := by
  have ended := keeps held
  rw [run] at ended
  cases ended with
  | ok held described => exact ⟨held, described⟩

theorem of_error {steps : EStateM Fault σ α} (keeps : Keeps holds fault result steps state)
    (held : holds state) {failure : Fault} {after : σ} (run : steps state = .error failure after) :
    holds after ∧ fault failure := by
  have ended := keeps held
  rw [run] at ended
  cases ended with
  | error held described => exact ⟨held, described⟩

/-- However the steps end, the condition holds. -/
theorem endState {steps : EStateM Fault σ α} (keeps : Keeps holds fault result steps state)
    (held : holds state) : holds (endState (steps state)) := by
  have ended := keeps held
  revert ended
  generalize steps state = last
  rintro (⟨held, _⟩ | ⟨held, _⟩) <;> exact held

/-! ## Rules -/

/-- The condition may be used. -/
theorem assuming {steps : EStateM Fault σ α}
    (keeps : holds state → Keeps holds fault result steps state) :
    Keeps holds fault result steps state :=
  fun held => keeps held held

theorem pure {value : α} (described : result value) :
    Keeps holds fault result (pure value) state :=
  fun held => .ok held described

theorem throw {failure : Fault} (described : fault failure) :
    Keeps holds fault result (throw failure : EStateM Fault σ α) state :=
  fun held => .error held described

theorem ofExcept {answer : Except Fault α} (good : ∀ value, answer = .ok value → result value)
    (bad : ∀ failure, answer = .error failure → fault failure) :
    Keeps holds fault result (ofExcept answer : EStateM Fault σ α) state := by
  intro held
  cases answer with
  | ok value => exact .ok held (good value rfl)
  | error failure => exact .error held (bad failure rfl)

theorem modify {change : σ → σ} (kept : holds state → holds (change state)) :
    Keeps holds fault (fun _ => True) (modify change : EStateM Fault σ PUnit) state :=
  fun held => .ok (kept held) trivial

theorem bind {first : EStateM Fault σ α} {next : α → EStateM Fault σ β}
    (before : Keeps holds fault result first state)
    (after : ∀ value middle, first state = .ok value middle → result value →
      Keeps holds fault outcome (next value) middle) :
    Keeps holds fault outcome (first >>= next) state := by
  intro held
  change EndsKept holds fault outcome (EStateM.bind first next state)
  unfold EStateM.bind
  cases run : first state with
  | ok value middle =>
      obtain ⟨kept, described⟩ := before.of_ok held run
      exact after value middle run described kept
  | error failure middle =>
      obtain ⟨kept, described⟩ := before.of_error held run
      exact .error kept described

/-- Steps after a look at the state. -/
theorem looking {next : σ → EStateM Fault σ β}
    (after : Keeps holds fault outcome (next state) state) :
    Keeps holds fault outcome (get >>= next) state :=
  after

/-- Steps after a check that may fail. -/
theorem checking {answer : Except Fault α} {next : α → EStateM Fault σ β}
    (bad : ∀ failure, answer = .error failure → fault failure)
    (after : ∀ value, answer = .ok value → Keeps holds fault outcome (next value) state) :
    Keeps holds fault outcome (MonadExcept.ofExcept answer >>= next) state := by
  cases answer with
  | ok value => exact after value rfl
  | error failure => exact fun held => .error held (bad failure rfl)

theorem choosing {condition : Prop} [Decidable condition] {first second : EStateM Fault σ α}
    (yes : condition → Keeps holds fault result first state)
    (no : ¬ condition → Keeps holds fault result second state) :
    Keeps holds fault result (if condition then first else second) state := by
  split
  · exact yes ‹_›
  · exact no ‹_›

/-- Fewer faults and results may be named. -/
theorem weaken {fault' : Fault → Prop} {result' : α → Prop} {steps : EStateM Fault σ α}
    (keeps : Keeps holds fault result steps state)
    (faults : ∀ failure, fault failure → fault' failure)
    (results : ∀ value, result value → result' value) : Keeps holds fault' result' steps state := by
  intro held
  have ended := keeps held
  revert ended
  generalize steps state = last
  rintro (⟨held, described⟩ | ⟨held, described⟩)
  · exact .ok held (results _ described)
  · exact .error held (faults _ described)

theorem foldlM {step : β → α → EStateM Fault σ β}
    (each : ∀ value item state, Keeps holds fault (fun _ => True) (step value item) state)
    (items : List α) (start : β) (state : σ) :
    Keeps holds fault (fun _ => True) (items.foldlM step start) state := by
  induction items generalizing start state with
  | nil => exact pure trivial
  | cons item rest ih => exact bind (each start item state) fun value middle _ _ => ih value middle

theorem mapM {step : α → EStateM Fault σ β} (items : List α)
    (each : ∀ item ∈ items, ∀ state, Keeps holds fault (fun _ => True) (step item) state)
    (state : σ) : Keeps holds fault (fun _ => True) (items.mapM step) state := by
  induction items generalizing state with
  | nil => exact pure trivial
  | cons item rest ih =>
      rw [List.mapM_cons]
      refine bind (each item List.mem_cons_self state) fun value middle _ _ => ?_
      refine bind (ih (fun later found => each later (List.mem_cons_of_mem _ found)) middle) ?_
      exact fun _ _ _ _ => pure trivial

end Keeps

/-! ## Steps of a machine -/

namespace Keeps

variable {α : Type} {holds : Store → Prop} {fault : Fault → Prop} {result : α → Prop}
  {machine : Machine}

theorem onStore {operation : StoreM α}
    (keeps : Keeps holds fault result operation machine.store) :
    Keeps (fun machine => holds machine.store) fault result (Machine.onStore operation)
      machine := by
  intro held
  unfold Machine.onStore
  dsimp only
  cases run : operation machine.store with
  | ok value after =>
      obtain ⟨kept, described⟩ := keeps.of_ok held run
      exact .ok kept described
  | error failure after =>
      obtain ⟨kept, described⟩ := keeps.of_error held run
      exact .error kept described

theorem asking {question : Store → Except Fault α}
    (good : ∀ value, question machine.store = .ok value → result value)
    (bad : holds machine.store → ∀ failure, question machine.store = .error failure →
      fault failure) :
    Keeps (fun machine => holds machine.store) fault result (Machine.askStore question)
      machine := by
  intro held
  unfold Machine.askStore
  cases answer : question machine.store with
  | ok value => exact .ok held (good value answer)
  | error failure => exact .error held (bad held failure answer)

theorem mapFault {holds : Machine → Prop} {inner : Fault → Prop}
    {change : Fault → MachineM Fault} {steps : MachineM α}
    (before : Keeps holds inner result steps machine)
    (after : ∀ failure middle, inner failure →
      Keeps holds fault fault (change failure) middle) :
    Keeps holds fault result (Machine.mapFault change steps) machine := by
  intro held
  unfold Machine.mapFault
  cases run : steps machine with
  | ok value middle =>
      obtain ⟨kept, described⟩ := before.of_ok held run
      exact .ok kept described
  | error failure middle =>
      obtain ⟨kept, described⟩ := before.of_error held run
      have last := after failure middle described kept
      dsimp only
      revert last
      generalize change failure middle = changed
      rintro (⟨held, described⟩ | ⟨held, described⟩) <;> exact .error held described

theorem andFinally {holds : Machine → Prop} {steps : MachineM α} {last : MachineM Unit}
    (before : Keeps holds fault result steps machine)
    (after : ∀ middle, Keeps holds fault (fun _ => True) last middle) :
    Keeps holds fault result (Machine.andFinally steps last) machine := by
  intro held
  unfold Machine.andFinally
  have start := before held
  revert start
  generalize steps machine = started
  rintro (@⟨value, middle, kept, described⟩ | @⟨failure, middle, kept, described⟩)
  · have ending := after middle kept
    dsimp only
    revert ending
    generalize last middle = ended
    rintro (⟨held, _⟩ | ⟨held, other⟩)
    · exact .ok held described
    · exact .error held other
  · have ending := after middle kept
    dsimp only
    revert ending
    generalize last middle = ended
    rintro (⟨held, _⟩ | ⟨held, other⟩)
    · exact .error held described
    · exact .error held other

end Keeps

end Scriptlet
