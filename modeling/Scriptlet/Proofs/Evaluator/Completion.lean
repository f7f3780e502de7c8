import Scriptlet.Proofs.Machine.Course
import Scriptlet.Proofs.Tree.WellFormed
import Scriptlet.Evaluator

/-!
# How statements end

An execution of a statement holds the executions of its parts: of the statements of a block, of the
branch that is taken, and of the rounds of a loop.  A completion that is not normal passes through
all of them, up to the loop or the body that it is meant for, and it comes from a statement that was
written for it.
-/

namespace Scriptlet

/-- Whether the next statement follows. -/
def Completion.isNormal : Completion → Bool
  | .normal _ => true
  | _ => false

/-- Whether a completion is meant for a loop. -/
def Completion.isLoopControl : Completion → Bool
  | .leave | .proceed => true
  | _ => false

theorem Completion.isNormal_of_isLoopControl {completion : Completion}
    (control : completion.isLoopControl = true) : completion.isNormal = false := by
  cases completion with
  | normal => cases control
  | result | leave | proceed => rfl

/-- Whether the next round of a loop follows. -/
def Completion.goesOn : Completion → Bool
  | .normal _ | .proceed => true
  | _ => false

theorem locating_ok_iff {α : Type} {runner : RunnerId} {span : Span} {steps : MachineM α}
    {before after : Machine} {value : α} :
    locating runner span steps before = .ok value after ↔ steps before = .ok value after :=
  mapFault_ok_iff

theorem locating_congr {α : Type} {runner : RunnerId} {span : Span} {steps others : MachineM α}
    {before after : Machine} (same : steps before = others after) :
    locating runner span steps before = locating runner span others after := by
  unfold locating Machine.mapFault
  rw [same]

/-! ## Statements in a row -/

/-- The machine at which a statement of a sequence starts, after those before it ended normally. -/
inductive Reaches (step : Stmt → MachineM Completion) : List Stmt → Machine → Stmt → Machine → Prop
  | here (statement : Stmt) (rest : List Stmt) (machine : Machine) :
      Reaches step (statement :: rest) machine statement machine
  | later {first statement : Stmt} {rest : List Stmt} {machine middle start : Machine}
      {value : Value} (run : step first machine = .ok (.normal value) middle)
      (reaches : Reaches step rest middle statement start) :
      Reaches step (first :: rest) machine statement start

section Sequences

variable {step : Stmt → MachineM Completion} {statements : List Stmt} {statement : Stmt}
  {completion : Completion} {machine start after : Machine}

theorem Reaches.mem (reaches : Reaches step statements machine statement start) :
    statement ∈ statements := by
  induction reaches with
  | here => exact List.mem_cons_self ..
  | later _ _ ih => exact List.mem_cons_of_mem _ ih

/-- A statement that does not end normally ends the sequence. -/
theorem sequence_of_reaches (reaches : Reaches step statements machine statement start)
    (run : step statement start = .ok completion after) (abrupt : completion.isNormal = false)
    (last : Value) : sequence step statements last machine = .ok completion after := by
  induction reaches generalizing last with
  | here statement rest machine =>
      rw [sequence, bind_of_ok run]
      cases completion with
      | normal => cases abrupt
      | result | leave | proceed => rfl
  | later earlier _ ih =>
      rw [sequence, bind_of_ok earlier]
      exact ih run _

/-- A sequence that does not end normally has been ended by one of its statements. -/
theorem reaches_of_sequence {last : Value}
    (run : sequence step statements last machine = .ok completion after)
    (abrupt : completion.isNormal = false) :
    ∃ statement start, Reaches step statements machine statement start ∧
      step statement start = .ok completion after := by
  induction statements generalizing last machine with
  | nil =>
      cases run
      cases abrupt
  | cons first rest ih =>
      obtain ⟨ended, middle, firstRun, restRun⟩ := bind_ok run
      cases ended with
      | normal value =>
          obtain ⟨statement, start, reaches, statementRun⟩ := ih restRun
          exact ⟨statement, start, .later firstRun reaches, statementRun⟩
      | result | leave | proceed =>
          cases restRun
          exact ⟨first, machine, .here first rest machine, firstRun⟩

end Sequences

/-! ## Rounds of a loop -/

/-- The machine at which the body of a loop starts a round, and how many rounds may follow it. -/
inductive Rounds (condition : MachineM Bool) (body : MachineM Completion) :
    (bound : Nat) → Machine → (left : Nat) → Machine → Prop
  | first {bound : Nat} {machine start : Machine} (test : condition machine = .ok true start) :
      Rounds condition body (bound + 1) machine bound start
  | next {bound left : Nat} {machine between middle start : Machine} {completion : Completion}
      (test : condition machine = .ok true between) (run : body between = .ok completion middle)
      (goesOn : completion.goesOn = true)
      (rounds : Rounds condition body bound middle left start) :
      Rounds condition body (bound + 1) machine left start

section Loops

variable {condition : MachineM Bool} {body : MachineM Completion} {bound left : Nat}
  {machine start after : Machine}

/-- A loop goes on as its round that has begun does. -/
theorem repeatWhile_of_rounds (rounds : Rounds condition body bound machine left start) :
    repeatWhile condition body bound machine =
      (do
        match ← body with
        | .leave => return .normal .absent
        | .result value => return .result value
        | .normal _ | .proceed => repeatWhile condition body left : MachineM Completion) start := by
  induction rounds with
  | first test =>
      rw [repeatWhile, bind_of_ok test]
      rfl
  | @next _ _ _ _ _ _ completion test run goesOn _ ih =>
      rw [repeatWhile, bind_of_ok test, ← ih]
      change (body >>= _) _ = _
      rw [bind_of_ok run]
      cases completion with
      | normal | proceed => rfl
      | result | leave => cases goesOn

/-- A loop ends normally, or with the result of one of its rounds. -/
theorem rounds_of_repeatWhile {completion : Completion}
    (run : repeatWhile condition body bound machine = .ok completion after) :
    completion = .normal .absent ∨ ∃ left start value,
      Rounds condition body bound machine left start ∧ completion = .result value ∧
        body start = .ok (.result value) after := by
  induction bound generalizing machine with
  | zero => cases run
  | succ bound ih =>
      obtain ⟨holds, start, test, run⟩ := bind_ok run
      cases holds with
      | false =>
          cases run
          exact .inl rfl
      | true =>
          obtain ⟨ended, middle, bodyRun, run⟩ := bind_ok run
          cases ended with
          | leave =>
              cases run
              exact .inl rfl
          | result value =>
              cases run
              exact .inr ⟨bound, start, value, .first test, rfl, bodyRun⟩
          | normal | proceed =>
              refine (ih run).imp_right ?_
              rintro ⟨left, later, value, rounds, rfl, lastRun⟩
              exact ⟨left, later, value, .next test bodyRun rfl rounds, rfl, lastRun⟩

end Loops

/-! ## Executions inside executions -/

/-- The execution of a statement at a machine, in some place and with some room. -/
structure Execution where
  context : Context
  room : Nat
  statement : Stmt
  machine : Machine

namespace Execution

/-- How an execution ends. -/
def outcome (execution : Execution) : EStateM.Result Fault Machine Completion :=
  execute execution.context execution.room execution.statement execution.machine

/-- The test of a loop or a conditional. -/
def test (context : Context) (room : Nat) (condition : Expr) : MachineM Bool := do
  Machine.isTruthy (← evaluate context room condition)

/-- An execution of a block or a conditional that holds the execution of one of its statements. -/
inductive Holds : Execution → Execution → Prop
  | block {context : Context} {room : Nat} {span : Span} {statements : List Stmt}
      {statement : Stmt} {machine start : Machine}
      (reaches : Reaches (execute { context with scope := machine.scopes.size } (room + 2))
        statements { machine with scopes := machine.scopes.child "block" context.scope }
        statement start) :
      Holds ⟨context, room + 5, .block span statements, machine⟩
        ⟨{ context with scope := machine.scopes.size }, room + 2, statement, start⟩
  | consequent {context : Context} {room : Nat} {span : Span} {condition : Expr}
      {consequent : Stmt} {alternate : Option Stmt} {machine start : Machine}
      (holds : test context (room + 2) condition machine = .ok true start) :
      Holds ⟨context, room + 5, .conditional span condition consequent alternate, machine⟩
        ⟨context, room + 2, consequent, start⟩
  | alternate {context : Context} {room : Nat} {span : Span} {condition : Expr}
      {consequent alternate : Stmt} {machine start : Machine}
      (fails : test context (room + 2) condition machine = .ok false start) :
      Holds ⟨context, room + 5, .conditional span condition consequent (some alternate), machine⟩
        ⟨context, room + 2, alternate, start⟩

/-- An execution of a loop that holds a round of its body; `left` rounds may follow it. -/
inductive Turns (left : Nat) : Execution → Execution → Prop
  | loop {context : Context} {room : Nat} {span : Span} {condition : Expr} {body : Stmt}
      {machine start : Machine}
      (rounds : Rounds (test context (room + 2) condition) (execute context (room + 2) body)
        loopBound machine left start) :
      Turns left ⟨context, room + 5, .loop span condition body, machine⟩
        ⟨context, room + 2, body, start⟩

/-- An execution inside of another one, with no loop between them. -/
def Within : Execution → Execution → Prop :=
  Relation.ReflTransGen Holds

/-- An execution inside of another one, at any depth. -/
def Inside : Execution → Execution → Prop :=
  Relation.ReflTransGen fun outer inner => Holds outer inner ∨ ∃ left, Turns left outer inner

variable {outer inner : Execution} {completion : Completion} {after : Machine} {left : Nat}

/-- What does not end normally ends the block or the conditional around it in the same way. -/
theorem Holds.outcome_eq (holds : Holds outer inner)
    (ends : inner.outcome = .ok completion after) (abrupt : completion.isNormal = false) :
    outer.outcome = .ok completion after := by
  cases holds with
  | block reaches => exact locating_ok_iff.mpr (sequence_of_reaches reaches ends abrupt .absent)
  | consequent holds =>
      obtain ⟨value, middle, run, truth⟩ := bind_ok holds
      exact locating_ok_iff.mpr ((bind_of_ok run).trans ((bind_of_ok truth).trans ends))
  | alternate fails =>
      obtain ⟨value, middle, run, truth⟩ := bind_ok fails
      exact locating_ok_iff.mpr ((bind_of_ok run).trans ((bind_of_ok truth).trans ends))

theorem Within.outcome_eq (within : Within outer inner)
    (ends : inner.outcome = .ok completion after) (abrupt : completion.isNormal = false) :
    outer.outcome = .ok completion after := by
  induction within using Relation.ReflTransGen.head_induction_on with
  | refl => exact ends
  | head holds _ ih => exact holds.outcome_eq ih abrupt

/-- A round that is left ends the loop. -/
theorem Turns.outcome_of_leave (turns : Turns left outer inner)
    (ends : inner.outcome = .ok .leave after) : outer.outcome = .ok (.normal .absent) after := by
  cases turns with
  | loop rounds =>
      refine locating_ok_iff.mpr ((repeatWhile_of_rounds rounds).trans ?_)
      rw [bind_of_ok ends]
      rfl

/-- A round that ends with a result ends the loop with the result. -/
theorem Turns.outcome_of_result (turns : Turns left outer inner) {value : Value}
    (ends : inner.outcome = .ok (.result value) after) :
    outer.outcome = .ok (.result value) after := by
  cases turns with
  | loop rounds =>
      refine locating_ok_iff.mpr ((repeatWhile_of_rounds rounds).trans ?_)
      rw [bind_of_ok ends]
      rfl

/-- The rounds that a loop may still have; other statements have none. -/
def furtherRounds (execution : Execution) (left : Nat) : MachineM Completion :=
  match execution.statement with
  | .loop span condition body =>
      locating execution.context.runner span
        (repeatWhile (test execution.context (execution.room - 3) condition)
          (execute execution.context (execution.room - 3) body) left)
  | _ => throw .unfinished

/-- A round that is taken up again is followed by the further rounds of the loop. -/
theorem Turns.outcome_of_proceed (turns : Turns left outer inner)
    (ends : inner.outcome = .ok .proceed after) :
    outer.outcome = outer.furtherRounds left after := by
  cases turns with
  | loop rounds => exact locating_congr ((repeatWhile_of_rounds rounds).trans (bind_of_ok ends))

theorem Inside.outcome_of_result (inside : Inside outer inner) {value : Value}
    (ends : inner.outcome = .ok (.result value) after) :
    outer.outcome = .ok (.result value) after := by
  induction inside using Relation.ReflTransGen.head_induction_on with
  | refl => exact ends
  | head step _ ih =>
      rcases step with holds | ⟨left, turns⟩
      · exact holds.outcome_eq ih rfl
      · exact turns.outcome_of_result ih

/-- Either there is no loop around an execution, or there is a nearest one. -/
theorem Inside.nearest_loop (inside : Inside outer inner) :
    Within outer inner ∨ ∃ left loop turn, Inside outer loop ∧ Turns left loop turn ∧
      Within turn inner := by
  induction inside with
  | refl => exact .inl .refl
  | @tail middle inner earlier step ih =>
      rcases step with holds | ⟨left, turns⟩
      · rcases ih with within | ⟨left, loop, turn, around, turns, within⟩
        · exact .inl (within.tail holds)
        · exact .inr ⟨left, loop, turn, around, turns, within.tail holds⟩
      · exact .inr ⟨left, middle, inner, earlier, turns, .refl⟩

/-! ## Where completions come from -/

/-- The statements that are written to end in a given way. -/
inductive Produces : Stmt → Completion → Prop
  | result (span : Span) (expression : Option Expr) (value : Value) :
      Produces (.result span expression) (.result value)
  | leave (span : Span) : Produces (.leave span) .leave
  | proceed (span : Span) : Produces (.proceed span) .proceed

/-- A completion that is not normal is the statement's own or that of a part of it, and a loop hands
on results only. -/
theorem origin (ends : outer.outcome = .ok completion after)
    (abrupt : completion.isNormal = false) :
    Produces outer.statement completion ∨
      (∃ inner, Holds outer inner ∧ inner.outcome = .ok completion after) ∨
      ∃ left inner value, Turns left outer inner ∧ completion = .result value ∧
        inner.outcome = .ok completion after := by
  obtain ⟨context, room, statement, machine⟩ := outer
  match room with
  | 0 | 1 | 2 | 3 | 4 => cases ends
  | room + 5 =>
      have run := locating_ok_iff.mp ends
      cases statement with
      | declare span id initial =>
          cases initial with
          | none =>
              obtain ⟨_, _, -, run⟩ := bind_ok run
              cases run
              cases abrupt
          | some initial =>
              obtain ⟨_, _, -, run⟩ := bind_ok run
              obtain ⟨_, _, -, run⟩ := bind_ok run
              cases run
              cases abrupt
      | expression span value =>
          obtain ⟨_, _, -, run⟩ := bind_ok run
          cases run
          cases abrupt
      | block span statements =>
          obtain ⟨statement, start, reaches, run⟩ := reaches_of_sequence run abrupt
          exact .inr (.inl ⟨_, .block reaches, run⟩)
      | conditional span condition consequent alternate =>
          obtain ⟨value, middle, evaluated, run⟩ := bind_ok run
          obtain ⟨truth, start, tested, run⟩ := bind_ok run
          have decided : test context (room + 2) condition machine = .ok truth start :=
            (bind_of_ok evaluated).trans tested
          cases truth with
          | true => exact .inr (.inl ⟨_, .consequent decided, run⟩)
          | false =>
              cases alternate with
              | none =>
                  cases run
                  cases abrupt
              | some alternate => exact .inr (.inl ⟨_, .alternate decided, run⟩)
      | loop span condition body =>
          change repeatWhile (test context (room + 2) condition) (execute context (room + 2) body)
            loopBound machine = _ at run
          rcases rounds_of_repeatWhile run with rfl | ⟨left, start, value, rounds, rfl, roundRun⟩
          · cases abrupt
          · exact .inr (.inr ⟨left, _, value, .loop rounds, rfl, roundRun⟩)
      | function span name params body =>
          obtain ⟨_, _, -, run⟩ := bind_ok run
          cases name with
          | none =>
              cases run
              cases abrupt
          | some id =>
              obtain ⟨_, _, -, run⟩ := bind_ok run
              cases run
              cases abrupt
      | result span value =>
          cases value with
          | none =>
              cases run
              exact .inl (.result span none _)
          | some value =>
              obtain ⟨_, _, -, run⟩ := bind_ok run
              cases run
              exact .inl (.result span value _)
      | leave span =>
          cases run
          exact .inl (.leave span)
      | proceed span =>
          cases run
          exact .inl (.proceed span)
      | construct span className arguments =>
          obtain ⟨_, _, -, run⟩ := bind_ok run
          obtain ⟨_, _, -, run⟩ := bind_ok run
          cases run
          cases abrupt
      | load span path =>
          obtain ⟨_, _, -, run⟩ := bind_ok run
          obtain ⟨_, _, -, run⟩ := bind_ok run
          obtain ⟨_, _, -, run⟩ := bind_ok run
          obtain ⟨_, _, -, run⟩ := bind_ok run
          cases run
          cases abrupt

theorem Holds.room_lt (holds : Holds outer inner) : inner.room < outer.room := by
  cases holds <;>
  · dsimp only
    omega

theorem Turns.room_lt (turns : Turns left outer inner) : inner.room < outer.room := by
  cases turns
  dsimp only
  omega

theorem Holds.wellFormed (holds : Holds outer inner) {inLoop : Bool}
    (formed : outer.statement.WellFormed inLoop) : inner.statement.WellFormed inLoop := by
  cases holds with
  | block reaches =>
      cases formed with
      | block _ statementsFormed => exact statementsFormed _ reaches.mem
  | consequent =>
      cases formed with
      | conditional _ _ consequentFormed _ _ => exact consequentFormed
  | alternate =>
      cases formed with
      | conditional _ _ _ alternateFormed _ => exact alternateFormed _ rfl

/-- Outside of loops, no statement ends in a way that is meant for a loop. -/
theorem isLoopControl_of_wellFormed (formed : outer.statement.WellFormed false)
    (ends : outer.outcome = .ok completion after) : completion.isLoopControl = false := by
  cases control : completion.isLoopControl with
  | false => rfl
  | true =>
      have abrupt := Completion.isNormal_of_isLoopControl control
      -- The induction is on the room, which every part has less of.
      induction room_eq : outer.room using Nat.strongRecOn generalizing outer with
      | ind room ih =>
          rcases origin ends abrupt with produces | ⟨inner, holds, innerEnds⟩ | ⟨_, _, _, _, rfl, _⟩
          · generalize outer.statement = statement at produces formed
            cases produces with
            | result => cases control
            | leave | proceed => cases formed
          · exact ih inner.room (room_eq ▸ holds.room_lt) (holds.wellFormed formed) innerEnds rfl
          · cases control

/-- Every completion that is not normal comes from a statement that is written for it, inside of the
execution that it ends. -/
theorem exists_origin (ends : outer.outcome = .ok completion after)
    (abrupt : completion.isNormal = false) :
    ∃ inner, Inside outer inner ∧ Produces inner.statement completion ∧
      inner.outcome = .ok completion after := by
  induction room_eq : outer.room using Nat.strongRecOn generalizing outer with
  | ind room ih =>
      rcases origin ends abrupt with produces | ⟨part, holds, partEnds⟩ |
        ⟨left, part, value, turns, -, partEnds⟩
      · exact ⟨outer, .refl, produces, ends⟩
      · obtain ⟨inner, inside, produces, innerEnds⟩ :=
          ih part.room (room_eq ▸ holds.room_lt) partEnds rfl
        exact ⟨inner, .head (.inl holds) inside, produces, innerEnds⟩
      · obtain ⟨inner, inside, produces, innerEnds⟩ :=
          ih part.room (room_eq ▸ turns.room_lt) partEnds rfl
        exact ⟨inner, .head (.inr ⟨left, turns⟩) inside, produces, innerEnds⟩

end Execution

end Scriptlet
