import Scriptlet.Tree.Parser

/-!
# Outcomes of parsers

Two ways of speaking about a run of a parser.  `Yields` says what holds if the run succeeds, `Reads`
says that it succeeds and what holds then.  Both follow the sequence of steps, so a parser is
treated step by step and never as a whole.
-/

namespace Scriptlet
namespace Parser

variable {α β γ : Type}

/-! ## Tokens -/

theorem isFinish_of_ne {token : Token} (inner : token.lexical ≠ .finish) :
    token.isFinish = false := by
  unfold Token.isFinish
  split
  · contradiction
  · rfl

theorem isFinish_of_isSymbol {token : Token} {symbol : Symbol}
    (found : token.isSymbol symbol = true) : token.isFinish = false := by
  apply isFinish_of_ne
  intro finish
  simp [Token.isSymbol, finish] at found

theorem isFinish_of_isKeyword {token : Token} {word : Keyword}
    (found : token.isKeyword word = true) : token.isFinish = false := by
  apply isFinish_of_ne
  intro finish
  simp [Token.isKeyword, finish] at found

theorem isFinish_of_operatorOf? {token : Token} {operator : BinaryOperator}
    (found : operatorOf? token = some operator) : token.isFinish = false := by
  apply isFinish_of_ne
  intro finish
  simp [operatorOf?, finish] at found

theorem isFinish_of_prefixOf? {token : Token} {operator : UnaryOperator}
    (found : prefixOf? token = some operator) : token.isFinish = false := by
  apply isFinish_of_ne
  intro finish
  simp [prefixOf?, finish] at found

/-! ## Single steps -/

theorem bind_run {first : Parse α} {next : α → Parse β} {stream middle : Stream} {value : α}
    (run : first stream = .ok (value, middle)) :
    (first >>= next) stream = next value middle := by
  change (first stream >>= fun pair => next pair.1 pair.2) = _
  rw [run]
  rfl

theorem current_run (stream : Stream) : current stream = .ok (stream.current, stream) := rfl

theorem advance_run (stream : Stream) :
    advance stream = .ok (stream.current, stream.advance) := rfl

theorem get_run (stream : Stream) : (get : Parse Stream) stream = .ok (stream, stream) := rfl

theorem spanFrom_run (start : Token) (stream : Stream) :
    spanFrom start stream = .ok (⟨start.span.start, stream.last⟩, stream) := rfl

theorem atSymbol_run (symbol : Symbol) (stream : Stream) :
    atSymbol symbol stream = .ok (stream.current.isSymbol symbol, stream) := rfl

theorem skipSymbol_run_of_isSymbol {symbol : Symbol} {stream : Stream}
    (found : stream.current.isSymbol symbol = true) :
    skipSymbol symbol stream = .ok (true, stream.advance) := by
  rw [skipSymbol, bind_run (atSymbol_run symbol stream), found]
  rfl

theorem skipSymbol_run_of_not_isSymbol {symbol : Symbol} {stream : Stream}
    (missing : stream.current.isSymbol symbol = false) :
    skipSymbol symbol stream = .ok (false, stream) := by
  rw [skipSymbol, bind_run (atSymbol_run symbol stream), missing]
  rfl

theorem takeSymbol_run {symbol : Symbol} {stream : Stream}
    (found : stream.current.isSymbol symbol = true) :
    takeSymbol symbol stream = .ok (stream.current, stream.advance) := by
  rw [takeSymbol, bind_run (atSymbol_run symbol stream), found]
  rfl

theorem takeName_run {expected path : String} {stream : Stream}
    (found : stream.current.lexical = .name path) :
    takeName expected stream = .ok ((path, stream.current), stream.advance) := by
  rw [takeName, bind_run (current_run stream), found]
  rfl

theorem refuseDotted_run {expected path : String} {token : Token} {stream : Stream}
    (plain : isDotted path = false) :
    refuseDotted expected path token stream = .ok ((), stream) := by
  rw [refuseDotted, plain]
  rfl

/-! ## Partial outcomes -/

/-- If a parser succeeds on a stream, its result and the stream that is left satisfy a condition. -/
def Yields (parser : Parse α) (stream : Stream) (post : α → Stream → Prop) : Prop :=
  ∀ value rest, parser stream = .ok (value, rest) → post value rest

namespace Yields

variable {stream : Stream}

theorem pure {value : α} {post : α → Stream → Prop} (holds : post value stream) :
    Yields (pure value) stream post := by
  intro result rest run
  cases run
  exact holds

theorem throw {failure : Failure} {post : α → Stream → Prop} :
    Yields (throw failure) stream post := by
  intro result rest run
  cases run

theorem unexpected {expected : String} {post : α → Stream → Prop} :
    Yields (unexpected expected) stream post := by
  intro result rest run
  rw [Parser.unexpected, bind_run (current_run stream)] at run
  split at run <;> cases run

theorem bind {first : Parse α} {next : α → Parse β} {middle : α → Stream → Prop}
    {post : β → Stream → Prop} (before : Yields first stream middle)
    (after : ∀ value rest, middle value rest → Yields (next value) rest post) :
    Yields (first >>= next) stream post := by
  intro result rest run
  cases outcome : first stream with
  | error failure =>
      change (first stream >>= fun pair => next pair.1 pair.2) = _ at run
      rw [outcome] at run
      cases run
  | ok pair =>
      rw [bind_run outcome] at run
      exact after pair.1 pair.2 (before _ _ outcome) result rest run

/-- A step whose result does not matter. -/
theorem skip {first : Parse α} {next : α → Parse β} {post : β → Stream → Prop}
    (after : ∀ value rest, Yields (next value) rest post) :
    Yields (first >>= next) stream post :=
  bind (show Yields first stream fun _ _ => True from fun _ _ _ => trivial)
    fun value rest _ => after value rest

/-- A step that is known to succeed. -/
theorem step {first : Parse α} {next : α → Parse β} {post : β → Stream → Prop} {value : α}
    {rest : Stream} (run : first stream = .ok (value, rest))
    (after : Yields (next value) rest post) : Yields (first >>= next) stream post := by
  intro result last whole
  rw [bind_run run] at whole
  exact after result last whole

/-- A step whose result is changed at once. -/
theorem bindMap {first : Parse α} {change : α → β} {next : β → Parse γ}
    {middle : α → Stream → Prop} {post : γ → Stream → Prop} (before : Yields first stream middle)
    (after : ∀ value rest, middle value rest → Yields (next (change value)) rest post) :
    Yields (change <$> first >>= next) stream post := by
  have changed : Yields (change <$> first) stream
      fun result rest => ∃ value, change value = result ∧ middle value rest :=
    bind before fun value _ satisfied => pure ⟨value, rfl, satisfied⟩
  refine bind changed ?_
  rintro _ rest ⟨value, rfl, satisfied⟩
  exact after value rest satisfied

theorem refuseDotted {expected path : String} {token : Token} :
    Yields (refuseDotted expected path token) stream fun _ _ => isDotted path = false := by
  unfold Parser.refuseDotted
  split
  · exact throw
  · rename_i plain
    exact pure (by simpa using plain)

end Yields

/-! ## Total outcomes -/

/-- A parser succeeds on a stream, with a result and a rest of it that satisfy a condition. -/
def Reads (parser : Parse α) (stream : Stream) (post : α → Stream → Prop) : Prop :=
  ∃ value rest, parser stream = .ok (value, rest) ∧ post value rest

namespace Reads

variable {stream : Stream}

theorem pure {value : α} {post : α → Stream → Prop} (holds : post value stream) :
    Reads (pure value) stream post :=
  ⟨value, stream, rfl, holds⟩

theorem mono {parser : Parse α} {weak strong : α → Stream → Prop}
    (holds : Reads parser stream strong)
    (weaken : ∀ value rest, strong value rest → weak value rest) :
    Reads parser stream weak := by
  obtain ⟨value, rest, run, satisfied⟩ := holds
  exact ⟨value, rest, run, weaken value rest satisfied⟩

theorem step {first : Parse α} {next : α → Parse β} {post : β → Stream → Prop} {value : α}
    {rest : Stream} (run : first stream = .ok (value, rest))
    (after : Reads (next value) rest post) : Reads (first >>= next) stream post := by
  obtain ⟨result, last, nextRun, satisfied⟩ := after
  exact ⟨result, last, (bind_run run).trans nextRun, satisfied⟩

theorem bind {first : Parse α} {next : α → Parse β} {middle : α → Stream → Prop}
    {post : β → Stream → Prop} (before : Reads first stream middle)
    (after : ∀ value rest, middle value rest → Reads (next value) rest post) :
    Reads (first >>= next) stream post := by
  obtain ⟨value, rest, run, satisfied⟩ := before
  exact step run (after value rest satisfied)

theorem bindMap {first : Parse α} {change : α → β} {next : β → Parse γ}
    {middle : α → Stream → Prop} {post : γ → Stream → Prop} (before : Reads first stream middle)
    (after : ∀ value rest, middle value rest → Reads (next (change value)) rest post) :
    Reads (change <$> first >>= next) stream post := by
  obtain ⟨value, rest, run, satisfied⟩ := before
  have changed : (change <$> first) stream = .ok (change value, rest) := by
    change (first >>= fun value => Pure.pure (change value)) stream = _
    rw [bind_run run]
    rfl
  exact step changed (after value rest satisfied)

end Reads

end Parser
end Scriptlet
