import Scriptlet.Proofs.Parser.Outcome

/-!
# Parsers at positions

A stream that a parser works on is a list of tokens with a position in it: the current token stands
at the position, and the token before it is the last one that was taken.  The position is an index
of the list, so it never passes the token that ends the input.

`Settles` says of one run of a parser that it moves from position to position, that it refuses its
input by a mistake of the grammar only, and when it may give up as too deep.  It has one rule for
every step that a parser is made of.
-/

namespace Scriptlet
namespace Parser

/-- A list of tokens with exactly one end of the input, at its end. -/
structure EndsOnce (tokens : List Token) : Prop where
  isFinish : ∃ finish ∈ tokens.getLast?, finish.isFinish = true
  unfinished : ∀ token ∈ tokens.dropLast, token.isFinish = false

variable {tokens : List Token}

theorem ne_nil_of_position (position : Fin tokens.length) : tokens ≠ [] :=
  List.ne_nil_of_length_pos position.pos

/-- Where the token at a position starts. -/
def front (tokens : List Token) (position : Fin tokens.length) : Location :=
  tokens[position].span.start

/-- Where the token before a position stops; for the first position, where the first token does. -/
def back (tokens : List Token) (position : Fin tokens.length) : Location :=
  tokens[position.val - 1].span.stop

/-- The stream at a position. -/
def Stream.at (tokens : List Token) (position : Fin tokens.length) : Stream where
  rest := (tokens.drop position).dropLast
  finish := tokens.getLast (ne_nil_of_position position)
  last := back tokens position
  total := tokens.length

namespace EndsOnce

theorem getLast_isFinish (ended : EndsOnce tokens) (position : Fin tokens.length) :
    (tokens.getLast (ne_nil_of_position position)).isFinish = true := by
  obtain ⟨finish, found, isFinish⟩ := ended.isFinish
  rwa [List.getLast_of_mem_getLast? found]

/-- The token at the last position ends the input. -/
theorem isFinish_of_last (ended : EndsOnce tokens) {position : Fin tokens.length}
    (isLast : position.val + 1 = tokens.length) : tokens[position].isFinish = true := by
  have isFinish := ended.getLast_isFinish position
  rw [List.getLast_eq_getElem] at isFinish
  have same : tokens.length - 1 = position.val := by omega
  simpa [same] using isFinish

/-- The token at every other position does not. -/
theorem unfinished_of_lt (ended : EndsOnce tokens) {position : Fin tokens.length}
    (less : position.val + 1 < tokens.length) : tokens[position].isFinish = false := by
  apply ended.unfinished
  rw [List.mem_iff_getElem]
  exact ⟨position, by rw [List.length_dropLast]; omega, by simp⟩

/-- Behind a token that does not end the input stands another one. -/
theorem lt_of_unfinished (ended : EndsOnce tokens) {position : Fin tokens.length}
    (unfinished : tokens[position].isFinish = false) : position.val + 1 < tokens.length := by
  refine Nat.lt_of_not_le fun isLast => ?_
  rw [ended.isFinish_of_last (by omega)] at unfinished
  cases unfinished

end EndsOnce

/-- What is left of the tokens at a position that is not the last one. -/
theorem dropLast_drop {position : Fin tokens.length} (less : position.val + 1 < tokens.length) :
    (tokens.drop position).dropLast =
      tokens[position] :: (tokens.drop (position.val + 1)).dropLast := by
  rw [List.drop_eq_getElem_cons position.isLt, List.dropLast_cons_of_ne_nil]
  · rfl
  · exact List.ne_nil_of_length_pos (by rw [List.length_drop]; omega)

@[simp]
theorem current_at (position : Fin tokens.length) :
    (Stream.at tokens position).current = tokens[position] := by
  unfold Stream.current Stream.at
  by_cases less : position.val + 1 < tokens.length
  · simp [dropLast_drop less]
  · have empty : (tokens.drop position).dropLast = [] := by
      rw [← List.length_eq_zero_iff, List.length_dropLast, List.length_drop]
      omega
    have last : tokens.length - 1 = position.val := by omega
    simp [empty, List.getLast_eq_getElem, last]

/-- Taking a token that does not end the input leads to the next position. -/
theorem advance_at (ended : EndsOnce tokens) {position : Fin tokens.length}
    (unfinished : tokens[position].isFinish = false) :
    (Stream.at tokens position).advance =
      Stream.at tokens ⟨position + 1, ended.lt_of_unfinished unfinished⟩ := by
  have less := ended.lt_of_unfinished unfinished
  unfold Stream.advance
  simp only [Stream.at, dropLast_drop less]
  rw [unfinished]
  rfl

/-- Tokens that end once make the stream at the first position. -/
theorem EndsOnce.ofTokens? (ended : EndsOnce tokens) :
    ∃ first : Fin tokens.length, first.val = 0 ∧
      Stream.ofTokens? tokens = some (Stream.at tokens first) := by
  obtain ⟨finish, found, isFinish⟩ := ended.isFinish
  have present : 0 < tokens.length := List.length_pos_of_mem (List.mem_of_mem_getLast? found)
  refine ⟨⟨0, present⟩, rfl, ?_⟩
  have head_eq : tokens.headD finish = tokens[0] := by
    cases tokens with
    | nil => cases found
    | cons first rest => rfl
  simp only [Stream.ofTokens?, Option.mem_def.mp found, isFinish, if_true, Stream.at,
    List.getLast_of_mem_getLast? found, List.drop_zero, head_eq]
  rfl

/-! ## Outcomes at positions -/

variable {α β γ : Type} {short : Prop} {position : Fin tokens.length}

/-- A parser at a position leads to a result and a position that satisfy a condition, or refuses its
input by a mistake of the grammar, or gives up as too deep where its allowance may be short. -/
def Settles (tokens : List Token) (short : Prop) (parser : Parse α) (position : Fin tokens.length)
    (post : α → Fin tokens.length → Prop) : Prop :=
  match parser (Stream.at tokens position) with
  | .ok (value, rest) => ∃ later, post value later ∧ rest = Stream.at tokens later
  | .error (.refused cause _) => cause.family = .grammar
  | .error .tooDeep => short

namespace Settles

variable {post : α → Fin tokens.length → Prop} {next : α → Parse β}
  {last : β → Fin tokens.length → Prop}

theorem pure {value : α} (satisfied : post value position) :
    Settles tokens short (pure value) position post :=
  ⟨position, satisfied, rfl⟩

theorem throw {cause : Cause} {span : Span} (mistake : cause.family = .grammar) :
    Settles tokens short (throw (.refused cause span)) position post :=
  mistake

theorem refuseDepth (isShort : short) : Settles tokens short refuseDepth position post :=
  isShort

theorem mono {less : Prop} {weak : α → Fin tokens.length → Prop} {parser : Parse α}
    (settles : Settles tokens less parser position post) (isShort : less → short)
    (weaken : ∀ value later, post value later → weak value later) :
    Settles tokens short parser position weak := by
  unfold Settles at settles ⊢
  split at settles
  · obtain ⟨later, satisfied, rest_eq⟩ := settles
    exact ⟨later, weaken _ _ satisfied, rest_eq⟩
  · exact settles
  · exact isShort settles

theorem shorter {less : Prop} {parser : Parse α}
    (settles : Settles tokens less parser position post) (isShort : less → short) :
    Settles tokens short parser position post :=
  settles.mono isShort fun _ _ => id

/-- A step that is known to succeed. -/
theorem step {first : Parse α} {value : α} {later : Fin tokens.length}
    (run : first (Stream.at tokens position) = .ok (value, Stream.at tokens later))
    (after : Settles tokens short (next value) later last) :
    Settles tokens short (first >>= next) position last := by
  unfold Settles
  rw [bind_run run]
  exact after

theorem bind {first : Parse α} (before : Settles tokens short first position post)
    (after : ∀ value later, post value later → Settles tokens short (next value) later last) :
    Settles tokens short (first >>= next) position last := by
  have failed {failure : Failure} (run : first (Stream.at tokens position) = .error failure) :
      (first >>= next) (Stream.at tokens position) = .error failure := by
    change (first (Stream.at tokens position) >>= fun pair => next pair.1 pair.2) = _
    rw [run]
    rfl
  unfold Settles at before
  split at before
  · rename_i value rest run
    obtain ⟨later, satisfied, rfl⟩ := before
    exact step run (after value later satisfied)
  · rename_i run
    unfold Settles
    rw [failed run]
    exact before
  · rename_i run
    unfold Settles
    rw [failed run]
    exact before

/-- A step whose result is changed at once. -/
theorem bindMap {first : Parse α} {change : α → γ} {next : γ → Parse β}
    (before : Settles tokens short first position post)
    (after : ∀ value later, post value later →
      Settles tokens short (next (change value)) later last) :
    Settles tokens short (change <$> first >>= next) position last := by
  rw [bind_map_left]
  exact bind before after

/-- A look at the current token. -/
theorem current {next : Token → Parse β}
    (after : Settles tokens short (next tokens[position]) position last) :
    Settles tokens short (current >>= next) position last :=
  step (by rw [current_run, current_at]) after

/-- A look at the stream. -/
theorem get {next : Stream → Parse β}
    (after : Settles tokens short (next (Stream.at tokens position)) position last) :
    Settles tokens short (get >>= next) position last :=
  step (get_run _) after

theorem atSymbol {symbol : Symbol} {next : Bool → Parse β}
    (after : Settles tokens short (next (tokens[position].isSymbol symbol)) position last) :
    Settles tokens short (atSymbol symbol >>= next) position last :=
  step (by rw [atSymbol_run, current_at]) after

/-- Taking a token that does not end the input. -/
theorem advance (ended : EndsOnce tokens) (unfinished : tokens[position].isFinish = false) :
    Settles tokens short advance position fun token later =>
      token = tokens[position] ∧ later.val = position + 1 := by
  refine ⟨⟨position + 1, ended.lt_of_unfinished unfinished⟩, ⟨?_, rfl⟩, ?_⟩
  · exact current_at position
  · exact advance_at ended unfinished

/-- Taking a token that is known. -/
theorem take (ended : EndsOnce tokens) {lexical : Lexical}
    (found : tokens[position].lexical = lexical) (other : lexical ≠ .finish) :
    Settles tokens short Parser.advance position fun token later =>
      token = tokens[position] ∧ later.val = position + 1 :=
  advance ended (isFinish_of_ne (found ▸ other))

/-- Refusing the current token. -/
theorem unexpected {expected : String} :
    Settles tokens short (unexpected expected) position post := by
  refine current ?_
  split <;> exact throw rfl

theorem skipSymbol (ended : EndsOnce tokens) {symbol : Symbol} :
    Settles tokens short (skipSymbol symbol) position fun found later =>
      if found then later.val = position + 1 else later = position := by
  refine atSymbol ?_
  split
  · rename_i found
    refine bind (advance ended (isFinish_of_isSymbol found)) ?_
    exact fun _ _ moved => pure moved.2
  · exact pure rfl

/-- A symbol that is taken if it is there, and what follows in either case. -/
theorem skipOr (ended : EndsOnce tokens) {symbol : Symbol} {next : Bool → Parse β}
    (taken : ∀ later : Fin tokens.length, later.val = position + 1 →
      Settles tokens short (next true) later last)
    (absent : Settles tokens short (next false) position last) :
    Settles tokens short (Parser.skipSymbol symbol >>= next) position last := by
  refine bind (skipSymbol ended) fun found later skipped => ?_
  cases found with
  | true => exact taken later (by simpa using skipped)
  | false =>
      obtain rfl : later = position := by simpa using skipped
      exact absent

/-- A symbol that is taken if it is there, whatever follows. -/
theorem skipAny (ended : EndsOnce tokens) {symbol : Symbol} {next : Bool → Parse β}
    (after : ∀ found later, position ≤ later → Settles tokens short (next found) later last) :
    Settles tokens short (Parser.skipSymbol symbol >>= next) position last :=
  skipOr ended (fun later taken => after true later (by omega))
    (after false position (Nat.le_refl _))

theorem takeSymbol (ended : EndsOnce tokens) {symbol : Symbol} :
    Settles tokens short (takeSymbol symbol) position fun token later =>
      token = tokens[position] ∧ later.val = position + 1 := by
  refine atSymbol ?_
  split
  · rename_i found
    exact advance ended (isFinish_of_isSymbol found)
  · exact unexpected

theorem takeName (ended : EndsOnce tokens) {expected : String} :
    Settles tokens short (takeName expected) position fun _ later => later.val = position + 1 := by
  refine current ?_
  split
  · rename_i path named
    exact bind (take ended named (by simp)) fun _ _ moved => pure moved.2
  · exact unexpected

theorem refuseDotted {expected path : String} {token : Token} :
    Settles tokens short (refuseDotted expected path token) position fun _ later =>
      later = position := by
  unfold Parser.refuseDotted
  split
  · exact throw rfl
  · exact pure rfl

theorem spanFrom {start : Token} :
    Settles tokens short (spanFrom start) position fun span later =>
      span = ⟨start.span.start, back tokens position⟩ ∧ later = position :=
  ⟨position, ⟨rfl, rfl⟩, rfl⟩

end Settles

end Parser
end Scriptlet
