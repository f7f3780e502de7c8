import Mathlib.Data.List.Basic
import Scriptlet.Token.Lexer

/-!
# Tokens cover their text

Reading a text into tokens loses nothing: the lexemes are the slices of the text at their spans, in
order, and between them stands layout only.  If the reading stops at an error, this holds of the
tokens before the error and of the text in front of it.

The proof follows the reading.  Each scanner splits its input into the characters that it uses and
the characters that it hands on; the loop keeps, for every layout that may come next, that the
tokens so far cover the text up to the end of that layout.
-/

namespace Scriptlet

namespace Text

/-- The part of a text between two offsets. -/
def slice (text : List Char) (start stop : Nat) : List Char :=
  (text.take stop).drop start

theorem slice_append (front middle back : List Char) :
    slice (front ++ middle ++ back) front.length (front.length + middle.length) = middle := by
  have taken : (front ++ middle ++ back).take (front.length + middle.length) =
      front ++ middle := by
    rw [← List.length_append]
    exact List.take_left
  rw [slice, taken]
  exact List.drop_left

@[simp]
theorem slice_self (text : List Char) (offset : Nat) : slice text offset offset = [] := by
  simp [slice]

end Text

@[simp]
theorem Location.advance_offset (place : Location) (c : Char) :
    (place.advance c).offset = place.offset + 1 := by
  unfold Location.advance
  split <;> rfl

@[simp]
theorem Location.after_offset (place : Location) (text : List Char) :
    (place.after text).offset = place.offset + text.length := by
  induction text generalizing place with
  | nil => rfl
  | cons c text ih =>
      rw [after_cons, ih, advance_offset, List.length_cons]
      omega

namespace Lexer

open Text

/-! ## Layout -/

/-- White space, and comments that a line feed closes. -/
inductive Layout : List Char → Prop where
  | nil : Layout []
  | blank {c : Char} {rest : List Char} (blank : isBlank c = true) (layout : Layout rest) :
      Layout (c :: rest)
  | comment {body rest : List Char} (inside : '\n' ∉ body) (layout : Layout rest) :
      Layout ('#' :: body ++ '\n' :: rest)

/-- Layout in front of the rest of a text. Only at the end of the text may its last comment be left
open. -/
def LayoutBefore (gap rest : List Char) : Prop :=
  Layout gap ∨
    rest = [] ∧ ∃ front body, gap = front ++ '#' :: body ∧ Layout front ∧ '\n' ∉ body

theorem LayoutBefore.blank {c : Char} {gap rest : List Char} (blank : isBlank c = true)
    (skipped : LayoutBefore gap rest) : LayoutBefore (c :: gap) rest := by
  rcases skipped with layout | ⟨rest_nil, front, body, gap_eq, layout, inside⟩
  · exact Or.inl (.blank blank layout)
  · exact Or.inr ⟨rest_nil, c :: front, body, by rw [gap_eq]; rfl, .blank blank layout, inside⟩

theorem LayoutBefore.comment {body gap rest : List Char} (inside : '\n' ∉ body)
    (skipped : LayoutBefore gap rest) : LayoutBefore ('#' :: body ++ '\n' :: gap) rest := by
  rcases skipped with layout | ⟨rest_nil, front, last, gap_eq, layout, lastInside⟩
  · exact Or.inl (.comment inside layout)
  · refine Or.inr ⟨rest_nil, '#' :: body ++ '\n' :: front, last, ?_, .comment inside layout,
      lastInside⟩
    simp [gap_eq]

/-- What skipping takes off a text, outside and inside of a comment.  Inside, `body` is the part of
the comment that has been passed since its mark. -/
theorem skipLayout_spec (text : List Char) :
    (∀ place, ∃ gap, text = gap ++ (skipLayout false place text).2 ∧
      (skipLayout false place text).1 = place.after gap ∧
      LayoutBefore gap (skipLayout false place text).2) ∧
    (∀ place body, '\n' ∉ body →
      ∃ gap, text = gap ++ (skipLayout true place text).2 ∧
        (skipLayout true place text).1 = place.after gap ∧
        LayoutBefore ('#' :: body ++ gap) (skipLayout true place text).2) := by
  induction text with
  | nil =>
      constructor
      · intro place
        exact ⟨[], rfl, rfl, Or.inl .nil⟩
      · intro place body inside
        exact ⟨[], rfl, rfl, Or.inr ⟨rfl, [], body, by simp, .nil, inside⟩⟩
  | cons c rest ih =>
      obtain ⟨outside, within⟩ := ih
      constructor
      · intro place
        by_cases blank : isBlank c = true
        · obtain ⟨gap, rest_eq, place_eq, skipped⟩ := outside (place.advance c)
          have step : skipLayout false place (c :: rest) =
              skipLayout false (place.advance c) rest := by
            simp [skipLayout, blank]
          rw [step]
          exact ⟨c :: gap, by rw [List.cons_append, ← rest_eq], place_eq, skipped.blank blank⟩
        · by_cases mark : c = '#'
          · subst mark
            obtain ⟨gap, rest_eq, place_eq, skipped⟩ := within (place.advance '#') [] (by simp)
            have step : skipLayout false place ('#' :: rest) =
                skipLayout true (place.advance '#') rest := by
              simp [skipLayout, blank]
            rw [step]
            exact ⟨'#' :: gap, by rw [List.cons_append, ← rest_eq], place_eq,
              by simpa using skipped⟩
          · have stays : skipLayout false place (c :: rest) = (place, c :: rest) := by
              simp [skipLayout, blank, mark]
            rw [stays]
            exact ⟨[], rfl, rfl, Or.inl .nil⟩
      · intro place body inside
        by_cases feed : c = '\n'
        · subst feed
          obtain ⟨gap, rest_eq, place_eq, skipped⟩ := outside (place.advance '\n')
          have step : skipLayout true place ('\n' :: rest) =
              skipLayout false (place.advance '\n') rest := by
            simp [skipLayout]
          rw [step]
          exact ⟨'\n' :: gap, by rw [List.cons_append, ← rest_eq], place_eq,
            skipped.comment inside⟩
        · have longer : '\n' ∉ body ++ [c] := by
            simpa [inside] using Ne.symm feed
          obtain ⟨gap, rest_eq, place_eq, skipped⟩ := within (place.advance c) (body ++ [c]) longer
          have step : skipLayout true place (c :: rest) =
              skipLayout true (place.advance c) rest := by
            simp [skipLayout, bne_iff_ne.mpr feed]
          rw [step]
          exact ⟨c :: gap, by rw [List.cons_append, ← rest_eq], place_eq, by simpa using skipped⟩

theorem skipLayout_length_le (place : Location) (text : List Char) :
    (skipLayout false place text).2.length ≤ text.length := by
  obtain ⟨gap, text_eq, -, -⟩ := (skipLayout_spec text).1 place
  have lengths := congrArg List.length text_eq
  rw [List.length_append] at lengths
  omega

/-! ## Pieces -/

theorem textBody_append {mark : Char} {value read text : List Char}
    {outcome : List Char × List Char × List Char}
    (body : textBody mark value read text = some outcome) :
    outcome.2.1 ++ outcome.2.2 = read.reverse ++ text := by
  fun_induction textBody mark value read text with
  | case1 | case2 => simp at body
  | case3 value read c rest ih => simpa using ih body
  | case4 value read rest _ _ =>
      obtain rfl := Option.some.inj body
      simp
  | case5 value read c rest _ _ inside ih => simpa using ih body

theorem numberRun_append (text : List Char) : (numberRun text).1 ++ (numberRun text).2 = text := by
  have whole := List.takeWhile_append_dropWhile (p := isDigit) (l := text)
  unfold numberRun
  split
  · rename_i rest after_eq
    rw [after_eq] at whole
    simpa using whole
  · exact whole

theorem nameRun_append (text : List Char) : (nameRun text).1 ++ (nameRun text).2 = text := by
  fun_induction nameRun text with
  | case1 => rfl
  | case2 | case3 => rfl
  | case4 c next rest continues run after run_eq ih =>
      rw [run_eq] at ih
      exact congrArg (c :: ·) ih
  | case5 => rfl

theorem numberRun_ne_nil {c : Char} {rest : List Char} (starts : startsNumber c rest = true) :
    (numberRun (c :: rest)).1 ≠ [] := by
  by_cases digit : isDigit c = true
  · unfold numberRun
    rw [List.takeWhile_cons_of_pos digit]
    split <;> simp
  · have point : c = '.' := by
      simp only [startsNumber, digit, Bool.false_or, Bool.and_eq_true, decide_eq_true_eq] at starts
      exact starts.1
    subst point
    simp [numberRun, show isDigit '.' = false by decide]

theorem nameRun_ne_nil {c : Char} {rest : List Char} (starts : isNameStart c = true) :
    (nameRun (c :: rest)).1 ≠ [] := by
  have part := isNamePart_of_isNameStart starts
  cases rest with
  | nil => simp [nameRun, part]
  | cons next rest => simp [nameRun, part]

theorem leading?_spec {text : List Char} {symbol : Symbol}
    (leading : Symbol.leading? text = some symbol) :
    symbol.chars ≠ [] ∧ symbol.chars ++ text.drop symbol.chars.length = text := by
  have front : symbol.chars <+: text := by
    simpa [Symbol.leading?] using List.find?_some leading
  constructor
  · cases symbol <;> simp [Symbol.chars]
  · exact List.prefix_iff_eq_append.mp front

theorem ofWord_ne_finish (word : String) : ofWord word ≠ .finish := by
  unfold ofWord
  split <;> simp

/-- What a lexeme owes to the text that it is taken off: it is not empty, nothing is lost, and only
the end of the text stands for itself. -/
structure Piece.TakenFrom (piece : Piece) (text : List Char) : Prop where
  nonempty : piece.lexeme ≠ []
  append_rest : piece.lexeme ++ piece.rest = text
  not_finish : piece.lexical ≠ .finish

theorem Piece.TakenFrom.rest_length_lt {piece : Piece} {text : List Char}
    (taken : piece.TakenFrom text) : piece.rest.length < text.length := by
  have lengths := congrArg List.length taken.append_rest
  have lexeme_pos := List.length_pos_iff.mpr taken.nonempty
  rw [List.length_append] at lengths
  omega

theorem takePiece_spec {c : Char} {rest : List Char} {piece : Piece}
    (taken : takePiece c rest = .ok piece) : piece.TakenFrom (c :: rest) := by
  unfold takePiece at taken
  split at taken
  · split at taken
    · rename_i value read after body
      obtain rfl := Except.ok.inj taken
      exact ⟨by simp, by simpa using textBody_append body, by simp⟩
    · simp at taken
  split at taken
  · rename_i starts
    obtain rfl := Except.ok.inj taken
    exact ⟨numberRun_ne_nil starts, numberRun_append _, by simp⟩
  split at taken
  · rename_i starts
    obtain rfl := Except.ok.inj taken
    exact ⟨nameRun_ne_nil starts, nameRun_append _, ofWord_ne_finish _⟩
  · split at taken
    · rename_i symbol leading
      obtain rfl := Except.ok.inj taken
      obtain ⟨nonempty, append⟩ := leading?_spec leading
      exact ⟨nonempty, append, by simp⟩
    · simp at taken

/-! ## Coverage -/

/-- The pairs of offsets between which no token stands, up to a last offset. -/
def gapsFrom : (start : Nat) → List Token → (stop : Nat) → List (Nat × Nat)
  | start, [], stop => [(start, stop)]
  | start, token :: rest, stop =>
      (start, token.span.start.offset) :: gapsFrom token.span.stop.offset rest stop

theorem gapsFrom_snoc (start : Nat) (tokens : List Token) (token : Token) (stop : Nat) :
    gapsFrom start (tokens ++ [token]) stop =
      gapsFrom start tokens token.span.start.offset ++ [(token.span.stop.offset, stop)] := by
  induction tokens generalizing start with
  | nil => rfl
  | cons first rest ih =>
      simp only [List.cons_append, gapsFrom]
      rw [ih]

/-- Tokens cover the first `stop` characters of a text: they stand in order without overlapping,
their lexemes are the characters at their places, and everything else is layout. -/
structure Covers (source : List Char) (tokens : List Token) (stop : Nat) : Prop where
  ordered : tokens.Pairwise fun first second =>
    first.span.stop.offset ≤ second.span.start.offset
  placed : ∀ token ∈ tokens,
    token.span.start.offset ≤ token.span.stop.offset ∧ token.span.stop.offset ≤ stop
  lexemes : ∀ token ∈ tokens,
    token.lexeme.toList = slice source token.span.start.offset token.span.stop.offset
  nonempty : ∀ token ∈ tokens, token.isFinish = false → token.lexeme ≠ ""
  gaps : ∀ gap ∈ gapsFrom 0 tokens stop,
    LayoutBefore (slice source gap.1 gap.2) (source.drop gap.2)

/-- A token after a text that is covered, and the layout after it. -/
theorem Covers.snoc {source : List Char} {tokens : List Token} {token : Token} {stop : Nat}
    (covers : Covers source tokens token.span.start.offset)
    (forward : token.span.start.offset ≤ token.span.stop.offset)
    (lexeme : token.lexeme.toList =
      slice source token.span.start.offset token.span.stop.offset)
    (nonempty : token.isFinish = false → token.lexeme ≠ "")
    (stop_le : token.span.stop.offset ≤ stop)
    (gap : LayoutBefore (slice source token.span.stop.offset stop) (source.drop stop)) :
    Covers source (tokens ++ [token]) stop where
  ordered := by
    rw [List.pairwise_append]
    refine ⟨covers.ordered, List.pairwise_singleton _ _, ?_⟩
    intro first first_mem second second_mem
    obtain rfl := List.mem_singleton.mp second_mem
    exact (covers.placed first first_mem).2
  placed := by
    intro other other_mem
    rcases List.mem_append.mp other_mem with before | last
    · have place := covers.placed other before
      omega
    · obtain rfl := List.mem_singleton.mp last
      exact ⟨forward, stop_le⟩
  lexemes := by
    intro other other_mem
    rcases List.mem_append.mp other_mem with before | last
    · exact covers.lexemes other before
    · obtain rfl := List.mem_singleton.mp last
      exact lexeme
  nonempty := by
    intro other other_mem
    rcases List.mem_append.mp other_mem with before | last
    · exact covers.nonempty other before
    · obtain rfl := List.mem_singleton.mp last
      exact nonempty
  gaps := by
    intro pair pair_mem
    rw [gapsFrom_snoc] at pair_mem
    rcases List.mem_append.mp pair_mem with before | last
    · exact covers.gaps pair before
    · obtain rfl := List.mem_singleton.mp last
      exact gap

/-! ## Reading -/

/-- The state of a reading: `text` is what is left of the source at `place`, and whatever layout it
starts with, the tokens so far cover the source up to the end of that layout. -/
structure Progress (source : List Char) (place : Location) (text : List Char)
    (tokens : List Token) : Prop where
  split : ∃ front, source = front ++ text ∧ place.offset = front.length
  covers : ∀ gap rest, text = gap ++ rest → LayoutBefore gap rest →
    Covers source tokens (place.offset + gap.length)
  unfinished : ∀ token ∈ tokens, token.isFinish = false

theorem Progress.initial (source : List Char) (place : Location) (place_zero : place.offset = 0) :
    Progress source place source [] where
  split := ⟨[], rfl, place_zero⟩
  covers := by
    intro gap rest source_eq layout
    rw [place_zero, Nat.zero_add]
    refine ⟨.nil, by simp, by simp, by simp, ?_⟩
    intro pair pair_mem
    obtain rfl := List.mem_singleton.mp pair_mem
    simpa [slice, source_eq] using layout
  unfinished := by simp

/-- Skipping layout keeps the state, and the tokens cover everything in front of what is left. -/
theorem Progress.skip {source : List Char} {place : Location} {text : List Char}
    {tokens : List Token} (progress : Progress source place text tokens) :
    ∃ front, source = front ++ (skipLayout false place text).2 ∧
      (skipLayout false place text).1.offset = front.length ∧
      Covers source tokens front.length := by
  obtain ⟨gap, text_eq, place_eq, layout⟩ := (skipLayout_spec text).1 place
  obtain ⟨front, source_eq, offset_eq⟩ := progress.split
  refine ⟨front ++ gap, ?_, ?_, ?_⟩
  · rw [List.append_assoc, ← text_eq]
    exact source_eq
  · rw [place_eq, Location.after_offset, List.length_append, offset_eq]
  · rw [List.length_append, ← offset_eq]
    exact progress.covers gap _ text_eq layout

/-- Taking a lexeme off the text keeps the state. -/
theorem Progress.take {front : List Char} {place : Location} {c : Char} {rest : List Char}
    {tokens : List Token} {piece : Piece} (place_eq : place.offset = front.length)
    (covers : Covers (front ++ c :: rest) tokens front.length)
    (unfinished : ∀ token ∈ tokens, token.isFinish = false)
    (taken : piece.TakenFrom (c :: rest)) :
    Progress (front ++ c :: rest) (place.after piece.lexeme) piece.rest
      (tokens ++ [⟨piece.lexical, String.ofList piece.lexeme,
        ⟨place, place.after piece.lexeme⟩⟩]) where
  split := by
    refine ⟨front ++ piece.lexeme, ?_, ?_⟩
    · rw [List.append_assoc, taken.append_rest]
    · rw [Location.after_offset, List.length_append, place_eq]
  covers := by
    intro gap after rest_eq layout
    have source_eq : front ++ c :: rest = front ++ piece.lexeme ++ gap ++ after := by
      rw [← taken.append_rest, rest_eq]
      simp
    refine Covers.snoc (by rwa [place_eq]) ?_ ?_ ?_ ?_ ?_
    · simp
    · have lexeme_slice := slice_append front piece.lexeme (gap ++ after)
      simpa [source_eq, place_eq] using lexeme_slice.symm
    · intro _ empty
      exact taken.nonempty (by simpa using congrArg String.toList empty)
    · simp
    · have gap_slice := slice_append (front ++ piece.lexeme) gap after
      have gap_drop : (front ++ c :: rest).drop
          (front.length + piece.lexeme.length + gap.length) = after := by
        rw [source_eq, ← List.length_append, ← List.length_append]
        exact List.drop_left
      rw [List.length_append, ← source_eq] at gap_slice
      rw [Location.after_offset, place_eq, gap_slice, gap_drop]
      exact layout
  unfinished := by
    intro token token_mem
    rcases List.mem_append.mp token_mem with before | last
    · exact unfinished token before
    · obtain rfl := List.mem_singleton.mp last
      have not_finish := taken.not_finish
      unfold Token.isFinish
      split <;> simp_all

/-- What a reading owes to its text. -/
def Reading.Lossless (reading : Reading) (source : List Char) : Prop :=
  match reading.error with
  | none =>
      Covers source reading.tokens source.length ∧
        ∃ front place, reading.tokens = front ++ [⟨.finish, "", ⟨place, place⟩⟩] ∧
          place.offset = source.length ∧ ∀ token ∈ front, token.isFinish = false
  | some error =>
      ∃ span, error.span = some span ∧ span.start.offset < source.length ∧
        Covers source reading.tokens span.start.offset ∧
        ∀ token ∈ reading.tokens, token.isFinish = false

theorem faultSpan_start (cause : Cause) (place : Location) (c : Char) (rest : List Char) :
    (faultSpan cause place c rest).start = place := by
  unfold faultSpan
  split <;> rfl

/-- The reading keeps its state up to the end of the text or to an error, because every lexeme
shortens the text. -/
theorem readFrom_lossless (quoted : String) (source : List Char) (fuel : Nat) (place : Location)
    (text : List Char) (tokens : List Token) (enough : text.length < fuel)
    (progress : Progress source place text tokens.reverse) :
    (readFrom quoted fuel place text tokens).Lossless source := by
  induction fuel generalizing place text tokens with
  | zero => omega
  | succ fuel ih =>
      obtain ⟨front, source_eq, offset_eq, covers⟩ := progress.skip
      unfold readFrom
      split
      · rename_i stop skipped
        simp only [skipped, List.append_nil] at source_eq offset_eq
        subst source_eq
        refine ⟨?_, tokens.reverse, stop, by simp, offset_eq, progress.unfinished⟩
        rw [List.reverse_cons]
        refine Covers.snoc (by rwa [offset_eq]) (Nat.le_refl _) (by simp) (by simp [Token.isFinish])
          (Nat.le_of_eq offset_eq) ?_
        rw [offset_eq, slice_self]
        exact Or.inl .nil
      · rename_i start c rest skipped
        simp only [skipped] at source_eq offset_eq
        subst source_eq
        split
        · rename_i cause failed
          refine ⟨_, rfl, ?_, ?_, progress.unfinished⟩
          · rw [faultSpan_start, offset_eq]
            simp
          · rwa [faultSpan_start, offset_eq]
        · rename_i piece taken
          have pieceTaken := takePiece_spec taken
          apply ih
          · have shorter := pieceTaken.rest_length_lt
            have skipped_le := skipLayout_length_le place text
            simp only [skipped] at skipped_le
            omega
          · rw [List.reverse_cons]
            exact Progress.take offset_eq covers progress.unfinished pieceTaken

theorem read_lossless (source : String) (file : Option String) :
    (read source file).Lossless source.toList :=
  readFrom_lossless source source.toList _ _ _ _ (by rw [String.length_toList]; omega)
    (Progress.initial source.toList (Location.start file) rfl)

theorem read_of_lex {source : String} {file : Option String} {tokens : List Token}
    (success : lex source file = .ok tokens) : read source file = ⟨tokens, none⟩ := by
  unfold lex at success
  cases reading : read source file with
  | mk found error =>
      rw [reading] at success
      cases error with
      | none =>
          cases success
          rfl
      | some error => cases success

theorem covers_of_lex {source : String} {file : Option String} {tokens : List Token}
    (success : lex source file = .ok tokens) :
    Covers source.toList tokens source.toList.length ∧
      ∃ front place, tokens = front ++ [⟨.finish, "", ⟨place, place⟩⟩] ∧
        place.offset = source.toList.length ∧ ∀ token ∈ front, token.isFinish = false := by
  have lossless := read_lossless source file
  rwa [read_of_lex success] at lossless

/-- Reading a text into tokens is lossless: the tokens cover the whole text and close with the only
end of input, at the end of the text. If the reading fails, the tokens before the error cover the
text up to the place of the error. -/
theorem lex_covers_source (source : String) (file : Option String) :
    match lex source file with
    | .ok tokens =>
        Covers source.toList tokens source.length ∧
          ∃ front place, tokens = front ++ [⟨.finish, "", ⟨place, place⟩⟩] ∧
            place.offset = source.length ∧ ∀ token ∈ front, token.isFinish = false
    | .error error =>
        ∃ span, error.span = some span ∧ span.start.offset < source.length ∧
          Covers source.toList (read source file).tokens span.start.offset ∧
          ∀ token ∈ (read source file).tokens, token.isFinish = false := by
  have lossless := read_lossless source file
  rw [Reading.Lossless, String.length_toList] at lossless
  unfold lex
  cases failure : (read source file).error with
  | none => simpa [failure] using lossless
  | some error => simpa [failure] using lossless

end Lexer

end Scriptlet
