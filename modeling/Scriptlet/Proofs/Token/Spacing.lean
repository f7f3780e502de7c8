import Scriptlet.Proofs.Token.Coverage

/-!
# Tokens do not depend on layout

The lexemes of a text can be written again with other layout between them: they are read as the same
tokens.  Each lexeme ends where the next character is layout, whatever stood after it before, so it
stands for itself wherever layout or the end of the text follows.
-/

namespace Scriptlet

namespace Text

/-- The code points in a list of ranges. -/
def points (ranges : List (Nat × Nat)) : List Nat :=
  ranges.flatMap fun range => List.range' range.1 (range.2 + 1 - range.1)

theorem mem_points_of_inRanges {ranges : List (Nat × Nat)} {n : Nat}
    (inside : inRanges ranges n = true) : n ∈ points ranges := by
  induction ranges with
  | nil => cases inside
  | cons range rest ih =>
      obtain ⟨low, high⟩ := range
      rw [points, List.flatMap_cons, List.mem_append]
      unfold inRanges at inside
      split at inside
      · cases inside
      · split at inside
        · left
          rw [List.mem_range'_1]
          omega
        · exact Or.inr (ih inside)

/-- White space and the mark of a comment: the characters with which layout starts. -/
def startsLayout (c : Char) : Bool :=
  isBlank c || c == '#'

theorem startsLayout_cases {c : Char} (layout : startsLayout c = true) :
    c.toNat ∈ points blankRanges ∨ c = '#' := by
  simp only [startsLayout, Bool.or_eq_true, beq_iff_eq] at layout
  rcases layout with blank | mark
  · exact Or.inl (mem_points_of_inRanges blank)
  · exact Or.inr mark

/-- No character that starts layout belongs to a name. -/
theorem not_isNamePart_of_startsLayout {c : Char} (layout : startsLayout c = true) :
    isNamePart c = false := by
  have blanks : ∀ n ∈ points blankRanges,
      (inRanges letterRanges n || inRanges numericRanges n) = false ∧ n ≠ '_'.toNat := by
    decide +kernel
  rcases startsLayout_cases layout with blank | rfl
  · obtain ⟨notAlphanumeric, notUnderscore⟩ := blanks c.toNat blank
    have different : c ≠ '_' := fun same => notUnderscore (congrArg Char.toNat same)
    simp only [isNamePart, isAlphanumeric, isLetter, isNumeric, notAlphanumeric, Bool.false_or,
      beq_eq_false_iff_ne]
    exact different
  · decide +kernel

/-- No character that starts layout is a given visible ASCII character other than the mark of a
comment. -/
theorem ne_of_startsLayout {c d : Char} (layout : startsLayout c = true)
    (visible : startsLayout d = false) : c ≠ d := by
  rintro rfl
  rw [layout] at visible
  cases visible

theorem not_isDigit_of_startsLayout {c : Char} (layout : startsLayout c = true) :
    isDigit c = false := by
  have blanks : ∀ n ∈ points blankRanges, ¬ ('0'.toNat ≤ n ∧ n ≤ '9'.toNat) := by
    decide +kernel
  rcases startsLayout_cases layout with blank | rfl
  · have outside := blanks c.toNat blank
    simp only [isDigit, Bool.and_eq_false_iff, decide_eq_false_iff_not]
    by_contra inside
    rw [not_or, not_not, not_not] at inside
    exact outside inside
  · decide

end Text

/-- What a token is without its place: what it stands for, and its lexeme. -/
def Token.content (token : Token) : Lexical × String :=
  (token.lexical, token.lexeme)

/-- The token with the same content that starts at a given place. -/
def Token.movedTo (token : Token) (place : Location) : Token :=
  ⟨token.lexical, token.lexeme, ⟨place, place.after token.lexeme.toList⟩⟩

@[simp]
theorem Token.content_movedTo (token : Token) (place : Location) :
    (token.movedTo place).content = token.content := rfl

namespace Lexer

open Text

/-! ## Layout after a lexeme -/

/-- Text after which a lexeme cannot go on: nothing, or text that starts with layout. -/
def Detached (rest : List Char) : Prop :=
  ∀ c ∈ rest.head?, startsLayout c = true

theorem Layout.detached {gap : List Char} (layout : Layout gap) {rest : List Char}
    (covered : gap = [] → Detached rest) : Detached (gap ++ rest) := by
  cases layout with
  | nil => exact covered rfl
  | blank blank _ =>
      intro c found
      obtain rfl := Option.some.inj found
      simp [startsLayout, blank]
  | comment _ _ =>
      intro c found
      obtain rfl := Option.some.inj found
      decide

/-- Skipping stops at the first character that does not start layout. -/
theorem skipLayout_append {gap rest : List Char} (layout : Layout gap)
    (visible : ∀ c ∈ rest.head?, startsLayout c = false) (place : Location) :
    skipLayout false place (gap ++ rest) = (place.after gap, rest) := by
  have within (body more : List Char) (inside : '\n' ∉ body) (place : Location) :
      skipLayout true place (body ++ '\n' :: more) =
        skipLayout false (place.after (body ++ ['\n'])) more := by
    induction body generalizing place with
    | nil => rfl
    | cons c body ih =>
        have notFeed : (c != '\n') = true := by
          rw [bne_iff_ne]
          rintro rfl
          exact inside List.mem_cons_self
        have insideRest : '\n' ∉ body := fun found => inside (List.mem_cons_of_mem _ found)
        rw [List.cons_append, skipLayout, notFeed, ih insideRest]
        rfl
  induction layout generalizing place with
  | nil =>
      cases rest with
      | nil => rfl
      | cons c rest =>
          have notLayout := visible c rfl
          simp only [startsLayout, Bool.or_eq_false_iff, beq_eq_false_iff_ne] at notLayout
          simp [skipLayout, notLayout.1, notLayout.2]
  | @blank c gap blank _ ih =>
      rw [List.cons_append, skipLayout, if_pos blank, ih]
      rfl
  | @comment body gap inside _ ih =>
      have notBlank : isBlank '#' = false := by decide
      have mark : skipLayout false place ('#' :: body ++ '\n' :: gap ++ rest) =
          skipLayout true (place.advance '#') (body ++ '\n' :: (gap ++ rest)) := by
        simp [skipLayout, notBlank]
      rw [mark, within body (gap ++ rest) inside, ih]
      simp [Location.after_append]

theorem not_startsLayout_of_skipLayout {comment : Bool} {place stop : Location} {text : List Char}
    {c : Char} {rest : List Char} (skipped : skipLayout comment place text = (stop, c :: rest)) :
    startsLayout c = false := by
  induction text generalizing comment place with
  | nil => cases skipped
  | cons d text ih =>
      cases comment with
      | true => exact ih skipped
      | false =>
          rw [skipLayout] at skipped
          split at skipped
          · exact ih skipped
          · split at skipped
            · exact ih skipped
            · rename_i notBlank notMark
              cases skipped
              simp [startsLayout, notBlank, notMark]

/-! ## Lexemes that stand alone -/

/-- A lexeme that is read with the given meaning in front of every text that starts with layout. -/
def StandsFor (lexeme : List Char) (lexical : Lexical) : Prop :=
  ∃ c tail, lexeme = c :: tail ∧ startsLayout c = false ∧
    ∀ rest, Detached rest → takePiece c (tail ++ rest) = .ok ⟨lexeme, lexical, rest⟩

/-- The inside of a text is read up to its closing quote only. -/
theorem textBody_detach {mark : Char} {value read text : List Char}
    {outcome : List Char × List Char × List Char}
    (body : textBody mark value read text = some outcome) :
    ∃ used, outcome.2.1 = read.reverse ++ used ∧
      ∀ rest, textBody mark value read (used ++ rest) = some (outcome.1, outcome.2.1, rest) := by
  fun_induction textBody mark value read text with
  | case1 | case2 => cases body
  | case3 value read c text ih =>
      obtain ⟨used, read_eq, again⟩ := ih body
      refine ⟨'\\' :: c :: used, by simpa using read_eq, fun rest => ?_⟩
      rw [← again rest]
      simp [textBody]
  | case4 value read text _ _ =>
      obtain rfl := Option.some.inj body
      refine ⟨[mark], by simp, fun rest => ?_⟩
      have notEscape : mark ≠ '\\' := by
        rintro rfl
        cases text <;> simp_all
      unfold textBody
      split <;> simp_all
  | case5 value read c text _ _ inside ih =>
      obtain ⟨used, read_eq, again⟩ := ih body
      refine ⟨c :: used, by simpa using read_eq, fun rest => ?_⟩
      have notEscape : c ≠ '\\' := by
        rintro rfl
        cases text <;> simp_all
      rw [← again rest, List.cons_append]
      conv => lhs; unfold textBody
      split <;> simp_all

/-- A run of a name ends in front of whatever no name goes on with. -/
theorem nameRun_append_of_stops {rest : List Char} (ends : nameRun rest = ([], rest))
    (text : List Char) : nameRun ((nameRun text).1 ++ rest) = ((nameRun text).1, rest) := by
  have alone {c : Char} (part : isNamePart c = true) : nameRun (c :: rest) = ([c], rest) := by
    cases rest with
    | nil => simp [nameRun, part]
    | cons d more => simp [nameRun, part, ends]
  fun_induction nameRun text with
  | case1 => exact ends
  | case2 c part => exact alone part
  | case3 => exact ends
  | case4 c next tail continues run after run_eq ih =>
      rw [run_eq] at ih
      cases run with
      | nil =>
          -- A point is followed by the start of a name, which is not the end of the run.
          have part : isNamePart c = true := by
            rcases Bool.or_eq_true_iff.mp continues with part | point
            · exact part
            · have starts : isNameStart next = true := by
                simpa using (Bool.and_eq_true_iff.mp point).2
              exact absurd (congrArg Prod.fst run_eq) (nameRun_ne_nil starts)
          exact alone part
      | cons first run =>
          have same : first = next := by
            have text_eq := nameRun_append (next :: tail)
            rw [run_eq] at text_eq
            exact (List.cons.inj text_eq).1
          subst same
          change nameRun (c :: first :: (run ++ rest)) = _
          rw [nameRun, if_pos continues]
          exact congrArg (fun read => (c :: read.1, read.2)) ih
  | case5 => exact ends

section Runs

variable {rest : List Char} (detached : Detached rest)

include detached

theorem takeWhile_append_detached {p : Char → Bool} {run : List Char} (all : ∀ c ∈ run, p c = true)
    (stops : ∀ c, startsLayout c = true → p c = false) :
    (run ++ rest).takeWhile p = run ∧ (run ++ rest).dropWhile p = rest := by
  have ends : rest.takeWhile p = [] ∧ rest.dropWhile p = rest := by
    cases rest with
    | nil => exact ⟨rfl, rfl⟩
    | cons c rest =>
        have stop := stops c (detached c rfl)
        simp [stop]
  rw [List.takeWhile_append_of_pos all, List.dropWhile_append_of_pos all, ends.1, ends.2]
  exact ⟨List.append_nil run, rfl⟩

theorem numberRun_detach (text : List Char) :
    numberRun ((numberRun text).1 ++ rest) = ((numberRun text).1, rest) := by
  have digits (text : List Char) : ∀ c ∈ text.takeWhile isDigit, isDigit c = true :=
    List.all_eq_true.mp List.all_takeWhile
  have stops (c : Char) : startsLayout c = true → isDigit c = false :=
    not_isDigit_of_startsLayout
  have whole (more : List Char) : numberRun (text.takeWhile isDigit ++ '.' :: more) =
      (text.takeWhile isDigit ++ '.' :: more.takeWhile isDigit, more.dropWhile isDigit) := by
    have point : isDigit '.' = false := by decide
    unfold numberRun
    rw [List.takeWhile_append_of_pos (digits text), List.dropWhile_append_of_pos (digits text)]
    simp [point]
  conv => lhs; arg 1; unfold numberRun
  conv => rhs; unfold numberRun
  split
  · rename_i tail _
    obtain ⟨fraction, after⟩ := takeWhile_append_detached detached (digits tail) stops
    rw [List.append_assoc, List.cons_append, whole, fraction, after]
  · obtain ⟨number, after⟩ := takeWhile_append_detached detached (digits text) stops
    unfold numberRun
    rw [number, after]
    split
    · exact absurd (detached '.' rfl) (by decide)
    · rfl

theorem nameRun_detach (text : List Char) :
    nameRun ((nameRun text).1 ++ rest) = ((nameRun text).1, rest) := by
  refine nameRun_append_of_stops ?_ text
  match rest, detached with
  | [], _ => rfl
  | [c], detached => simp [nameRun, not_isNamePart_of_startsLayout (detached c rfl)]
  | c :: next :: more, detached =>
      have notPoint : c ≠ '.' := ne_of_startsLayout (detached c rfl) (by decide)
      simp [nameRun, not_isNamePart_of_startsLayout (detached c rfl), notPoint]

theorem leading?_detach (symbol : Symbol) :
    Symbol.leading? (symbol.chars ++ rest) = some symbol := by
  cases rest with
  | nil => cases symbol <;> decide
  | cons d more =>
      -- Only an equals sign could make a longer symbol of a symbol of one character.
      have different : '=' ≠ d := (ne_of_startsLayout (detached d rfl) (by decide)).symm
      cases symbol <;> simp [Symbol.leading?, Symbol.all, Symbol.chars, List.isPrefixOf, different]

end Runs

/-- The first character of a run that is not empty. -/
theorem exists_cons_of_append {c : Char} {text run after : List Char} (nonempty : run ≠ [])
    (append : run ++ after = c :: text) : ∃ tail, run = c :: tail ∧ text = tail ++ after := by
  cases run with
  | nil => exact absurd rfl nonempty
  | cons d tail =>
      obtain ⟨rfl, rfl⟩ := List.cons.inj append
      exact ⟨tail, rfl, rfl⟩

/-- Where a name starts, what follows does not make it a number. -/
theorem startsNumber_of_isNameStart {c : Char} {text : List Char} (starts : isNameStart c = true)
    (notNumber : ¬ startsNumber c text = true) (rest : List Char) :
    startsNumber c rest = false := by
  have notPoint : c ≠ '.' := by
    rintro rfl
    exact absurd starts (by decide +kernel)
  have notDigit : isDigit c = false := by
    simpa [startsNumber, notPoint] using notNumber
  simp [startsNumber, notPoint, notDigit]

/-- A number goes on to be one: a point at its start is followed by a digit of its own. -/
theorem startsNumber_append {c : Char} {text tail : List Char} (starts : startsNumber c text = true)
    (run_eq : (numberRun (c :: text)).1 = c :: tail) (rest : List Char) :
    startsNumber c (tail ++ rest) = true := by
  by_cases digit : isDigit c = true
  · simp [startsNumber, digit]
  · simp only [startsNumber, digit, Bool.false_or, Bool.and_eq_true, decide_eq_true_eq] at starts
    obtain ⟨rfl, headDigit⟩ := starts
    have point : isDigit '.' = false := by decide
    have tail_eq : tail = text.takeWhile isDigit := by
      simpa [numberRun, point] using run_eq.symm
    cases text with
    | nil => cases headDigit
    | cons d text =>
        have first : isDigit d = true := headDigit
        simp [startsNumber, tail_eq, first]

/-- Whatever is taken off a text stands alone. -/
theorem takePiece_standsFor {c : Char} {text : List Char} {piece : Piece}
    (taken : takePiece c text = .ok piece) (visible : startsLayout c = false) :
    StandsFor piece.lexeme piece.lexical := by
  unfold takePiece at taken
  split at taken
  · rename_i quote
    split at taken
    · rename_i value read after body
      obtain rfl := Except.ok.inj taken
      obtain ⟨used, read_eq, again⟩ := textBody_detach body
      obtain rfl : read = used := by simpa using read_eq
      refine ⟨c, read, rfl, visible, fun rest _ => ?_⟩
      simp [takePiece, quote, again rest]
    · cases taken
  rename_i notQuote
  split at taken
  · rename_i starts
    have again (rest : List Char) (detached : Detached rest) :=
      numberRun_detach detached (c :: text)
    have append := numberRun_append (c :: text)
    have nonempty := numberRun_ne_nil starts
    have goesOn (tail : List Char) : (numberRun (c :: text)).1 = c :: tail →
        ∀ rest, startsNumber c (tail ++ rest) = true := startsNumber_append starts
    generalize numberRun (c :: text) = read at taken again append nonempty goesOn
    obtain rfl := Except.ok.inj taken
    obtain ⟨tail, run_eq, -⟩ := exists_cons_of_append nonempty append
    refine ⟨c, tail, run_eq, visible, fun rest detached => ?_⟩
    have readAgain := again rest detached
    rw [run_eq, List.cons_append] at readAgain
    simp [takePiece, notQuote, goesOn tail run_eq rest, readAgain, run_eq]
  rename_i notNumber
  split at taken
  · rename_i starts
    obtain rfl := Except.ok.inj taken
    obtain ⟨tail, run_eq, -⟩ :=
      exists_cons_of_append (nameRun_ne_nil starts) (nameRun_append (c :: text))
    refine ⟨c, tail, run_eq, visible, fun rest detached => ?_⟩
    have again := nameRun_detach detached (c :: text)
    rw [run_eq, List.cons_append] at again
    have noNumber := startsNumber_of_isNameStart starts notNumber
    simp [takePiece, notQuote, noNumber, starts, again, run_eq]
  rename_i notName
  split at taken
  · rename_i symbol leading
    obtain rfl := Except.ok.inj taken
    obtain ⟨nonempty, append⟩ := leading?_spec leading
    obtain ⟨tail, run_eq, -⟩ := exists_cons_of_append nonempty append
    refine ⟨c, tail, run_eq, visible, fun rest detached => ?_⟩
    have again := leading?_detach detached symbol
    rw [run_eq, List.cons_append] at again
    have notNumberAgain : startsNumber c (tail ++ rest) = false := by
      cases symbol <;> cases run_eq <;> rfl
    simp [takePiece, notQuote, notNumberAgain, notName, again, run_eq]
  · cases taken

/-! ## Reading -/

/-- The tokens of a text are lexemes that stand alone, before the end of the input. -/
theorem readFrom_standsFor (source : String) (fuel : Nat) (place : Location) (text : List Char)
    (tokens : List Token) (enough : text.length < fuel)
    (success : (readFrom source fuel place text tokens).error = none) :
    ∃ words stop, (readFrom source fuel place text tokens).tokens =
        tokens.reverse ++ words ++ [⟨.finish, "", ⟨stop, stop⟩⟩] ∧
      ∀ word ∈ words, StandsFor word.lexeme.toList word.lexical := by
  induction fuel generalizing place text tokens with
  | zero => omega
  | succ fuel ih =>
      unfold readFrom at success ⊢
      split at success
      · rename_i stop skipped
        exact ⟨[], stop, by simp, by simp⟩
      · rename_i start c rest skipped
        split at success
        · cases success
        · rename_i piece taken
          have shorter := (takePiece_spec taken).rest_length_lt
          have skipped_le := skipLayout_length_le place text
          simp only [skipped] at skipped_le
          obtain ⟨words, stop, tokens_eq, stand⟩ := ih _ _ _ (by omega) success
          have first := takePiece_standsFor taken (not_startsLayout_of_skipLayout skipped)
          refine ⟨_ :: words, stop, by simpa using tokens_eq, ?_⟩
          intro word found
          rcases List.mem_cons.mp found with rfl | found
          · simpa using first
          · exact stand word found

/-- Lexemes written out with layout around them: `gaps i` stands in front of the first of them. -/
def spread (gaps : Nat → List Char) : (i : Nat) → List Token → List Char
  | i, [] => gaps i
  | i, word :: rest => gaps i ++ (word.lexeme.toList ++ spread gaps (i + 1) rest)

/-- After a lexeme stands layout or the end of the text. -/
theorem spread_detached {gaps : Nat → List Char} (layout : ∀ i, Layout (gaps i)) {i : Nat}
    {words : List Token} (apart : words ≠ [] → gaps i ≠ []) :
    Detached (spread gaps i words) := by
  cases words with
  | nil =>
      rw [spread, ← List.append_nil (gaps i)]
      exact (layout i).detached fun _ c found => by cases found
  | cons word rest =>
      exact (layout i).detached fun empty => absurd empty (apart (List.cons_ne_nil _ _))

/-- Lexemes that stand alone are read again, whatever layout stands between them. -/
theorem readFrom_spread (source : String) {gaps : Nat → List Char} (layout : ∀ i, Layout (gaps i))
    (words : List Token) (stand : ∀ word ∈ words, StandsFor word.lexeme.toList word.lexical)
    (i : Nat) (apart : ∀ j, i < j → j < i + words.length → gaps j ≠ [])
    (fuel : Nat) (place : Location) (tokens : List Token)
    (enough : (spread gaps i words).length < fuel) :
    ∃ again stop, readFrom source fuel place (spread gaps i words) tokens =
        ⟨tokens.reverse ++ again ++ [⟨.finish, "", ⟨stop, stop⟩⟩], none⟩ ∧
      again.map Token.content = words.map Token.content := by
  induction words generalizing i fuel place tokens with
  | nil =>
      have skipped : skipLayout false place (gaps i) = (place.after (gaps i), []) := by
        simpa using skipLayout_append (layout i) (show ∀ c ∈ [].head?, _ by simp) place
      obtain ⟨fuel, rfl⟩ : ∃ less, fuel = less + 1 := ⟨fuel - 1, by omega⟩
      refine ⟨[], place.after (gaps i), ?_, rfl⟩
      simp [spread, readFrom, skipped]
  | cons word rest ih =>
      obtain ⟨c, tail, lexeme_eq, visible, alone⟩ := stand word List.mem_cons_self
      have detached : Detached (spread gaps (i + 1) rest) := by
        refine spread_detached layout fun more => ?_
        have positive := List.length_pos_iff.mpr more
        exact apart (i + 1) (by omega) (by simp only [List.length_cons]; omega)
      have text_eq : spread gaps i (word :: rest) =
          gaps i ++ c :: (tail ++ spread gaps (i + 1) rest) := by
        rw [spread, lexeme_eq, List.cons_append]
      have skipped : skipLayout false place (gaps i ++ c :: (tail ++ spread gaps (i + 1) rest)) =
          (place.after (gaps i), c :: (tail ++ spread gaps (i + 1) rest)) :=
        skipLayout_append (layout i) (by simpa using visible) place
      obtain ⟨fuel, rfl⟩ : ∃ less, fuel = less + 1 := ⟨fuel - 1, by omega⟩
      rw [text_eq] at enough ⊢
      simp only [List.length_append, List.length_cons] at enough
      obtain ⟨again, stop, read_eq, same⟩ := ih
        (fun other found => stand other (List.mem_cons_of_mem _ found)) (i + 1)
        (fun j above below => apart j (by omega) (by simp only [List.length_cons]; omega)) fuel
        ((place.after (gaps i)).after word.lexeme.toList)
        (word.movedTo (place.after (gaps i)) :: tokens) (by omega)
      refine ⟨word.movedTo (place.after (gaps i)) :: again, stop, ?_, by simp [same]⟩
      rw [readFrom, skipped]
      simp only [alone _ detached, String.ofList_toList]
      simpa [Token.movedTo] using read_eq

/-- Tokens are determined by their lexemes: whatever layout a text has in front of, after and, not
empty, between its lexemes, it is read as tokens with the same lexemes that stand for the same. -/
theorem lex_spread {source : String} {file : Option String} {tokens : List Token}
    (success : lex source file = .ok tokens) (gaps : Nat → List Char)
    (layout : ∀ i, Layout (gaps i)) (apart : ∀ i, 0 < i → i + 1 < tokens.length → gaps i ≠ [])
    (other : Option String) :
    ∃ again, lex (String.ofList (spread gaps 0 tokens.dropLast)) other = .ok again ∧
      again.map Token.content = tokens.map Token.content := by
  unfold lex at success
  dsimp only at success
  split at success
  · cases success
  · rename_i noError
    obtain rfl := Except.ok.inj success
    obtain ⟨words, stop, tokens_eq, stand⟩ := readFrom_standsFor source (source.length + 1)
      (Location.start file) source.toList [] (by rw [String.length_toList]; omega) noError
    rw [List.reverse_nil, List.nil_append] at tokens_eq
    change (read source file).tokens = _ at tokens_eq
    rw [tokens_eq] at apart ⊢
    rw [List.dropLast_concat]
    have apart : ∀ j, 0 < j → j < 0 + words.length → gaps j ≠ [] := fun j above below =>
      apart j above (by rw [List.length_append, List.length_singleton]; omega)
    obtain ⟨again, last, read_eq, same⟩ := readFrom_spread
      (String.ofList (spread gaps 0 words)) layout words stand 0 apart
      ((String.ofList (spread gaps 0 words)).length + 1) (Location.start other) []
      (by rw [String.length_ofList]; omega)
    refine ⟨again ++ [⟨.finish, "", ⟨last, last⟩⟩], ?_, by simp [same, Token.content]⟩
    have reading : read (String.ofList (spread gaps 0 words)) other =
        ⟨again ++ [⟨.finish, "", ⟨last, last⟩⟩], none⟩ := by
      rw [read, String.toList_ofList]
      simpa using read_eq
    simp [lex, reading]

/-- A text without layout, and its lexemes with comments around them. -/
theorem lex_spread_comments :
    ∃ tokens again, lex "f=.5>='#'" none = .ok tokens ∧
      lex " #\nf #\n= #\n.5 #\n>= #\n'#' #\n" none = .ok again ∧
      again.map Token.content = tokens.map Token.content := by
  have layout : Layout [' ', '#', '\n'] := .blank rfl (@Layout.comment [] [] (by simp) .nil)
  obtain ⟨tokens, lexed⟩ : ∃ tokens, lex "f=.5>='#'" none = .ok tokens := ⟨_, rfl⟩
  obtain ⟨again, success, same⟩ := lex_spread lexed (fun _ => [' ', '#', '\n'])
    (fun _ => layout) (fun _ _ _ => List.cons_ne_nil _ _) none
  refine ⟨tokens, again, lexed, ?_, same⟩
  rw [← success]
  obtain rfl := Except.ok.inj lexed
  rfl

end Lexer

end Scriptlet
