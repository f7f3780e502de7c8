import Mathlib.Data.List.DropRight
import Scriptlet.Proofs.Token.Spacing

/-!
# Places of tokens

A location is found by counting: its line is one more than the number of line feeds in front of its
offset, and its column one more than the number of characters since the last of them.  The lexer
never counts like this, it moves a location over the characters that it takes.  Both agree, because
every location that it hands out is the start of the text moved over the characters in front of it.
-/

namespace Scriptlet

namespace Text

/-- The characters after the last line feed of a text. -/
def lastLine (text : List Char) : List Char :=
  text.rtakeWhile (· != '\n')

theorem lastLine_snoc_feed (text : List Char) : lastLine (text ++ ['\n']) = [] := by
  simp [lastLine]

theorem lastLine_snoc {c : Char} (text : List Char) (other : c ≠ '\n') :
    lastLine (text ++ [c]) = lastLine text ++ [c] := by
  simp [lastLine, other]

end Text

namespace Location

open Text

/-- A location agrees with its offset: the offset lies in the text, the line counts the line feeds
in front of it, and the column counts the characters after the last of them. -/
structure CountedIn (source : List Char) (place : Location) : Prop where
  offset_le : place.offset ≤ source.length
  line_eq : place.line = 1 + (source.take place.offset).count '\n'
  column_eq : place.column = 1 + (lastLine (source.take place.offset)).length

/-- A location that a walk over a text in a file reaches. -/
def ReachedIn (source : List Char) (file : Option String) (place : Location) : Prop :=
  ∃ front, front <+: source ∧ place = (start file).after front

/-- A location at a character that is no line feed. -/
def OpensIn (source : List Char) (file : Option String) (place : Location) : Prop :=
  ∃ front c back, source = front ++ c :: back ∧ c ≠ '\n' ∧ place = (start file).after front

theorem OpensIn.reachedIn {source : List Char} {file : Option String} {place : Location}
    (opens : place.OpensIn source file) : place.ReachedIn source file := by
  obtain ⟨front, c, back, rfl, -, place_eq⟩ := opens
  exact ⟨front, List.prefix_append .., place_eq⟩

theorem after_snoc (place : Location) (text : List Char) (c : Char) :
    place.after (text ++ [c]) = (place.after text).advance c :=
  place.after_append text [c]

/-- The walk over a text counts its line feeds and the characters after the last of them. -/
theorem start_after (file : Option String) (front : List Char) :
    (start file).after front =
      ⟨1 + front.count '\n', 1 + (lastLine front).length, front.length, file⟩ := by
  induction front using List.reverseRecOn with
  | nil => rfl
  | append_singleton front c ih =>
      rw [after_snoc, ih, advance]
      split
      · rename_i feed
        subst feed
        simp [lastLine_snoc_feed, List.count_append, Nat.add_assoc]
      · rename_i other
        have uncounted : [c].count '\n' = 0 := by simp [other]
        simp [lastLine_snoc _ other, List.count_append, uncounted, Nat.add_assoc]

theorem ReachedIn.countedIn {source : List Char} {file : Option String} {place : Location}
    (reached : place.ReachedIn source file) : place.CountedIn source := by
  obtain ⟨front, ⟨back, rfl⟩, rfl⟩ := reached
  rw [start_after]
  exact ⟨by simp, by simp, by simp⟩

/-- Over characters of one line a walk only widens the column. -/
theorem after_eq_shift {text : List Char} (flat : '\n' ∉ text) (place : Location) :
    place.after text = place.shift text.length := by
  induction text generalizing place with
  | nil => rfl
  | cons c text ih =>
      obtain ⟨other, rest_flat⟩ := not_or.mp (mt List.mem_cons.mpr flat)
      rw [after_cons, ih rest_flat, advance, if_neg (Ne.symm other)]
      simp [shift, Nat.add_assoc, Nat.add_comm 1]

end Location

/-! ## Tokens -/

/-- A token stands in a text: its lexeme is found there, between its start and its stop.  The lexeme
of a name is its path and stays on one line, and a lexeme, unless it is the empty one of the end of
the input, opens with a character that is no line feed. -/
structure Token.StandsIn (source : List Char) (file : Option String) (token : Token) : Prop where
  placed : ∃ front, front ++ token.lexeme.toList <+: source ∧
    token.span = ⟨(Location.start file).after front,
      (Location.start file).after (front ++ token.lexeme.toList)⟩
  flat : ∀ path, token.lexical = .name path → path = token.lexeme ∧ '\n' ∉ path.toList
  opens : token.isFinish = false → ∃ c rest, token.lexeme.toList = c :: rest ∧ c ≠ '\n'

namespace Token.StandsIn

variable {source : List Char} {file : Option String} {token : Token}

theorem start_reached (stands : token.StandsIn source file) :
    token.span.start.ReachedIn source file := by
  obtain ⟨front, inside, span_eq⟩ := stands.placed
  exact ⟨front, (List.prefix_append ..).trans inside, by rw [span_eq]⟩

theorem stop_reached (stands : token.StandsIn source file) :
    token.span.stop.ReachedIn source file := by
  obtain ⟨front, inside, span_eq⟩ := stands.placed
  exact ⟨_, inside, by rw [span_eq]⟩

/-- Every column inside of a name is found by widening its start. -/
theorem shift_reached (stands : token.StandsIn source file) {path : String}
    (name : token.lexical = .name path) {width : Nat} (width_le : width ≤ path.length) :
    (token.span.start.shift width).ReachedIn source file := by
  obtain ⟨front, inside, span_eq⟩ := stands.placed
  obtain ⟨rfl, flat⟩ := stands.flat path name
  have part_flat : '\n' ∉ token.lexeme.toList.take width :=
    fun found => flat (List.mem_of_mem_take found)
  refine ⟨front ++ token.lexeme.toList.take width, ?_, ?_⟩
  · exact ((List.prefix_append_right_inj front).mpr (List.take_prefix ..)).trans inside
  · rw [Location.after_append, Location.after_eq_shift part_flat, List.length_take,
      String.length_toList, Nat.min_eq_left width_le, span_eq]

theorem start_opens (stands : token.StandsIn source file) (unfinished : token.isFinish = false) :
    token.span.start.OpensIn source file := by
  obtain ⟨front, ⟨back, source_eq⟩, span_eq⟩ := stands.placed
  obtain ⟨c, rest, lexeme_eq, other⟩ := stands.opens unfinished
  refine ⟨front, c, rest ++ back, ?_, other, by rw [span_eq]⟩
  rw [← source_eq, lexeme_eq]
  simp

end Token.StandsIn

namespace Lexer

open Text

theorem not_mem_nameRun {c : Char} (visible : isNamePart c = false) (other : c ≠ '.')
    (text : List Char) : c ∉ (nameRun text).1 := by
  fun_induction nameRun text with
  | case1 => simp
  | case2 d part =>
      rintro found
      obtain rfl := List.mem_singleton.mp found
      rw [visible] at part
      cases part
  | case3 => simp
  | case4 d next rest continues run after run_eq ih =>
      rw [run_eq] at ih
      rintro found
      rcases List.mem_cons.mp found with rfl | later
      · simp [visible, other] at continues
      · exact ih later
  | case5 => simp

theorem ofWord_name {word path : String} (name : ofWord word = .name path) : path = word := by
  unfold ofWord at name
  split at name
  · cases name
  · exact (Lexical.name.inj name).symm

/-- What is read as a name is the run of name characters at a name start. -/
theorem takePiece_nameRun {c : Char} {rest : List Char} {piece : Piece} {path : String}
    (taken : takePiece c rest = .ok piece) (name : piece.lexical = .name path) :
    isNameStart c = true ∧ piece.lexeme = (nameRun (c :: rest)).1 ∧
      path = String.ofList piece.lexeme := by
  unfold takePiece at taken
  split at taken
  · split at taken <;> cases taken
    cases name
  split at taken
  · cases taken
    cases name
  split at taken
  · rename_i starts
    cases taken
    exact ⟨starts, rfl, ofWord_name name⟩
  · split at taken <;> cases taken
    cases name

/-- The lexeme of a name is its path and stays on one line. -/
theorem takePiece_name {c : Char} {rest : List Char} {piece : Piece} {path : String}
    (taken : takePiece c rest = .ok piece) (name : piece.lexical = .name path) :
    path = String.ofList piece.lexeme ∧ '\n' ∉ piece.lexeme := by
  have feed : isNamePart '\n' = false := not_isNamePart_of_startsLayout (by decide)
  obtain ⟨-, lexeme_eq, path_eq⟩ := takePiece_nameRun taken name
  exact ⟨path_eq, lexeme_eq ▸ not_mem_nameRun feed (by decide) _⟩

/-- The errors of the lexer are unterminated texts and unexpected characters. -/
theorem takePiece_cause {c : Char} {rest : List Char} {cause : Cause}
    (failed : takePiece c rest = .error cause) :
    cause = .unterminatedText ∨ cause = .unexpectedCharacter c := by
  unfold takePiece at failed
  split at failed
  · split at failed <;> cases failed
    exact Or.inl rfl
  split at failed
  · cases failed
  split at failed
  · cases failed
  · split at failed <;> cases failed
    exact Or.inr rfl

/-- An error of the lexer stands in its text: it starts at a character that is no line feed, for an
unexpected character at that character, and quotes the line that its location names. -/
def FaultIn (source : String) (file : Option String) (error : ScriptError) : Prop :=
  ∃ front c back, source.toList = front ++ c :: back ∧ c ≠ '\n' ∧
    (error.cause = .unterminatedText ∨ error.cause = .unexpectedCharacter c) ∧
    error.span = some (faultSpan error.cause ((Location.start file).after front) c back) ∧
    error.sourceLine = line? source ((Location.start file).after front).line

theorem FaultIn.reached {source : String} {file : Option String} {error : ScriptError}
    (fault : FaultIn source file error) :
    ∃ span, error.span = some span ∧ span.start.ReachedIn source.toList file ∧
      span.stop.ReachedIn source.toList file := by
  obtain ⟨front, c, back, source_eq, -, cause, span_eq, -⟩ := fault
  refine ⟨_, span_eq, ?_, ?_⟩
  · rw [faultSpan_start]
    exact ⟨front, ⟨_, source_eq.symm⟩, rfl⟩
  · rcases cause with cause | cause
    · rw [cause, faultSpan, ← Location.after_append, ← source_eq]
      exact ⟨_, List.prefix_rfl, rfl⟩
    · have stop_eq : (faultSpan error.cause ((Location.start file).after front) c back).stop =
          (Location.start file).after (front ++ [c]) := by
        rw [cause, Location.after_snoc]
        rfl
      exact ⟨front ++ [c], ⟨back, by rw [source_eq]; simp⟩, stop_eq⟩

/-- The tokens and the error of a reading stand in the text. -/
structure Reading.StandsIn (source : String) (file : Option String) (reading : Reading) :
    Prop where
  tokens : ∀ token ∈ reading.tokens, token.StandsIn source.toList file
  error : ∀ error ∈ reading.error, FaultIn source file error

/-- A lexeme that is taken after `front` stands there. -/
theorem standsIn_of_takePiece (front : List Char) {rest : List Char} {c : Char} {piece : Piece}
    (file : Option String) (other : c ≠ '\n') (taken : takePiece c rest = .ok piece) :
    Token.StandsIn (front ++ c :: rest) file
      ⟨piece.lexical, String.ofList piece.lexeme, ⟨(Location.start file).after front,
        (Location.start file).after (front ++ piece.lexeme)⟩⟩ := by
  have pieceTaken := takePiece_spec taken
  refine ⟨⟨front, ?_, ?_⟩, ?_, ?_⟩
  · rw [← pieceTaken.append_rest, String.toList_ofList, ← List.append_assoc]
    exact List.prefix_append ..
  · rw [String.toList_ofList]
  · intro path name
    obtain ⟨rfl, flat⟩ := takePiece_name taken name
    exact ⟨rfl, by rwa [String.toList_ofList]⟩
  · intro _
    obtain ⟨d, lexeme, lexeme_eq⟩ := List.exists_cons_of_ne_nil pieceTaken.nonempty
    have same : d = c := by
      have append := pieceTaken.append_rest
      rw [lexeme_eq] at append
      exact (List.cons.inj append).1
    exact ⟨d, lexeme, by rw [String.toList_ofList, lexeme_eq], same ▸ other⟩

/-- The reading keeps its place: what is left of the text begins where the walk over the characters
that have been taken ends. -/
theorem readFrom_standsIn {source : String} {file : Option String} (fuel : Nat)
    (front : List Char) {text : List Char} {tokens : List Token}
    (source_eq : source.toList = front ++ text)
    (stand : ∀ token ∈ tokens, token.StandsIn source.toList file) :
    (readFrom source fuel ((Location.start file).after front) text tokens).StandsIn source
      file := by
  induction fuel generalizing front text tokens with
  | zero => exact ⟨by simpa [readFrom] using stand, by simp [readFrom]⟩
  | succ fuel ih =>
      obtain ⟨gap, text_eq, place_eq, -⟩ :=
        (skipLayout_spec text).1 ((Location.start file).after front)
      rw [← Location.after_append] at place_eq
      unfold readFrom
      split
      · rename_i stop skipped
        simp only [skipped, List.append_nil] at text_eq place_eq
        refine ⟨?_, by simp⟩
        intro token found
        rcases List.mem_cons.mp (List.mem_reverse.mp found) with rfl | earlier
        · refine ⟨⟨front ++ gap, ?_, ?_⟩, by simp, by simp [Token.isFinish]⟩
          · simp [source_eq, text_eq]
          · simp [place_eq]
        · exact stand token earlier
      · rename_i stop c rest skipped
        have other : c ≠ '\n' :=
          ne_of_apply_ne startsLayout (by
            rw [not_startsLayout_of_skipLayout skipped]
            decide)
        simp only [skipped] at text_eq place_eq
        subst place_eq
        rw [text_eq, ← List.append_assoc] at source_eq
        split
        · rename_i cause failed
          refine ⟨by simpa using stand, ?_⟩
          intro error found
          obtain rfl := Option.some.inj found
          exact ⟨front ++ gap, c, rest, source_eq, other, takePiece_cause failed, rfl, rfl⟩
        · rename_i piece taken
          have pieceTaken := takePiece_spec taken
          have here := standsIn_of_takePiece (front ++ gap) file other taken
          rw [← source_eq] at here
          dsimp only
          rw [← Location.after_append]
          refine ih _ ?_ ?_
          · rw [source_eq, ← pieceTaken.append_rest, ← List.append_assoc]
          · intro token found
            rcases List.mem_cons.mp found with rfl | earlier
            · exact here
            · exact stand token earlier

/-- Reading places every token and every error where the text has it. -/
theorem read_standsIn (source : String) (file : Option String) :
    (read source file).StandsIn source file :=
  readFrom_standsIn _ [] rfl (by simp)

theorem lex_standsIn (source : String) (file : Option String) :
    match lex source file with
    | .ok tokens => ∀ token ∈ tokens, token.StandsIn source.toList file
    | .error error => FaultIn source file error := by
  have reading := read_standsIn source file
  unfold lex
  cases failure : (read source file).error with
  | none => simpa [failure] using reading.tokens
  | some error => simpa [failure] using reading.error error failure

end Lexer

end Scriptlet
