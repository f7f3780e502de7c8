import Scriptlet.Proofs.Token.Places
import Scriptlet.Proofs.Tree.Nesting

/-!
# Order of tokens

The tokens of a text stand one after the other, none of them is empty but the last, and a name is as
wide as its path and starts with a letter or an underscore.
-/

namespace Scriptlet

/-- Tokens stand one after the other.  Only the last may be empty, and a name stands on one line and
opens with a segment that is not empty. -/
structure Token.InOrder (tokens : List Token) : Prop where
  increase : tokens.Pairwise fun first second => first.span.Precedes second.span
  nonempty : ∀ token ∈ tokens.dropLast, token.span.start.offset < token.span.stop.offset
  names : ∀ token ∈ tokens, ∀ path, token.lexical = .name path →
    token.span.stop = token.span.start.shift path.length ∧
      ∃ c rest, path.toList = c :: rest ∧ c ≠ '.'

namespace Lexer

open Text

/-- A path of names: it starts with a name, and it is made of names and dots. -/
def IsPath (path : List Char) : Prop :=
  (∃ c rest, path = c :: rest ∧ isNameStart c = true) ∧
    ∀ c ∈ path, isNamePart c = true ∨ c = '.'

theorem nameRun_cons {c : Char} (rest : List Char) (starts : isNameStart c = true) :
    ∃ run, (nameRun (c :: rest)).1 = c :: run := by
  have part := isNamePart_of_isNameStart starts
  cases rest with
  | nil => exact ⟨[], by simp [nameRun, part]⟩
  | cons next rest => exact ⟨(nameRun (next :: rest)).1, by simp [nameRun, part]⟩

theorem IsPath.of_nameRun {c : Char} (rest : List Char) (starts : isNameStart c = true) :
    IsPath (nameRun (c :: rest)).1 := by
  obtain ⟨run, run_eq⟩ := nameRun_cons rest starts
  refine ⟨⟨c, run, run_eq, starts⟩, fun d found => ?_⟩
  by_contra other
  obtain ⟨hidden, noDot⟩ := not_or.mp other
  exact not_mem_nameRun (by simpa using hidden) noDot _ found

theorem IsPath.head_ne_dot {path : List Char} (isPath : IsPath path) :
    ∃ c rest, path = c :: rest ∧ c ≠ '.' := by
  obtain ⟨⟨c, rest, path_eq, starts⟩, -⟩ := isPath
  refine ⟨c, rest, path_eq, ?_⟩
  rintro rfl
  revert starts
  decide

/-- What is read as a name is a path of names. -/
theorem isPath_of_takePiece {c : Char} {rest : List Char} {piece : Piece} {path : String}
    (taken : takePiece c rest = .ok piece) (name : piece.lexical = .name path) :
    IsPath path.toList := by
  obtain ⟨starts, lexeme_eq, path_eq⟩ := takePiece_nameRun taken name
  rw [path_eq, String.toList_ofList, lexeme_eq]
  exact .of_nameRun rest starts

/-- What holds of every lexeme that is taken off a text, and of the end of the input, holds of all
tokens of a reading. -/
theorem readFrom_tokens {holds : List Char → Lexical → Prop} (atEnd : holds [] .finish)
    (taken : ∀ c rest piece, takePiece c rest = .ok piece → holds piece.lexeme piece.lexical)
    (source : String) (fuel : Nat) (place : Location) (text : List Char) {tokens : List Token}
    (known : ∀ token ∈ tokens, holds token.lexeme.toList token.lexical) :
    ∀ token ∈ (readFrom source fuel place text tokens).tokens,
      holds token.lexeme.toList token.lexical := by
  induction fuel generalizing place text tokens with
  | zero => simpa [readFrom] using known
  | succ fuel ih =>
      unfold readFrom
      split
      · simpa [or_imp, forall_and, atEnd] using known
      · rename_i c rest skipped
        split
        · simpa using known
        · rename_i piece run
          refine ih _ _ fun token found => ?_
          rcases List.mem_cons.mp found with rfl | earlier
          · rw [String.toList_ofList]
            exact taken c rest piece run
          · exact known token earlier

theorem tokens_of_lex {holds : List Char → Lexical → Prop} (atEnd : holds [] .finish)
    (taken : ∀ c rest piece, takePiece c rest = .ok piece → holds piece.lexeme piece.lexical)
    {source : String} {file : Option String} {tokens : List Token}
    (success : lex source file = .ok tokens) :
    ∀ token ∈ tokens, holds token.lexeme.toList token.lexical := by
  have found := readFrom_tokens atEnd taken source (source.length + 1) (Location.start file)
    source.toList (List.forall_mem_nil _)
  have reading := read_of_lex success
  unfold read at reading
  rwa [reading] at found

/-- Every name among the tokens of a text is a path of names. -/
theorem isPath_of_lex {source : String} {file : Option String} {tokens : List Token}
    (success : lex source file = .ok tokens) {token : Token} (found : token ∈ tokens)
    {path : String} (name : token.lexical = .name path) : IsPath path.toList := by
  let holds (_ : List Char) (lexical : Lexical) : Prop :=
    ∀ path, lexical = .name path → IsPath path.toList
  have atEnd : holds [] .finish := fun path finish => by cases finish
  have taken : ∀ c rest piece, takePiece c rest = .ok piece → holds piece.lexeme piece.lexical :=
    fun _ _ _ run _ name => isPath_of_takePiece run name
  exact tokens_of_lex atEnd taken success token found path name

/-- The tokens of a text end once and stand in order. -/
theorem inOrder_of_lex {source : String} {file : Option String} {tokens : List Token}
    (success : lex source file = .ok tokens) : Token.InOrder tokens := by
  obtain ⟨covers, front, place, tokens_eq, -, single⟩ := covers_of_lex success
  have stand := lex_standsIn source file
  rw [success] at stand
  refine ⟨covers.ordered, ?_, ?_⟩
  · intro token found
    have inFront : token ∈ front := by simpa [tokens_eq] using found
    have among := List.dropLast_subset _ found
    obtain ⟨before, -, span_eq⟩ := (stand token among).placed
    obtain ⟨c, rest, lexeme_eq, -⟩ := (stand token among).opens (single token inFront)
    simp [span_eq, lexeme_eq]
  · intro token found path name
    obtain ⟨before, -, span_eq⟩ := (stand token found).placed
    obtain ⟨path_eq, flat⟩ := (stand token found).flat path name
    refine ⟨?_, (isPath_of_lex success found name).head_ne_dot⟩
    rw [span_eq, Location.after_append, ← path_eq, Location.after_eq_shift flat,
      String.length_toList]

end Lexer

end Scriptlet
