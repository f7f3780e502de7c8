import Scriptlet.Proofs.Number.Numeral
import Scriptlet.Proofs.Token.Order
import Scriptlet.Proofs.Token.Spacing

/-!
# The text of an item

A path of names with indices in brackets behind it is read as the words that it looks like: the
path, and for each index the brackets and the number of its digits.
-/

namespace Scriptlet

open Text

/-! ## Texts -/

/-- Indices in brackets. -/
def bracketed : List Nat → List Char
  | [] => []
  | index :: rest => '[' :: (Nat.toDigits 10 index ++ ']' :: bracketed rest)

/-- The text of an item: a path with indices behind it, such as `grid[1][20]`. -/
def itemName (base : String) (indices : List Nat) : String :=
  String.ofList (base.toList ++ bracketed indices)

/-- The number that the digits of an index stand for. -/
def indexNumber (index : Nat) : Float :=
  Number.ofLexeme (Nat.toDigits 10 index)

/-- The words of indices in brackets. -/
def indexWords : List Nat → List Lexical
  | [] => []
  | index :: rest =>
      .symbol .openBracket :: .number (indexNumber index) :: .symbol .closeBracket ::
        indexWords rest

namespace Lexer

/-! ## Lexemes without layout between them -/

/-- A text that is read as words one behind the other, without layout. -/
inductive Adjoins : List Char → List Lexical → Prop
  | nil : Adjoins [] []
  | cons {c : Char} {rest : List Char} {piece : Piece} {words : List Lexical}
      (visible : startsLayout c = false) (taken : takePiece c rest = .ok piece)
      (later : Adjoins piece.rest words) : Adjoins (c :: rest) (piece.lexical :: words)

theorem readFrom_of_adjoins (source : String) {text : List Char} {words : List Lexical}
    (adjoins : Adjoins text words) (fuel : Nat) (place : Location) (tokens : List Token)
    (enough : text.length < fuel) :
    ∃ again, readFrom source fuel place text tokens = ⟨tokens.reverse ++ again, none⟩ ∧
      again.map Token.lexical = words ++ [.finish] := by
  induction adjoins generalizing fuel place tokens with
  | nil =>
      obtain ⟨fuel, rfl⟩ : ∃ less, fuel = less + 1 := ⟨fuel - 1, by omega⟩
      exact ⟨[⟨.finish, "", ⟨place, place⟩⟩], by simp [readFrom, skipLayout], rfl⟩
  | @cons c rest piece words visible taken later ih =>
      obtain ⟨fuel, rfl⟩ : ∃ less, fuel = less + 1 := ⟨fuel - 1, by omega⟩
      have skipped : skipLayout false place (c :: rest) = (place, c :: rest) :=
        skipLayout_append .nil (by simpa using visible) place
      have shorter := (takePiece_spec taken).rest_length_lt
      obtain ⟨again, read_eq, same⟩ := ih fuel (place.after piece.lexeme)
        (⟨piece.lexical, String.ofList piece.lexeme, ⟨place, place.after piece.lexeme⟩⟩ :: tokens)
        (by omega)
      refine ⟨⟨piece.lexical, String.ofList piece.lexeme, ⟨place, place.after piece.lexeme⟩⟩ ::
        again, ?_, by simp [same]⟩
      rw [readFrom, skipped]
      simp only [taken]
      simpa using read_eq

theorem lex_of_adjoins {source : String} {words : List Lexical}
    (adjoins : Adjoins source.toList words) (file : Option String) :
    ∃ tokens, lex source file = .ok tokens ∧ tokens.map Token.lexical = words ++ [.finish] := by
  obtain ⟨tokens, read_eq, same⟩ := readFrom_of_adjoins source adjoins (source.length + 1)
    (Location.start file) [] (by rw [String.length_toList]; omega)
  have reading : read source file = ⟨tokens, none⟩ := by simpa [read] using read_eq
  exact ⟨tokens, by simp [lex, reading], same⟩

/-! ## Names -/

/-- A path that is read as a name in front of whatever no name goes on with. -/
def ReadsAlone (path : String) : Prop :=
  ∃ c tail, path.toList = c :: tail ∧ startsLayout c = false ∧
    ∀ rest, nameRun rest = ([], rest) →
      takePiece c (tail ++ rest) = .ok ⟨c :: tail, .name path, rest⟩

theorem readsAlone_of_takePiece {c : Char} {text : List Char} {piece : Piece} {path : String}
    (taken : takePiece c text = .ok piece) (name : piece.lexical = .name path) :
    ReadsAlone path := by
  unfold takePiece at taken
  split at taken
  · split at taken <;> cases taken
    cases name
  rename_i notQuote
  split at taken
  · cases taken
    cases name
  rename_i notNumber
  split at taken
  · rename_i starts
    obtain rfl := Except.ok.inj taken
    obtain ⟨tail, run_eq⟩ := nameRun_cons text starts
    have path_eq := ofWord_name name
    have visible : startsLayout c = false := by
      by_contra layout
      have hidden := not_isNamePart_of_startsLayout (by simpa using layout)
      rw [isNamePart_of_isNameStart starts] at hidden
      cases hidden
    refine ⟨c, tail, by rw [path_eq, run_eq, String.toList_ofList], visible, fun rest ends => ?_⟩
    have again := nameRun_append_of_stops ends (c :: text)
    rw [run_eq, List.cons_append] at again
    have noNumber := startsNumber_of_isNameStart starts notNumber
    have word : ofWord (String.ofList (c :: tail)) = .name path := by
      rw [← run_eq]
      exact name
    simpa [takePiece, notQuote, noNumber, starts, again] using word
  · split at taken <;> cases taken
    cases name

theorem readsAlone_of_lex {source : String} {file : Option String} {tokens : List Token}
    (success : lex source file = .ok tokens) {token : Token} (found : token ∈ tokens)
    {path : String} (name : token.lexical = .name path) : ReadsAlone path := by
  let holds (_ : List Char) (lexical : Lexical) : Prop :=
    ∀ path, lexical = .name path → ReadsAlone path
  have atEnd : holds [] .finish := fun path finish => by cases finish
  have taken : ∀ c rest piece, takePiece c rest = .ok piece → holds piece.lexeme piece.lexical :=
    fun _ _ _ run _ name => readsAlone_of_takePiece run name
  exact tokens_of_lex atEnd taken success token found path name

/-! ## Indices -/

theorem takePiece_openBracket (rest : List Char) :
    takePiece '[' rest = .ok ⟨['['], .symbol .openBracket, rest⟩ := by
  have noName : isNameStart '[' = false := by decide +kernel
  have noDigit : isDigit '[' = false := by decide
  simp [takePiece, startsNumber, noName, noDigit, Symbol.leading?, Symbol.all, Symbol.chars,
    List.isPrefixOf]

theorem takePiece_closeBracket (rest : List Char) :
    takePiece ']' rest = .ok ⟨[']'], .symbol .closeBracket, rest⟩ := by
  have noName : isNameStart ']' = false := by decide +kernel
  have noDigit : isDigit ']' = false := by decide
  simp [takePiece, startsNumber, noName, noDigit, Symbol.leading?, Symbol.all, Symbol.chars,
    List.isPrefixOf]

/-- The digits of an index are read as its number in front of the closing bracket. -/
theorem takePiece_index (index : Nat) (rest : List Char) :
    ∃ c tail, Nat.toDigits 10 index = c :: tail ∧ startsLayout c = false ∧
      takePiece c (tail ++ ']' :: rest) =
        .ok ⟨c :: tail, .number (indexNumber index), ']' :: rest⟩ := by
  have digits : ∀ c ∈ Nat.toDigits 10 index, isDigit c = true := fun c =>
    Number.isDigit_of_mem_toDigits
  cases digits_eq : Nat.toDigits 10 index with
  | nil => exact absurd digits_eq Nat.toDigits_ne_nil
  | cons c tail =>
      rw [digits_eq] at digits
      have digit := digits c List.mem_cons_self
      have visible : startsLayout c = false := by
        by_contra layout
        rw [not_isDigit_of_startsLayout (by simpa using layout)] at digit
        cases digit
      have stops : Number.Numeral.StopsDigits (']' :: rest) := by
        intro d found
        cases found
        decide
      have run : numberRun (c :: (tail ++ ']' :: rest)) = (c :: tail, ']' :: rest) := by
        have whole := Number.Numeral.takeWhile_isDigit digits stops
        have after := Number.Numeral.dropWhile_isDigit digits stops
        rw [List.cons_append] at whole after
        unfold numberRun
        rw [whole, after]
        rfl
      have notQuote : ¬(c = '"' ∨ c = '\'') := by
        rintro (rfl | rfl) <;> exact absurd digit (by decide)
      refine ⟨c, tail, rfl, visible, ?_⟩
      simp [takePiece, notQuote, startsNumber, digit, run, indexNumber, digits_eq]

theorem adjoins_bracketed (indices : List Nat) :
    Adjoins (bracketed indices) (indexWords indices) := by
  induction indices with
  | nil => exact .nil
  | cons index rest ih =>
      obtain ⟨c, tail, digits_eq, visible, taken⟩ := takePiece_index index (bracketed rest)
      rw [bracketed, digits_eq]
      refine .cons (by decide) (takePiece_openBracket _) (.cons visible taken ?_)
      exact .cons (by decide) (takePiece_closeBracket _) ih

theorem nameRun_bracketed (indices : List Nat) :
    nameRun (bracketed indices) = ([], bracketed indices) := by
  have noPart : isNamePart '[' = false := by decide +kernel
  cases indices with
  | nil => rfl
  | cons index rest =>
      cases digits_eq : Nat.toDigits 10 index ++ ']' :: bracketed rest with
      | nil => simp at digits_eq
      | cons c tail => simp [bracketed, digits_eq, nameRun, noPart]

/-- The text of an item is read as the path and the indices in brackets. -/
theorem lex_itemName {base : String} (alone : ReadsAlone base) (indices : List Nat)
    (file : Option String) :
    ∃ tokens, lex (itemName base indices) file = .ok tokens ∧
      tokens.map Token.lexical = .name base :: indexWords indices ++ [.finish] := by
  obtain ⟨c, tail, base_eq, visible, taken⟩ := alone
  refine lex_of_adjoins ?_ file
  rw [itemName, String.toList_ofList, base_eq, List.cons_append]
  exact .cons visible (taken _ (nameRun_bracketed indices)) (adjoins_bracketed indices)

end Lexer

end Scriptlet
