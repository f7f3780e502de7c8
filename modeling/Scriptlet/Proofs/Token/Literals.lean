import Scriptlet.Proofs.Token.Order
import Scriptlet.Proofs.Token.Spacing

/-!
# Literals of texts

A literal stands between two quotes of one kind.  A backslash takes the character behind it into the
text, so every text has a literal: a backslash is put in front of each quote and of each backslash.
What is read as a text is always such a literal, and its quotes enclose what denotes the text.
-/

namespace Scriptlet
namespace Lexer

open Text

/-- The two characters that enclose literals. -/
def IsQuote (mark : Char) : Prop :=
  mark = '"' ∨ mark = '\''

/-- The characters of a text with a backslash in front of each quote and of each backslash. -/
def escaped (mark : Char) : List Char → List Char
  | [] => []
  | c :: rest =>
      if c = mark ∨ c = '\\' then '\\' :: c :: escaped mark rest else c :: escaped mark rest

/-- The literal of a text. -/
def textLiteral (mark : Char) (text : String) : String :=
  String.ofList (mark :: (escaped mark text.toList ++ [mark]))

/-- What stands between the quotes of a literal denotes a text: `n` and `t` behind a backslash stand
for a line feed and a tab, any other character behind a backslash for itself.  A quote never stands
without a backslash in front of it. -/
inductive Denotes (mark : Char) : List Char → List Char → Prop
  | nil : Denotes mark [] []
  | plain {c : Char} {body value : List Char} (inside : c ≠ mark) (noEscape : c ≠ '\\')
      (rest : Denotes mark body value) : Denotes mark (c :: body) (c :: value)
  | lineFeed {body value : List Char} (rest : Denotes mark body value) :
      Denotes mark ('\\' :: 'n' :: body) ('\n' :: value)
  | tab {body value : List Char} (rest : Denotes mark body value) :
      Denotes mark ('\\' :: 't' :: body) ('\t' :: value)
  | itself {c : Char} {body value : List Char} (noFeed : c ≠ 'n') (noTab : c ≠ 't')
      (rest : Denotes mark body value) : Denotes mark ('\\' :: c :: body) (c :: value)

theorem IsQuote.ne_backslash {mark : Char} (quote : IsQuote mark) : mark ≠ '\\' := by
  rcases quote with rfl | rfl <;> decide

/-! ## Inside the quotes -/

theorem Denotes.pair {mark c : Char} {body value : List Char} (rest : Denotes mark body value) :
    Denotes mark ('\\' :: c :: body) (unescape c :: value) := by
  unfold unescape
  split
  · subst c
    exact .lineFeed rest
  · split
    · subst c
      exact .tab rest
    · exact .itself ‹_› ‹_› rest

theorem textBody_pair (mark c : Char) (value read rest : List Char) :
    textBody mark value read ('\\' :: c :: rest) =
      textBody mark (unescape c :: value) (c :: '\\' :: read) rest := by
  rw [textBody]

theorem textBody_plain {mark c : Char} (noEscape : c ≠ '\\') (value read rest : List Char) :
    textBody mark value read (c :: rest) =
      if c = mark then some (value.reverse, (c :: read).reverse, rest)
      else textBody mark (c :: value) (c :: read) rest := by
  rw [textBody]
  · rintro rfl
    exact absurd rfl noEscape
  · rintro d tail rfl
    exact absurd rfl noEscape

/-- What denotes a text is read as this text up to the closing quote. -/
theorem textBody_of_denotes {mark : Char} (quote : IsQuote mark) {body value : List Char}
    (denotes : Denotes mark body value) (held read rest : List Char) :
    textBody mark held read (body ++ mark :: rest) =
      some (held.reverse ++ value, read.reverse ++ (body ++ [mark]), rest) := by
  induction denotes generalizing held read with
  | nil => simp [textBody_plain quote.ne_backslash]
  | plain inside noEscape _ ih =>
      rw [List.cons_append, textBody_plain noEscape, if_neg inside, ih]
      simp
  | lineFeed _ ih | tab _ ih =>
      rw [List.cons_append, List.cons_append, textBody_pair, ih]
      simp [unescape]
  | itself noFeed noTab _ ih =>
      rw [List.cons_append, List.cons_append, textBody_pair, ih]
      simp [unescape, noFeed, noTab]

/-- What is read up to the closing quote denotes the text as which it is read. -/
theorem denotes_of_textBody {mark : Char} {held read text : List Char}
    {outcome : List Char × List Char × List Char}
    (run : textBody mark held read text = some outcome) :
    ∃ body value, outcome.1 = held.reverse ++ value ∧
      outcome.2.1 = read.reverse ++ (body ++ [mark]) ∧ Denotes mark body value := by
  fun_induction textBody mark held read text with
  | case1 | case2 => cases run
  | case3 held read c rest ih =>
      obtain ⟨body, value, value_eq, read_eq, denotes⟩ := ih run
      exact ⟨'\\' :: c :: body, unescape c :: value, by simpa using value_eq,
        by simpa using read_eq, denotes.pair⟩
  | case4 held read rest _ _ =>
      obtain rfl := Option.some.inj run
      exact ⟨[], [], by simp, by simp, .nil⟩
  | case5 held read c rest notLast notPair inside ih =>
      obtain ⟨body, value, value_eq, read_eq, denotes⟩ := ih run
      have noEscape : c ≠ '\\' := by
        rintro rfl
        cases rest with
        | nil => exact notLast rfl rfl
        | cons d tail => exact notPair d tail rfl rfl
      exact ⟨c :: body, c :: value, by simpa using value_eq, by simpa using read_eq,
        .plain inside noEscape denotes⟩

/-- A text is denoted by its characters with backslashes in front of quotes and backslashes. -/
theorem denotes_escaped {mark : Char} (quote : IsQuote mark) (text : List Char) :
    Denotes mark (escaped mark text) text := by
  induction text with
  | nil => exact .nil
  | cons c rest ih =>
      rw [escaped]
      split
      · rename_i special
        have noLetter : c ≠ 'n' ∧ c ≠ 't' := by
          rcases special with rfl | rfl
          · rcases quote with rfl | rfl <;> decide
          · decide
        exact .itself noLetter.1 noLetter.2 ih
      · rename_i ordinary
        obtain ⟨inside, noEscape⟩ := not_or.mp ordinary
        exact .plain inside noEscape ih

/-! ## Literals -/

/-- What denotes a text is read as this text when it stands between quotes. -/
theorem takePiece_of_denotes {mark : Char} (quote : IsQuote mark) {body value : List Char}
    (denotes : Denotes mark body value) (rest : List Char) :
    takePiece mark (body ++ mark :: rest) =
      .ok ⟨mark :: (body ++ [mark]), .text (String.ofList value), rest⟩ := by
  unfold takePiece
  rw [if_pos (show mark = '"' ∨ mark = '\'' from quote), textBody_of_denotes quote denotes]
  rfl

/-- What is read as a text stands between quotes and denotes the text. -/
theorem denotes_of_takePiece {c : Char} {rest : List Char} {piece : Piece} {value : String}
    (taken : takePiece c rest = .ok piece) (text : piece.lexical = .text value) :
    ∃ mark body, IsQuote mark ∧ piece.lexeme = mark :: (body ++ [mark]) ∧
      Denotes mark body value.toList := by
  unfold takePiece at taken
  split at taken
  · rename_i quote
    split at taken
    · rename_i chars read after run
      obtain ⟨body, denoted, value_eq, read_eq, denotes⟩ := denotes_of_textBody run
      obtain rfl : chars = denoted := value_eq
      cases taken
      cases text
      exact ⟨c, body, quote, congrArg (c :: ·) read_eq, by simpa using denotes⟩
    · cases taken
  split at taken
  · cases taken
    cases text
  split at taken
  · cases taken
    revert text
    change ofWord _ = _ → _
    unfold ofWord
    split <;> nofun
  · split at taken <;> cases taken
    cases text

/-- A source text that is one lexeme has one token before the end of the input. -/
theorem lex_of_takePiece {source : String} {c : Char} {rest : List Char} {piece : Piece}
    (whole : source.toList = c :: rest) (visible : startsLayout c = false)
    (taken : takePiece c rest = .ok piece) (all : piece.lexeme = c :: rest)
    (file : Option String) :
    let stop := (Location.start file).after source.toList
    lex source file = .ok
      [⟨piece.lexical, source, ⟨.start file, stop⟩⟩, ⟨.finish, "", ⟨stop, stop⟩⟩] := by
  have nothing : piece.rest = [] := by
    simpa [all] using (takePiece_spec taken).append_rest
  have skipped : skipLayout false (.start file) (c :: rest) = (.start file, c :: rest) :=
    skipLayout_append .nil (by simpa using visible) _
  have size : source.length = rest.length + 1 := by
    rw [← String.length_toList, whole, List.length_cons]
  have lexeme : String.ofList (c :: rest) = source := by rw [← whole, String.ofList_toList]
  have reading : read source file =
      ⟨[⟨piece.lexical, source, ⟨.start file, (Location.start file).after source.toList⟩⟩,
        ⟨.finish, "", ⟨(Location.start file).after source.toList,
          (Location.start file).after source.toList⟩⟩], none⟩ := by
    rw [read, size, whole, readFrom, skipped]
    simp only [taken, all, nothing, lexeme]
    simp [readFrom, skipLayout]
  simp [lex, reading]

/-- Every text has a literal between quotes of either kind, which is read as this text and nothing
else.  Whatever is read as a text is a literal: its lexeme is enclosed in quotes, and what stands
between them denotes the text. -/
theorem lex_textLiterals :
    (∀ mark text file, IsQuote mark →
      let stop := (Location.start file).after (textLiteral mark text).toList
      lex (textLiteral mark text) file = .ok
        [⟨.text text, textLiteral mark text, ⟨.start file, stop⟩⟩,
          ⟨.finish, "", ⟨stop, stop⟩⟩]) ∧
      ∀ source file tokens, lex source file = .ok tokens →
        ∀ token ∈ tokens, ∀ value, token.lexical = .text value →
          ∃ mark body, IsQuote mark ∧ token.lexeme.toList = mark :: (body ++ [mark]) ∧
            Denotes mark body value.toList := by
  constructor
  · intro mark text file quote
    have visible : startsLayout mark = false := by
      rcases quote with rfl | rfl <;> decide
    have taken := takePiece_of_denotes quote (denotes_escaped quote text.toList) []
    rw [String.ofList_toList] at taken
    exact lex_of_takePiece (String.toList_ofList ..) visible taken rfl file
  · intro source file tokens success token found value text
    let holds (lexeme : List Char) (lexical : Lexical) : Prop :=
      ∀ value, lexical = .text value → ∃ mark body, IsQuote mark ∧
        lexeme = mark :: (body ++ [mark]) ∧ Denotes mark body value.toList
    have atEnd : holds [] .finish := nofun
    have each : ∀ c rest piece, takePiece c rest = .ok piece → holds piece.lexeme piece.lexical :=
      fun _ _ _ taken _ text => denotes_of_takePiece taken text
    exact tokens_of_lex atEnd each success token found value text

theorem lex_textLiterals_backslashes :
    IsQuote '\'' ∧ textLiteral '\'' "a'\\" = "'a\\'\\\\'" ∧
      ∃ tokens token, lex "'a\\'\\\\'" none = .ok tokens ∧ token ∈ tokens ∧
        token.lexical = .text "a'\\" ∧
        ∃ mark body, IsQuote mark ∧ token.lexeme.toList = mark :: (body ++ [mark]) ∧
          Denotes mark body "a'\\".toList := by
  have literal : textLiteral '\'' "a'\\" = "'a\\'\\\\'" := by decide +kernel
  have run := lex_textLiterals.1 '\'' "a'\\" none (Or.inr rfl)
  rw [literal] at run
  exact ⟨Or.inr rfl, literal, _, _, run, List.mem_cons_self, rfl,
    lex_textLiterals.2 _ none _ run _ List.mem_cons_self _ rfl⟩

end Lexer
end Scriptlet
