import Scriptlet.Proofs.Parser.WellFormed
import Scriptlet.Proofs.Tree.Rendering

/-!
# Streams as words

What a parser sees of its tokens are the words they stand for.  A parser reads words back when it
takes them from every stream that spells them, whatever the tokens look like otherwise.
-/

namespace Scriptlet

namespace Lexical

/-- Whether a word is the given symbol. -/
def isSymbol (word : Lexical) (symbol : Symbol) : Bool :=
  match word with
  | .symbol found => found == symbol
  | _ => false

/-- Whether a word closes an expression, whatever stands in front of it. -/
def closes : Lexical → Bool
  | .symbol .closeParen | .symbol .closeBracket | .symbol .comma | .symbol .semicolon => true
  | _ => false

/-- Whether a word closes a chain of operators, whatever stands in front of it. -/
def endsOperands (word : Lexical) : Bool :=
  word.closes || word.isSymbol .assign

/-- Whether a word extends the operand in front of it by a call or an index. -/
def extendsOperand (word : Lexical) : Bool :=
  word.isSymbol .openParen || word.isSymbol .openBracket

theorem endsOperands_of_closes {word : Lexical} (closes : word.closes = true) :
    word.endsOperands = true := by
  simp [endsOperands, closes]

theorem extendsOperand_of_endsOperands {word : Lexical} (ends : word.endsOperands = true) :
    word.extendsOperand = false := by
  cases word with
  | symbol symbol =>
      cases symbol <;> simp [endsOperands, closes, isSymbol, extendsOperand] at ends ⊢
  | _ => rfl

theorem isSymbol_assign_of_closes {word : Lexical} (closes : word.closes = true) :
    word.isSymbol .assign = false := by
  cases word with
  | symbol symbol => cases symbol <;> simp [Lexical.closes, isSymbol] at closes ⊢
  | _ => rfl

end Lexical

namespace Text

theorem cutAt_of_not_mem {mark : Char} {text : List Char} (plain : mark ∉ text) :
    cutAt mark text = [text] := by
  induction text with
  | nil => rfl
  | cons c rest ih =>
      obtain ⟨different, rest_plain⟩ := not_or.mp (mt List.mem_cons.mpr plain)
      simp [cutAt, ih rest_plain, Ne.symm different]

theorem cutAt_snoc {mark : Char} (front : List Char) {field : List Char} (plain : mark ∉ field) :
    cutAt mark (front ++ mark :: field) = cutAt mark front ++ [field] := by
  induction front with
  | nil => simp [cutAt, cutAt_of_not_mem plain]
  | cons c rest ih =>
      simp only [List.cons_append, cutAt, ih]
      split
      · rfl
      · cases parts : cutAt mark rest with
        | nil => exact absurd parts (cutAt_ne_nil mark rest)
        | cons part parts => rfl

end Text

namespace Parser

theorem operatorOf?_of_endsOperands {token : Token} (ends : token.lexical.endsOperands = true) :
    operatorOf? token = none := by
  unfold operatorOf?
  cases lexical_eq : token.lexical with
  | symbol symbol =>
      rw [lexical_eq] at ends
      cases symbol <;> simp [Lexical.endsOperands, Lexical.closes, Lexical.isSymbol] at ends ⊢
  | keyword word =>
      rw [lexical_eq] at ends
      cases ends
  | _ => rfl

theorem operatorOf?_of_symbol {token : Token} {operator : BinaryOperator}
    (lexical_eq : token.lexical = .symbol operator.symbol) :
    operatorOf? token = some operator := by
  unfold operatorOf?
  rw [lexical_eq]
  cases operator <;> rfl

theorem prefixOf?_of_symbol {token : Token} {operator : UnaryOperator}
    (lexical_eq : token.lexical = .symbol operator.symbol) :
    prefixOf? token = some operator := by
  unfold prefixOf?
  rw [lexical_eq]
  cases operator <;> rfl

/-! ## Streams as words -/

/-- A stream holds tokens for the given words, and its loops may run that often. -/
structure Stream.Spells (stream : Stream) (words : List Lexical) : Prop where
  rest_eq : stream.rest.map Token.lexical = words
  finish_eq : stream.finish.lexical = .finish
  length_le : words.length ≤ stream.total

namespace Stream.Spells

variable {stream : Stream} {word : Lexical} {words : List Lexical}

theorem current_lexical (spells : stream.Spells words) :
    stream.current.lexical = words.headD .finish := by
  obtain ⟨rest, finish, last, total⟩ := stream
  obtain ⟨rest_eq, finish_eq, -⟩ := spells
  subst rest_eq
  cases rest with
  | nil => exact finish_eq
  | cons token rest => rfl

theorem advance (spells : stream.Spells (word :: words)) (inner : word ≠ .finish) :
    stream.advance.Spells words := by
  obtain ⟨rest, finish, last, total⟩ := stream
  obtain ⟨rest_eq, finish_eq, length_le⟩ := spells
  cases rest with
  | nil => cases rest_eq
  | cons token rest =>
      simp only [List.map_cons, List.cons.injEq] at rest_eq
      obtain ⟨rfl, rfl⟩ := rest_eq
      simp only [Stream.advance, isFinish_of_ne inner]
      refine ⟨rfl, finish_eq, ?_⟩
      simp only [List.length_cons] at length_le
      exact Nat.le_of_succ_le length_le

theorem isSymbol (spells : stream.Spells words) (symbol : Symbol) :
    stream.current.isSymbol symbol = (words.headD .finish).isSymbol symbol := by
  rw [← spells.current_lexical]
  rfl

end Stream.Spells

/-- In front of some words, a parser takes the given ones and its result is as it should be. -/
def ReadsBack {α : Type} (parser : Parse α) (words tail : List Lexical) (same : α → Prop) : Prop :=
  ∀ stream, stream.Spells (words ++ tail) →
    Reads parser stream fun value rest => same value ∧ rest.Spells tail

/-! ## Single words -/

section Steps

variable {α β : Type} {stream : Stream} {word : Lexical} {words : List Lexical} {next : α → Parse β}
  {post : β → Stream → Prop}

/-- Looking at the first word. -/
theorem Reads.current {next : Token → Parse β} (spells : stream.Spells (word :: words))
    (after : ∀ token : Token, token.lexical = word → Reads (next token) stream post) :
    Reads (current >>= next) stream post :=
  .step (current_run stream) (after stream.current spells.current_lexical)

/-- Taking the first word. -/
theorem Reads.advance {next : Token → Parse β} (spells : stream.Spells (word :: words))
    (inner : word ≠ .finish)
    (after : ∀ (token : Token) (rest : Stream), token.lexical = word → rest.Spells words →
      Reads (next token) rest post) :
    Reads (advance >>= next) stream post :=
  .step (advance_run stream) (after _ _ spells.current_lexical (spells.advance inner))

/-- Taking a symbol that must stand there. -/
theorem Reads.takeSymbol {symbol : Symbol} {next : Token → Parse β}
    (spells : stream.Spells (.symbol symbol :: words))
    (after : ∀ (token : Token) (rest : Stream), rest.Spells words → Reads (next token) rest post) :
    Reads (takeSymbol symbol >>= next) stream post :=
  .step (takeSymbol_run (by simp [spells.isSymbol, Lexical.isSymbol]))
    (after _ _ (spells.advance (by simp)))

/-- Taking a symbol that may stand there, and does. -/
theorem Reads.skipSymbol {symbol : Symbol} {next : Bool → Parse β}
    (spells : stream.Spells (.symbol symbol :: words))
    (after : ∀ rest : Stream, rest.Spells words → Reads (next true) rest post) :
    Reads (skipSymbol symbol >>= next) stream post :=
  .step (skipSymbol_run_of_isSymbol (by simp [spells.isSymbol, Lexical.isSymbol]))
    (after _ (spells.advance (by simp)))

/-- Passing over a symbol that does not stand there. -/
theorem Reads.noSymbol {symbol : Symbol} {next : Bool → Parse β} (spells : stream.Spells words)
    (missing : (words.headD .finish).isSymbol symbol = false)
    (after : Reads (next false) stream post) :
    Reads (Parser.skipSymbol symbol >>= next) stream post :=
  .step (skipSymbol_run_of_not_isSymbol (by rw [spells.isSymbol, missing])) after

end Steps

/-! ## Paths -/

/-- A path with one more segment stands for a member of the path. -/
theorem expandPath_snoc (path field : String) (start : Location) (plain : isDotted field = false) :
    ∃ span, expandPath (path ++ "." ++ field) start =
      .member span (expandPath path start) field := by
  have field_plain : '.' ∉ field.toList := by simpa [isDotted] using plain
  cases parts : Text.cutAt '.' path.toList with
  | nil => exact absurd parts (Text.cutAt_ne_nil _ _)
  | cons first rest =>
      have longer : Text.cutAt '.' (path ++ "." ++ field).toList =
          first :: (rest ++ [field.toList]) := by
        have cut := Text.cutAt_snoc path.toList field_plain
        rw [parts] at cut
        simpa using cut
      rw [expandPath_of_cutAt start longer, expandPath_of_cutAt start parts, List.foldl_append]
      rw [List.foldl_cons, List.foldl_nil, extendPath, String.ofList_toList]
      exact ⟨_, rfl⟩

/-- The dotted name of a well-formed path stands for the path. -/
theorem expandPath_path {expression : Expr} (formed : expression.WellFormed)
    (path : expression.isPath = true) (start : Location) :
    (expandPath expression.path start).bare = expression.bare := by
  induction expression using Expr.path.induct with
  | case1 span id =>
      cases formed with
      | name _ plain =>
          have parts : Text.cutAt '.' id.toList = [id.toList] :=
            Text.cutAt_of_not_mem (by simpa [isDotted] using plain)
          rw [Expr.path, expandPath_of_cutAt start parts]
          simp
  | case2 span object field ih =>
      cases formed with
      | member _ objectPath objectFormed plain =>
          obtain ⟨place, expanded⟩ := expandPath_snoc object.path field start plain
          rw [Expr.path, expanded, Expr.bare, Expr.bare, ih objectFormed objectPath]
  | case3 expression notName notMember =>
      cases expression <;> simp [Expr.isPath] at path notName notMember

/-! ## Stopping -/

theorem climb_stops {operand : Nat → Parse Expr} {least bound : Nat} {left : Expr} {stream : Stream}
    (ends : stream.current.lexical.endsOperands = true) :
    climb operand least bound left stream = .ok (left, stream) := by
  cases bound with
  | zero => rfl
  | succ bound =>
      rw [climb, bind_run (current_run stream), operatorOf?_of_endsOperands ends]
      rfl

theorem applications_stops {item : Parse Expr} {bound : Nat} {callee : Expr} {stream : Stream}
    (stops : stream.current.lexical.extendsOperand = false) :
    applications item bound callee stream = .ok (callee, stream) := by
  obtain ⟨noCall, noIndex⟩ := Bool.or_eq_false_iff.mp stops
  cases bound with
  | zero => rfl
  | succ bound =>
      rw [applications, bind_run (skipSymbol_run_of_not_isSymbol noCall)]
      change (skipSymbol .openBracket >>= _) stream = _
      rw [bind_run (skipSymbol_run_of_not_isSymbol noIndex)]
      rfl

end Parser
end Scriptlet
