import Scriptlet.Proofs.Parser.RoundTrip
import Scriptlet.Proofs.Token.Items
import Scriptlet.Tree.Source

/-!
# Items

The text of an item is read as a program of one statement: the expression that takes the indices,
one after the other, from what the path denotes.
-/

namespace Scriptlet

/-- An expression for the item that indices denote, taken from a path. -/
inductive Expr.IsItem (base : String) : List Nat → Expr → Prop
  | path (start : Location) : IsItem base [] (Parser.expandPath base start)
  | item {front : List Nat} {object : Expr} (index : Nat) (span place : Span)
      (before : IsItem base front object) :
      IsItem base (front ++ [index]) (.index span object (.number place (indexNumber index)))

namespace Expr.IsItem

variable {base : String} {expression : Expr}

/-- An expression without indices is the path. -/
theorem of_nil (isItem : expression.IsItem base []) :
    ∃ start, expression = Parser.expandPath base start := by
  generalize indices_eq : [] = indices at isItem
  cases isItem with
  | path start => exact ⟨start, rfl⟩
  | item => exact absurd indices_eq.symm (by simp)

theorem of_singleton {index : Nat} (isItem : expression.IsItem base [index]) :
    ∃ start span place, expression =
      .index span (Parser.expandPath base start) (.number place (indexNumber index)) := by
  generalize indices_eq : [index] = indices at isItem
  cases isItem with
  | path => cases indices_eq
  | @item front object last span place before =>
      obtain ⟨rfl, last_eq⟩ | ⟨-, none⟩ := List.append_eq_singleton_iff.mp indices_eq.symm
      · cases last_eq
        obtain ⟨start, rfl⟩ := before.of_nil
        exact ⟨start, span, place, rfl⟩
      · cases none

end Expr.IsItem

namespace Parser

variable {allowance : Nat} {base : String} {stream : Stream}

/-- The number of an index in front of the closing bracket. -/
theorem expression_index_reads (enough : 6 ≤ allowance) (index : Nat) {tail : List Lexical}
    (spells : stream.Spells (.number (indexNumber index) :: .symbol .closeBracket :: tail)) :
    Reads (expression allowance) stream fun read rest =>
      (∃ place, read = .number place (indexNumber index)) ∧
        rest.Spells (.symbol .closeBracket :: tail) := by
  have reads : ReadsBack (expression allowance) _ (.symbol .closeBracket :: tail) _ :=
    (grammarReads allowance).expression (.number default (indexNumber index))
      (by simpa using enough) rfl
  refine (reads stream spells).mono fun read rest same => ⟨?_, same.2⟩
  obtain ⟨bare, -⟩ := same
  cases read <;> simp at bare
  exact ⟨_, by rw [bare]⟩

/-- The loop of calls and indices takes the indices one by one. -/
theorem applications_reads_indices (enough : 6 ≤ allowance) (indices : List Nat) {front : List Nat}
    {callee : Expr} (isItem : callee.IsItem base front) (bound : Nat)
    (bounded : indices.length ≤ bound) (spells : stream.Spells (indexWords indices)) :
    Reads (applications (expression allowance) bound callee) stream fun read rest =>
      read.IsItem base (front ++ indices) ∧ rest.Spells [] := by
  induction indices generalizing front callee bound stream with
  | nil =>
      refine ⟨callee, stream, applications_stops ?_, by simpa using isItem, spells⟩
      rw [spells.current_lexical]
      rfl
  | cons index rest ih =>
      obtain ⟨bound, rfl⟩ : ∃ less, bound = less + 1 :=
        ⟨bound - 1, by simp only [List.length_cons] at bounded; omega⟩
      refine Reads.noSymbol spells rfl (Reads.skipSymbol spells fun inner spells => ?_)
      refine .bind (expression_index_reads enough index spells) ?_
      rintro read closing ⟨⟨place, rfl⟩, spells⟩
      refine Reads.takeSymbol spells fun _ after spells => .step (get_run after) ?_
      rw [show front ++ index :: rest = front ++ [index] ++ rest by simp]
      exact ih (.item index _ place isItem) bound (by simpa using bounded) spells

theorem length_indexWords (indices : List Nat) :
    (indexWords indices).length = 3 * indices.length := by
  induction indices with
  | nil => rfl
  | cons index rest ih =>
      simp only [indexWords, List.length_cons, ih]
      omega

theorem climb_at_end (operand : Nat → Parse Expr) (least bound : Nat) (left : Expr)
    (spells : stream.Spells []) : climb operand least bound left stream = .ok (left, stream) := by
  cases bound with
  | zero => rfl
  | succ bound =>
      have ends : operatorOf? stream.current = none := by
        simp [operatorOf?, spells.current_lexical]
      rw [climb, bind_run (current_run stream), ends]
      rfl

/-- An item is read as an expression. -/
theorem expression_reads_item (enough : 12 ≤ allowance) (indices : List Nat)
    (spells : stream.Spells (.name base :: indexWords indices)) :
    Reads (expression allowance) stream fun read rest =>
      read.IsItem base indices ∧ rest.Spells [] := by
  obtain ⟨allowance, rfl⟩ : ∃ less, allowance = less + 6 := ⟨allowance - 6, by omega⟩
  have notPrefix : prefixOf? stream.current = none := by
    simp [prefixOf?, spells.current_lexical]
  have primary : Reads (primary (allowance + 2)) stream fun read rest =>
      read.IsItem base [] ∧ rest.Spells (indexWords indices) := by
    refine Reads.current spells fun token lexical_eq => ?_
    simp only [lexical_eq]
    exact Reads.advance spells (by simp) fun _ rest _ spells => .pure ⟨.path _, spells⟩
  have unary : Reads (unary (allowance + 3)) stream fun read rest =>
      read.IsItem base indices ∧ rest.Spells [] := by
    refine .step (current_run stream) ?_
    simp only [notPrefix]
    refine .bind primary ?_
    rintro callee rest ⟨isItem, spells⟩
    have bounded : indices.length ≤ rest.total + 1 := by
      have lengths := spells.length_le
      rw [length_indexWords] at lengths
      omega
    refine .step (get_run rest) ?_
    exact applications_reads_indices (by omega) indices isItem _ bounded spells
  have binary : Reads (binary (allowance + 4) 1) stream fun read rest =>
      read.IsItem base indices ∧ rest.Spells [] := by
    refine .bind unary ?_
    rintro left rest ⟨isItem, spells⟩
    exact .step (get_run rest) ⟨left, rest, climb_at_end _ _ _ _ spells, isItem, spells⟩
  refine .bind binary ?_
  rintro read rest ⟨isItem, spells⟩
  exact Reads.noSymbol spells rfl (.pure ⟨isItem, spells⟩)

theorem statement_reads_item (enough : 14 ≤ allowance) (inLoop : Bool) (indices : List Nat)
    (spells : stream.Spells (.name base :: indexWords indices)) :
    Reads (statement allowance inLoop) stream fun read rest =>
      (∃ span expression, read = .expression span expression ∧ expression.IsItem base indices) ∧
        rest.Spells [] := by
  obtain ⟨allowance, rfl⟩ : ∃ less, allowance = less + 2 := ⟨allowance - 2, by omega⟩
  refine Reads.current spells fun token lexical_eq => ?_
  simp only [lexical_eq]
  refine .bind (expression_reads_item (by omega) indices spells) ?_
  rintro read rest ⟨isItem, spells⟩
  exact Reads.noSymbol spells rfl (.pure ⟨⟨_, read, rfl, isItem⟩, spells⟩)

theorem program_reads_item (enough : 14 ≤ allowance) (file : Option String) (indices : List Nat)
    (spells : stream.Spells (.name base :: indexWords indices)) :
    Reads (program allowance file) stream fun read _ =>
      ∃ span expression, read.body = [.expression span expression] ∧
        expression.IsItem base indices := by
  have started : stream.current.isFinish = false :=
    isFinish_of_ne (by rw [spells.current_lexical]; simp)
  refine .step (current_run stream) (.step (get_run stream) ?_)
  have body : Reads (statementsToEnd (statement allowance false) (stream.total + 1) []) stream
      fun body _ => ∃ span expression, body = [.expression span expression] ∧
        expression.IsItem base indices := by
    refine .step (current_run stream) ?_
    rw [started]
    refine .bind (statement_reads_item enough false indices spells) ?_
    rintro read rest ⟨⟨span, expression, rfl, isItem⟩, spells⟩
    cases stream.total with
    | zero => exact .pure ⟨span, expression, rfl, isItem⟩
    | succ total =>
        have ended : rest.current.isFinish = true := by
          simp [Token.isFinish, spells.current_lexical]
        refine .step (current_run rest) ?_
        rw [ended]
        exact .pure ⟨span, expression, rfl, isItem⟩
  refine .bind body ?_
  rintro _ rest ⟨span, expression, rfl, isItem⟩
  exact .step rfl (.pure ⟨span, expression, rfl, isItem⟩)

end Parser

/-- The text of an item is read as an expression for the item. -/
theorem Program.ofSource_itemName {base : String} (alone : Lexer.ReadsAlone base)
    (indices : List Nat) {room : Nat} (enough : 14 ≤ room) (file : Option String) :
    ∃ program span expression, Program.ofSource room (itemName base indices) file = .ok program ∧
      program.body = [.expression span expression] ∧ expression.IsItem base indices := by
  obtain ⟨tokens, lexed, spelled⟩ := Lexer.lex_itemName alone indices file
  obtain ⟨stream, stream_eq, spells⟩ := Parser.Stream.ofTokens?_words spelled
  obtain ⟨program, rest, run, span, expression, body_eq, isItem⟩ :=
    Parser.program_reads_item enough file indices spells
  refine ⟨program, span, expression, ?_, body_eq, isItem⟩
  have run : (Parser.program room file).run stream = .ok (program, rest) := run
  simp [Program.ofSource, lexed, stream_eq, Parser.parse, run]

end Scriptlet
