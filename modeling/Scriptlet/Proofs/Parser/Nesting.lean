import Scriptlet.Proofs.Parser.Totality
import Scriptlet.Tree.Source

/-!
# Nesting of programs

The tokens of a text are in order and end once, so whatever is read from a text nests.
-/

namespace Scriptlet

theorem Lexer.endsOnce_of_lex {source : String} {file : Option String} {tokens : List Token}
    (success : Lexer.lex source file = .ok tokens) : Parser.EndsOnce tokens := by
  obtain ⟨-, front, place, rfl, -, single⟩ := Lexer.covers_of_lex success
  refine ⟨⟨_, List.getLast?_concat, rfl⟩, ?_⟩
  rw [List.dropLast_concat]
  exact single

/-- The program of a text is read off the tokens of the text. -/
theorem Program.ofSource_reads {room : Nat} {source : String} {file : Option String}
    {program : Program} (read : Program.ofSource room source file = .ok program) :
    ∃ tokens, ∃ first finish : Fin tokens.length, Lexer.lex source file = .ok tokens ∧
      first.val = 0 ∧ Parser.ReadsProgram tokens first finish program := by
  unfold ofSource at read
  split at read
  · cases read
  · rename_i tokens lexed
    have ended := Lexer.endsOnce_of_lex lexed
    obtain ⟨first, isFirst, stream_eq⟩ := ended.ofTokens?
    simp only [stream_eq, Parser.parse] at read
    have settles : Parser.Settles tokens _ (Parser.program room file) first _ :=
      Parser.program_moves ended first file
    unfold Parser.Settles at settles
    split at read
    · rename_i result rest run
      obtain rfl := Except.ok.inj read
      rw [StateT.run] at run
      rw [run] at settles
      obtain ⟨finish, reads, -⟩ := settles
      exact ⟨tokens, first, finish, lexed, isFirst, reads⟩
    · cases read
    · cases read

/-- Whatever is read from a text nests: every node stands on tokens of the text and is not empty,
and its parts lie within it in the order of the text.  Only a text without tokens makes a program
without statements, which stands where the text ends. -/
theorem Program.ofSource_nests {room : Nat} {source : String} {file : Option String}
    {program : Program} (read : Program.ofSource room source file = .ok program) :
    ∃ tokens, Lexer.lex source file = .ok tokens ∧
      (program.body ≠ [] → program.spanTree.Nests tokens) ∧
      (program.body = [] → ∃ finish, tokens = [finish] ∧ finish.isFinish = true ∧
        program.span = finish.span) := by
  obtain ⟨tokens, first, finish, lexed, isFirst, reads⟩ := Program.ofSource_reads read
  refine ⟨tokens, lexed, fun present => ?_, fun empty => ?_⟩
  · have stands := (reads.moves present).2 (Lexer.inOrder_of_lex lexed)
    exact stands.nests _ (List.mem_singleton_self _)
  · obtain ⟨rfl, span_eq⟩ := reads.empty empty
    have isFinish := (Lexer.endsOnce_of_lex lexed).isFinish_of_last reads.toEnd
    have single : tokens.length = 1 := by
      have toEnd := reads.toEnd
      omega
    obtain ⟨token, rfl⟩ := List.length_eq_one_iff.mp single
    have same : finish = ⟨0, Nat.one_pos⟩ := Fin.ext isFirst
    subst same
    exact ⟨token, rfl, isFinish, span_eq⟩

/-- Parentheses and the semicolon belong to some of the spans only. -/
theorem Program.ofSource_nests_parentheses :
    ∃ program, Program.ofSource 60 "a.b = fn (c) { return (c + 1) * -d[0]; };" none = .ok program ∧
      ∃ tokens,
        Lexer.lex "a.b = fn (c) { return (c + 1) * -d[0]; };" none = .ok tokens ∧
        (program.body ≠ [] → program.spanTree.Nests tokens) ∧
        (program.body = [] → ∃ finish, tokens = [finish] ∧ finish.isFinish = true ∧
          program.span = finish.span) := by
  have succeeds : (Program.ofSource 60
      "a.b = fn (c) { return (c + 1) * -d[0]; };" none).toBool = true := by
    decide +kernel
  cases read : Program.ofSource 60 "a.b = fn (c) { return (c + 1) * -d[0]; };" none with
  | error fault =>
      rw [read] at succeeds
      cases succeeds
  | ok program => exact ⟨program, rfl, Program.ofSource_nests read⟩

end Scriptlet
