import Scriptlet.Token.Lexer
import Scriptlet.Tree.Parser

/-!
# From texts to programs
-/

namespace Scriptlet

/-- Reads a program from its text, within the given room on the stack. -/
def Program.ofSource (room : Nat) (source : String) (file : Option String) :
    Except Fault Program :=
  match Lexer.lex source file with
  | .error e => .error (.script e)
  | .ok tokens =>
      match Parser.Stream.ofTokens? tokens with
      | some stream => Parser.parse room stream file (some source)
      | none => .error .exhausted

end Scriptlet
