/-!
# Cutting and joining texts

Cutting a text at a separator takes the leftmost occurrence first, and occurrences do not overlap.
Joining the parts with the separator gives the text back.
-/

namespace Scriptlet.Text

/-- The parts of a text between the occurrences of a character. -/
def cutAt (mark : Char) : List Char → List (List Char)
  | [] => [[]]
  | c :: rest =>
      if c = mark then [] :: cutAt mark rest
      else match cutAt mark rest with
        | part :: parts => (c :: part) :: parts
        | [] => [[c]]

/-- The parts of a text between the occurrences of a separator. The first `skip` characters belong
to an occurrence that has been found, and `held` holds the current part so far, in reverse. -/
def partsFrom (separator : List Char) : (skip : Nat) → (held : List Char) → List Char →
    List (List Char)
  | _, held, [] => [held.reverse]
  | skip + 1, held, _ :: rest => partsFrom separator skip held rest
  | 0, held, c :: rest =>
      if separator.isPrefixOf (c :: rest) then
        held.reverse :: partsFrom separator (separator.length - 1) [] rest
      else partsFrom separator 0 (c :: held) rest

/-- The parts of a text between the occurrences of a separator that is not empty. -/
def parts (separator text : List Char) : List (List Char) :=
  partsFrom separator 0 [] text

/-- Parts joined by a separator. -/
def join (separator : List Char) (parts : List (List Char)) : List Char :=
  (parts.intersperse separator).flatten

end Scriptlet.Text
