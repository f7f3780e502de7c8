import Scriptlet.Json
import Scriptlet.Number.Format
import Scriptlet.Text.Quoted

/-!
# Writing JSON

The compact form: no blanks, and only quotes, backslashes and control characters are escaped.
-/

namespace Scriptlet
namespace Json

/-- One character of a text in JSON. -/
def escapeChar (c : Char) : List Char :=
  if c = '"' then ['\\', '"']
  else if c = '\\' then ['\\', '\\']
  else if c = '\n' then ['\\', 'n']
  else if c = '\r' then ['\\', 'r']
  else if c = '\t' then ['\\', 't']
  else if c = '\x08' then ['\\', 'b']
  else if c = '\x0c' then ['\\', 'f']
  else if c.toNat < 0x20 then '\\' :: 'u' :: Text.hexDigits 4 c.toNat
  else [c]

/-- A text in JSON, with its quotes. -/
def renderText (text : String) : List Char :=
  '"' :: (text.toList.flatMap escapeChar ++ ['"'])

/-- Parts joined by commas between two brackets. -/
def bracketed (first last : Char) (parts : List (List Char)) : List Char :=
  first :: ((parts.intersperse [',']).flatten ++ [last])

mutual

/-- The compact text of a value. -/
def render : Json → List Char
  | .null => ['n', 'u', 'l', 'l']
  | .bool true => ['t', 'r', 'u', 'e']
  | .bool false => ['f', 'a', 'l', 's', 'e']
  | .int value => (toString value).toList
  | .float value => (Number.literal value).toList
  | .text value => renderText value
  | .list items => bracketed '[' ']' (renderItems items)
  | .object fields => bracketed '\x7b' '\x7d' (renderFields fields)

/-- The texts of the items of a list. -/
def renderItems : List Json → List (List Char)
  | [] => []
  | item :: rest => render item :: renderItems rest

/-- The texts of the fields of an object. -/
def renderFields : List (String × Json) → List (List Char)
  | [] => []
  | (name, value) :: rest => (renderText name ++ ':' :: render value) :: renderFields rest

end

/-- The compact text of a value. -/
def write (value : Json) : String :=
  String.ofList value.render

end Json
end Scriptlet
