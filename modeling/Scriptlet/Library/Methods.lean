import Scriptlet.Library.Signature
import Scriptlet.Value.Convert
import Scriptlet.Text.Case
import Scriptlet.Text.Split

/-!
# Methods of arrays and texts
-/

namespace Scriptlet
namespace Method

/-- The arguments of a method, its receiver included. -/
def signature : Method → Signature
  | .push => ⟨"MethodRegistry._register_array_methods.<locals>._push", ["items"], 0, true⟩
  | .pop => ⟨"MethodRegistry._register_array_methods.<locals>._pop", ["items"], 0, false⟩
  | .join => ⟨"MethodRegistry._register_array_methods.<locals>._join", ["items"], 1, false⟩
  | .upper | .lower =>
      ⟨"MethodRegistry._register_text_methods.<locals>.<lambda>", ["text"], 0, false⟩
  | .split => ⟨"MethodRegistry._register_text_methods.<locals>._split", ["text"], 1, false⟩

/-- The parts of a text between separators; an empty separator takes every character apart. -/
def splitText (text separator : String) : List String :=
  if separator.isEmpty then text.toList.map String.singleton
  else (Text.parts separator.toList text.toList).map String.ofList

/-- Joins the texts of the items of an array. -/
def joinItems (store : Store) (room : Nat) (items : ArrayId) (separator : Value) :
    Except Fault String := do
  let mark ← store.display room false separator
  return mark.intercalate (← (store.items items).toList.mapM (store.display room false))

/-- Performs a method on its receiver. -/
def perform (room : Nat) (method : Method) (receiver : Value) (arguments : List Value) :
    StoreM Value := do
  ofExcept (method.signature.check (arguments.length + 1))
  match method, receiver, arguments with
  | .push, .array id, values =>
      Store.changeArray id fun items => items ++ values.toArray
      return .number (Number.ofNat ((← get).items id).size)
  | .pop, .array id, _ =>
      let last := ((← get).items id).back?
      Store.changeArray id Array.pop
      return last.getD .absent
  | .join, .array id, [] =>
      return .text (← ofExcept (joinItems (← get) room id (.text ",")))
  | .join, .array id, separator :: _ =>
      return .text (← ofExcept (joinItems (← get) room id separator))
  | .upper, .text value, _ => return .text (Text.upper value)
  | .lower, .text value, _ => return .text (Text.lower value)
  | .split, .text value, [] => Store.addArray #[.text value]
  | .split, .text value, .absent :: _ => Store.addArray #[.text value]
  | .split, .text value, separator :: _ =>
      let mark ← ofExcept ((← get).display room false separator)
      Store.addArray ((splitText value mark).map Value.text).toArray
  | _, _, _ => return .absent

end Method

/-- Performs a method of the host on data of its receiver. -/
def HostMethod.performOn (room : Nat) (method : HostMethod) (receiver : Data)
    (arguments : List Value) : StoreM Value :=
  onData room arguments fun items => method.implementation.perform (receiver :: items)

/-- Performs a method on its receiver; a method of the host gets data of it, like of all
arguments. -/
def MethodEntry.perform (room : Nat) (method : MethodEntry) (receiver : Value)
    (arguments : List Value) : StoreM Value :=
  match method with
  | .standard method => method.perform room receiver arguments
  | .hosted method => onData room (receiver :: arguments) method.implementation.perform

end Scriptlet
