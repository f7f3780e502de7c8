import Scriptlet.Library.Signature
import Scriptlet.Value.Convert
import Scriptlet.Value.JsonForm
import Scriptlet.Json.Reader
import Scriptlet.Json.Writer

/-!
# JSON texts

Values are written as JSON texts and read from them.
-/

namespace Scriptlet

/-- The JSON text of a value; what has no JSON form of its own gives the undefined value. -/
def jsonText (room : Nat) (arguments : List Value) : StoreM Value := do
  ofExcept (Signature.check ⟨"_json_stringify", [], 1, false⟩ arguments.length)
  let store ← get
  let value := arguments.headD .absent
  let isExpressible := match value with
    | .absent | .closure _ => false
    | .host id => match store.objects[id]? with
      | some (.record ..) => true
      | _ => false
    | _ => true
  if isExpressible then return .text (← ofExcept (store.toJson room value)).write
  else return .absent

/-- The value of a JSON text. -/
def jsonValue (room : Nat) (arguments : List Value) : StoreM Value := do
  ofExcept (Signature.check ⟨"_json_parse", [], 1, false⟩ arguments.length)
  match arguments.headD .absent with
  | .text text =>
      match Json.read (room / 2) text.toList with
      | .ok value => do (← value.toData).wrap
      | .error (.invalid problem position) =>
          throw (.ofMisuse (.jsonText (Json.problemMessage text.toList problem position)))
      | .error (.digits count) => throw (.host .wrongValue (Json.digitsMessage count))
      | .error .tooDeep => throw .exhausted
  | other => throw (.ofMisuse (.jsonSource other.kind))

end Scriptlet
