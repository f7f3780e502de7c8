import Scriptlet.Library.Signature
import Scriptlet.Value.Convert
import Scriptlet.Calendar

/-!
# Dates

A date is a record of its calendar fields with its number of milliseconds and its text.
-/

namespace Scriptlet

/-- A new record of a moment. -/
def newDate (milliseconds : Float) (moment : Moment) : StoreM ObjectId := do
  let iso ← Store.addNative "iso" (.isoAt milliseconds)
  Data.newRecord "Date"
    [("year", .int moment.year), ("month", .int moment.month), ("day", .int moment.day),
      ("hour", .int moment.hour), ("minute", .int moment.minute), ("second", .int moment.second),
      ("timestamp", .float milliseconds), ("iso", .host iso)]

/-- The date of a number of milliseconds. -/
def dateAt (milliseconds : Float) : StoreM Data :=
  match Moment.ofMilliseconds? milliseconds with
  | some moment => do return .host (← newDate milliseconds moment)
  | none => throw (.ofMisuse (.dateRange (Number.display milliseconds)))

/-- The date of the argument, or the present date. -/
def makeDate (room : Nat) (arguments : List Data) : StoreM Data := do
  ofExcept (Signature.check ⟨"make_date.<locals>._construct", [], 1, false⟩ arguments.length)
  let store ← get
  match arguments with
  | [] | .null :: _ => dateAt store.now
  | .float milliseconds :: _ => dateAt milliseconds
  | data :: _ =>
      throw (.ofMisuse (.dateOperand (← ofExcept (store.displayData room false data))))

/-- The text of the date of a number of milliseconds. -/
def isoText (milliseconds : Float) : Except Fault Data :=
  match Moment.ofMilliseconds? milliseconds with
  | some moment => .ok (.text moment.iso)
  | none => .error (.host .wrongValue "year is out of range")

end Scriptlet
