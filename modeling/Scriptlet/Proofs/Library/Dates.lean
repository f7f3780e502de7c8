import Scriptlet.Proofs.Calendar.Text
import Scriptlet.Proofs.Library.Extremes

/-!
# Dates and their texts

A date that is made for an integral number of milliseconds has the calendar fields of its text, and
the text is read back as that number, or as one less.  The number is lost only for dates more than
2 ^ 33 seconds away from 1970: a quotient by one thousand that is rounded down there can fall below
the millisecond it stands for, and the text leaves out the rest of a millisecond.
-/

namespace Scriptlet

/-- The fields of a record are those of a moment. -/
structure Moment.HasFields (moment : Moment) (fields : Assoc Field) : Prop where
  year : fields.get? "year" = some (.raw (.int moment.year))
  month : fields.get? "month" = some (.raw (.int moment.month))
  day : fields.get? "day" = some (.raw (.int moment.day))
  hour : fields.get? "hour" = some (.raw (.int moment.hour))
  minute : fields.get? "minute" = some (.raw (.int moment.minute))
  second : fields.get? "second" = some (.raw (.int moment.second))

section Operations

variable {milliseconds : Float} {moment : Moment}

/-- A new date has the fields of its moment, and a function that writes its text. -/
theorem newDate_spec (milliseconds : Float) (moment : Moment) (store : Store) :
    ∃ (date iso : ObjectId) (fields : Assoc Field) (after : Store),
      newDate milliseconds moment store = .ok date after ∧
      after.objects[date]? = some (.record "Date" fields) ∧
      fields.get? "iso" = some (.raw (.host iso)) ∧
      after.objects[iso]? = some (.function "iso" (.native (.isoAt milliseconds))) ∧
      moment.HasFields fields := by
  let function : HostObject := .function "iso" (.native (.isoAt milliseconds))
  refine ⟨(store.objects.push function).size, store.objects.size, _, _, rfl,
    Array.getElem?_push_size,
    rfl, ?_, ⟨rfl, rfl, rfl, rfl, rfl, rfl⟩⟩
  change ((store.objects.push function).push _)[store.objects.size]? = _
  rw [Array.getElem?_push, if_neg (by simp), Array.getElem?_push_size]

/-- A date is made for a number of milliseconds that has a moment, and for no other one. -/
theorem perform_date (room : Nat) (store : Store) (milliseconds : Float) :
    Native.perform room .date [.number milliseconds] store =
      match Moment.ofMilliseconds? milliseconds with
      | some moment => (do return .host (← newDate milliseconds moment) : StoreM Value) store
      | none => .error (.ofMisuse (.dateRange (Number.display milliseconds))) store := by
  change onData room ([milliseconds].map .number) (makeDate room) store = _
  rw [onData_numbers]
  change (dateAt milliseconds >>= Data.wrap) store = _
  rw [dateAt]
  cases Moment.ofMilliseconds? milliseconds with
  | none => rfl
  | some moment => rfl

/-- The text of a date does not depend on the store. -/
theorem perform_isoAt (found : Moment.ofMilliseconds? milliseconds = some moment) (room : Nat)
    (store : Store) :
    Native.perform room (.isoAt milliseconds) [] store = .ok (.text moment.iso) store := by
  have text : isoText milliseconds = .ok (.text moment.iso) := by
    rw [isoText, found]
  change onData room ([].map .number) _ store = _
  rw [onData_numbers]
  change (ofExcept (isoText milliseconds) >>= Data.wrap) store = _
  rw [text]
  rfl

end Operations

/-- The date that is made for an integral number of milliseconds has a text, and the fields of the
moment that the text is read as. This is the moment of the number, or of one millisecond less; at
most 2 ^ 33 seconds from the start of 1970 it is the moment of the number. -/
theorem date_readsBack {room : Nat} {milliseconds : Float} {n : ℤ} {store after : Store}
    {value : Value} (whole : Number.toInt? milliseconds = some n)
    (made : Native.perform room .date [.number milliseconds] store = .ok value after) :
    ∃ (date iso : ObjectId) (fields : Assoc Field) (text : String) (read : Moment),
      value = .host date ∧
      after.objects[date]? = some (.record "Date" fields) ∧
      fields.get? "iso" = some (.raw (.host iso)) ∧
      after.objects[iso]? = some (.function "iso" (.native (.isoAt milliseconds))) ∧
      (∀ room later, Native.perform room (.isoAt milliseconds) [] later = .ok (.text text) later) ∧
      Moment.read? text = some read ∧
      read.IsValid ∧
      read.HasFields fields ∧
      (read.milliseconds = n ∨ read.milliseconds = n - 1) ∧
      (n.natAbs ≤ 8589934592000 → read.milliseconds = n) := by
  rw [perform_date] at made
  cases found : Moment.ofMilliseconds? milliseconds with
  | none =>
      rw [found] at made
      cases made
  | some moment =>
      obtain ⟨date, iso, fields, final, record, kept, member, function, fieldsOf⟩ :=
        newDate_spec milliseconds moment store
      rw [found] at made
      obtain ⟨rfl, rfl⟩ : value = .host date ∧ after = final := by
        have again := made.symm.trans (bind_of_ok record)
        cases again
        exact ⟨rfl, rfl⟩
      obtain ⟨valid, near, exactly⟩ :=
        ofMilliseconds?_milliseconds (Number.value?_of_toInt? whole) found
      refine ⟨date, iso, fields, moment.iso, moment.truncated, rfl, kept, member, function,
        fun room later => perform_isoAt found room later, Moment.read?_iso valid, valid.truncated,
        ?_, ?_, ?_⟩
      · exact ⟨fieldsOf.year, fieldsOf.month, fieldsOf.day, fieldsOf.hour, fieldsOf.minute,
          fieldsOf.second⟩
      · rwa [moment.milliseconds_truncated]
      · rwa [moment.milliseconds_truncated]

/-- One millisecond more than 2 ^ 33 seconds is lost in the text. -/
theorem date_readsBack_late :
    Number.toInt? 8589934592001 = some 8589934592001 ∧
      ∃ (value : Value) (after : Store) (text : String) (read : Moment),
        Native.perform 9 .date [.number 8589934592001] {} = .ok value after ∧
        Native.perform 9 (.isoAt 8589934592001) [] after = .ok (.text text) after ∧
        Moment.read? text = some read ∧
        read.milliseconds = 8589934592000 := by
  have whole : Number.toInt? 8589934592001 = some 8589934592001 := by decide +kernel
  have found : Moment.ofMilliseconds? 8589934592001 =
      some ⟨2242, 3, 16, 12, 56, 32, 999⟩ := by decide +kernel
  obtain ⟨date, iso, fields, after, record, -⟩ :=
    newDate_spec 8589934592001 ⟨2242, 3, 16, 12, 56, 32, 999⟩ {}
  have made : Native.perform 9 .date [.number 8589934592001] {} = .ok (.host date) after := by
    rw [perform_date, found]
    exact bind_of_ok record
  obtain ⟨-, -, -, text, read, -, -, -, -, answers, reads, -⟩ := date_readsBack whole made
  have same : text = (⟨2242, 3, 16, 12, 56, 32, 999⟩ : Moment).iso := by
    have answer := answers 9 after
    rw [perform_isoAt found] at answer
    cases answer
    rfl
  refine ⟨whole, .host date, after, text, read, made, answers 9 after, reads, ?_⟩
  rw [same, Moment.read?_iso (by decide)] at reads
  cases reads
  decide +kernel

end Scriptlet
