import Scriptlet.Calendar
import Scriptlet.Number.Format
import Scriptlet.Text.Quoted

/-!
# YAML values

The values that a configuration file can hold, and their literal forms, which messages quote. A list
or a table may hold itself; where it does so, its literal form is cut off. The host does not write
out an integer with too many digits, nor values that are nested too deep.
-/

namespace Scriptlet

/-- A YAML value. The keys of a table can be values of any kind. -/
inductive Yaml where
  | null
  | bool (value : Bool)
  | int (value : Int)
  | float (value : Float)
  | text (value : String)
  | bytes (value : List UInt8)
  | date (year month day : Nat)
  /-- A day and a time of day, in a time zone that is so many minutes ahead if it has one. -/
  | moment (value : Moment) (zone : Option Int)
  | list (items : List Yaml)
  /-- A pair, as the items of an ordered table are. -/
  | pair (first second : Yaml)
  /-- A set; its items come in the order in which the host lists them. -/
  | set (items : List Yaml)
  | table (entries : List (Yaml × Yaml))
  /-- A list, or a table, that this value is inside of. -/
  | enclosing (isTable : Bool)
  deriving Repr, Inhabited

namespace Yaml

/-- The literal form of bytes. -/
def bytesLiteral (bytes : List UInt8) : String :=
  let mark := Text.quoteMark (bytes.map fun byte => Char.ofNat byte.toNat)
  let written (byte : UInt8) : List Char :=
    if byte < 0x80 then Text.quoteChar mark (Char.ofNat byte.toNat)
    else '\\' :: 'x' :: Text.hexDigits 2 byte.toNat
  "b" ++ String.ofList (mark :: (bytes.flatMap written ++ [mark]))

/-- The text of a date. -/
def dateText (year month day : Nat) : String :=
  Moment.padded 4 year ++ "-" ++ Moment.padded 2 month ++ "-" ++ Moment.padded 2 day

/-- The text of a moment in a time zone. -/
def momentText (moment : Moment) (zone : Option Int) : String :=
  let fraction :=
    if moment.microsecond = 0 then "" else "." ++ Moment.padded 6 moment.microsecond
  let offset := match zone with
    | none => ""
    | some minutes =>
        (if minutes < 0 then "-" else "+") ++ Moment.padded 2 (minutes.natAbs / 60) ++ ":" ++
          Moment.padded 2 (minutes.natAbs % 60)
  dateText moment.year moment.month moment.day ++ " " ++ Moment.padded 2 moment.hour ++ ":" ++
    Moment.padded 2 moment.minute ++ ":" ++ Moment.padded 2 moment.second ++ fraction ++ offset

/-- The literal form of a time zone. -/
def zoneLiteral (minutes : Int) : String :=
  if minutes = 0 then "datetime.timezone.utc"
  else
    let days := minutes.fdiv 1440
    let seconds := (minutes - days * 1440) * 60
    let parts := (if days = 0 then [] else [s!"days={days}"]) ++
      (if seconds = 0 then [] else [s!"seconds={seconds}"])
    "datetime.timezone(datetime.timedelta(" ++ ", ".intercalate parts ++ "))"

/-- The literal form of a moment in a time zone. -/
def momentLiteral (moment : Moment) (zone : Option Int) : String :=
  let small :=
    if moment.microsecond ≠ 0 then [moment.second, moment.microsecond]
    else if moment.second ≠ 0 then [moment.second]
    else []
  let numbers := [moment.year, moment.month, moment.day, moment.hour, moment.minute] ++ small
  let named := match zone with
    | none => []
    | some minutes => ["tzinfo=" ++ zoneLiteral minutes]
  "datetime.datetime(" ++ ", ".intercalate (numbers.map toString ++ named) ++ ")"

mutual

/-- The literal form of a value. -/
def literal : Yaml → String
  | .null => "None"
  | .bool true => "True"
  | .bool false => "False"
  | .int n => toString n
  | .float x => Number.literal x
  | .text value => Text.quoted value
  | .bytes value => bytesLiteral value
  | .date year month day => s!"datetime.date({year}, {month}, {day})"
  | .moment value zone => momentLiteral value zone
  | .list items => "[" ++ ", ".intercalate (itemLiterals items) ++ "]"
  | .pair first second => "(" ++ first.literal ++ ", " ++ second.literal ++ ")"
  | .set [] => "set()"
  | .set (first :: rest) =>
      "\x7b" ++ ", ".intercalate (first.literal :: itemLiterals rest) ++ "\x7d"
  | .table entries => "\x7b" ++ ", ".intercalate (entryLiterals entries) ++ "\x7d"
  | .enclosing false => "[...]"
  | .enclosing true => "\x7b...\x7d"

/-- The literal forms of items. -/
def itemLiterals : List Yaml → List String
  | [] => []
  | item :: rest => item.literal :: itemLiterals rest

/-- The literal forms of entries. -/
def entryLiterals : List (Yaml × Yaml) → List String
  | [] => []
  | (key, value) :: rest => (key.literal ++ ": " ++ value.literal) :: entryLiterals rest

end

/-- The most digits that an integer is written out with. -/
def digitLimit : Nat := 4300

/-- How many levels of values inside each other the host has room to write out. -/
def literalRoom : Nat := 998

/-- Why the host does not write a value out. -/
inductive Obstacle where
  /-- An integer has too many digits. -/
  | digits
  /-- Values are nested too deep. -/
  | depth
  deriving DecidableEq, Repr

mutual

/-- What the host first meets in a value that it does not write out, if it has room for so many
levels of values inside each other. A set takes two of them. -/
def obstacle? : Yaml → (room : Nat) → Option Obstacle
  | _, 0 => some .depth
  | .int n, _ + 1 => if n.natAbs < 10 ^ digitLimit then none else some .digits
  | .list items, room + 1 => itemsObstacle? items room
  | .pair first second, room + 1 => (first.obstacle? room).or (second.obstacle? room)
  | .set [], _ + 1 => none
  | .set (_ :: _), 1 => some .depth
  | .set (first :: rest), room + 2 => (first.obstacle? room).or (itemsObstacle? rest room)
  | .table entries, room + 1 => entriesObstacle? entries room
  | .null, _ + 1 | .bool _, _ + 1 | .float _, _ + 1 | .text _, _ + 1 | .bytes _, _ + 1
  | .date .., _ + 1 | .moment .., _ + 1 | .enclosing _, _ + 1 => none

/-- What the host first meets in items. -/
def itemsObstacle? : List Yaml → (room : Nat) → Option Obstacle
  | [], _ => none
  | item :: rest, room => (item.obstacle? room).or (itemsObstacle? rest room)

/-- What the host first meets in keys and values. -/
def entriesObstacle? : List (Yaml × Yaml) → (room : Nat) → Option Obstacle
  | [], _ => none
  | (key, value) :: rest, room =>
      (key.obstacle? room).or ((value.obstacle? room).or (entriesObstacle? rest room))

end

/-- Whether the host writes a value out as a literal. -/
def isWritable (room : Nat) (value : Yaml) : Bool :=
  (value.obstacle? room).isNone

/-- The text of a value: a text stands for itself, a date for its usual form, anything else for its
literal form. -/
def plain : Yaml → String
  | .text value => value
  | .date year month day => dateText year month day
  | .moment value zone => momentText value zone
  | other => other.literal

/-- What the host first meets in a value that it does not make a text; a text is one already. -/
def plainObstacle? : Yaml → (room : Nat) → Option Obstacle
  | .text _, _ => none
  | other, room => other.obstacle? room

/-- Whether the host makes a value a text. -/
def isSayable (room : Nat) (value : Yaml) : Bool :=
  (value.plainObstacle? room).isNone

/-- The name of the type of a value. -/
def typeName : Yaml → String
  | .null => "NoneType"
  | .bool _ => "bool"
  | .int _ => "int"
  | .float _ => "float"
  | .text _ => "str"
  | .bytes _ => "bytes"
  | .date .. => "datetime.date"
  | .moment .. => "datetime.datetime"
  | .list _ | .enclosing false => "list"
  | .pair .. => "tuple"
  | .set _ => "set"
  | .table _ | .enclosing true => "dict"

/-- The integer that a value counts as among numbers; the booleans count as zero and one. -/
def whole? : Yaml → Option Int
  | .bool value => some (if value then 1 else 0)
  | .int n => some n
  | _ => none

/-- Whether a value stands before another one: texts by their characters, numbers by their size. The
order of other values of one kind shows nowhere, since none of them can be listed. -/
def precedes : Yaml → Yaml → Bool
  | .text a, .text b => a < b
  | .float x, .float y => x < y
  | .float x, other => other.whole?.any fun n =>
      match Number.floor? x with
      | some below => below < n
      | none => x < 0.0
  | other, .float x => other.whole?.any fun n =>
      match Number.ceil? x with
      | some above => n < above
      | none => 0.0 < x
  | a, b => match a.whole?, b.whole? with
      | some m, some n => m < n
      | _, _ => false

/-- Whether a value counts as nothing: null, zero, false, or empty. -/
def isEmpty : Yaml → Bool
  | .null => true
  | .bool value => !value
  | .int n => n == 0
  | .float x => x == 0.0
  | .text value => value.isEmpty
  | .bytes value => value.isEmpty
  | .list items | .set items => items.isEmpty
  | .table entries => entries.isEmpty
  | .date .. | .moment .. | .pair .. | .enclosing _ => false

/-- Gives a key a value in a table: in place if the table has the key, else at the end. -/
def putEntry (key value : Yaml) : List (Yaml × Yaml) → List (Yaml × Yaml)
  | [] => [(key, value)]
  | (other, old) :: rest =>
      if other.literal = key.literal then (other, value) :: rest
      else (other, old) :: putEntry key value rest

end Yaml

end Scriptlet
