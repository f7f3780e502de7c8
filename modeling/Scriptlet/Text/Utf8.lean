import Scriptlet.Text.Quoted

/-!
# Reading UTF-8

Bytes are read from left to right, and the first sequence that is no character ends the reading with
a fault that names the offending bytes and the reason.
-/

namespace Scriptlet.Text

/-- Why bytes are not a character. -/
inductive Utf8Reason where
  | invalidStart
  | invalidContinuation
  | unexpectedEnd
  deriving DecidableEq, Repr

/-- The wording of a reason. -/
def Utf8Reason.message : Utf8Reason → String
  | .invalidStart => "invalid start byte"
  | .invalidContinuation => "invalid continuation byte"
  | .unexpectedEnd => "unexpected end of data"

/-- Bytes that are no character: `size` of them from position `start`, the first being `byte`. -/
structure Utf8Fault where
  start : Nat
  size : Nat
  byte : UInt8
  reason : Utf8Reason
  deriving DecidableEq, Repr

/-- The wording of a fault. -/
def Utf8Fault.message (fault : Utf8Fault) : String :=
  let place :=
    if fault.size = 1 then
      s!"byte 0x{String.ofList (hexDigits 2 fault.byte.toNat)} in position {fault.start}"
    else s!"bytes in position {fault.start}-{fault.start + fault.size - 1}"
  s!"'utf-8' codec can't decode {place}: {fault.reason.message}"

/-- The form that a lead byte announces: how many continuation bytes follow, the payload of the lead
byte itself, and the bounds of the first continuation byte. -/
structure Lead where
  count : Nat
  payload : Nat
  low : UInt8
  high : UInt8

/-- What a byte announces when it stands first; nothing if no character starts with it. -/
def lead? (b : UInt8) : Option Lead :=
  let n := b.toNat
  if n < 0x80 then some ⟨0, n, 0x80, 0xBF⟩
  else if n < 0xC2 then none
  else if n < 0xE0 then some ⟨1, n - 0xC0, 0x80, 0xBF⟩
  else if n < 0xF0 then
    some ⟨2, n - 0xE0, if n = 0xE0 then 0xA0 else 0x80, if n = 0xED then 0x9F else 0xBF⟩
  else if n < 0xF5 then
    some ⟨3, n - 0xF0, if n = 0xF0 then 0x90 else 0x80, if n = 0xF4 then 0x8F else 0xBF⟩
  else none

/-- The continuation bytes of one character: the value after `count` more bytes and the bytes after
them, or the reason and the number of continuation bytes that were in order. -/
def continuation : (count value taken : Nat) → (low high : UInt8) → List UInt8 →
    Except (Utf8Reason × Nat) (Nat × List UInt8)
  | 0, value, _, _, _, rest => .ok (value, rest)
  | _ + 1, _, taken, _, _, [] => .error (.unexpectedEnd, taken)
  | count + 1, value, taken, low, high, b :: rest =>
      if low ≤ b ∧ b ≤ high then
        continuation count (value * 64 + (b.toNat - 0x80)) (taken + 1) 0x80 0xBF rest
      else
        .error (.invalidContinuation, taken)

/-- Reads at most `fuel` characters from the bytes at position `position`. -/
def decodeFrom : (fuel position : Nat) → List UInt8 → List Char → Except Utf8Fault (List Char)
  | 0, _, _, read => .ok read.reverse
  | _ + 1, _, [], read => .ok read.reverse
  | fuel + 1, position, b :: rest, read =>
      match lead? b with
      | none => .error ⟨position, 1, b, .invalidStart⟩
      | some lead =>
          match continuation lead.count lead.payload 0 lead.low lead.high rest with
          | .error (reason, taken) => .error ⟨position, taken + 1, b, reason⟩
          | .ok (value, rest) =>
              decodeFrom fuel (position + lead.count + 1) rest (Char.ofNat value :: read)

/-- The characters that bytes stand for. -/
def decodeUtf8 (bytes : List UInt8) : Except Utf8Fault (List Char) :=
  decodeFrom bytes.length 0 bytes []

end Scriptlet.Text
