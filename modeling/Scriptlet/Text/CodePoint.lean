import Scriptlet.Text.Quoted

/-!
# Code points

What the texts of the host are made of. A code point is a character or a surrogate, half of a pair
that stands alone. The texts of scripts have characters only, so a text of the host is one of a
script if it has no surrogate. Some surrogates stand for bytes that are part of no character; such
bytes may be in the name of a file, and no other surrogate can be encoded in one.
-/

namespace Scriptlet.Text

/-- A code point. -/
inductive CodePoint where
  | character (c : Char)
  /-- The surrogate that comes `index` places after the first one. -/
  | surrogate (index : Fin 2048)
  deriving DecidableEq, Repr

namespace CodePoint

/-- The character that a code point is, if it is one. -/
def character? : CodePoint → Option Char
  | .character c => some c
  | .surrogate _ => none

/-- The character that is written for a code point in a text of a script. -/
def shown : CodePoint → Char
  | .character c => c
  | .surrogate _ => '\uFFFD'

/-- Whether a code point is a surrogate. -/
def isSurrogate (point : CodePoint) : Bool :=
  point.character?.isNone

/-- Whether no name of a file can have the code point. -/
def isUnencodable : CodePoint → Bool
  | .character _ => false
  | .surrogate index => index < 0x480 || 0x500 ≤ index

end CodePoint

/-- A text of the host. -/
abbrev HostText := List CodePoint

namespace HostText

/-- The text of the host with the characters of a text. -/
def ofString (text : String) : HostText :=
  text.toList.map .character

/-- The text of a script that a text of the host is, if it is one. -/
def toString? (text : HostText) : Option String :=
  (text.mapM CodePoint.character?).map String.ofList

/-- What is written for a text of the host in a text of a script. -/
def shown (text : HostText) : String :=
  String.ofList (text.map CodePoint.shown)

/-- What follows the first code points that can be in the name of a file. -/
def unencoded (text : HostText) : HostText :=
  text.dropWhile fun point => !point.isUnencodable

/-- A text up to its first code point that cannot be in the name of a file. -/
def throughUnencoded (text : HostText) : HostText :=
  (text.takeWhile fun point => !point.isUnencodable) ++ text.unencoded.take 1

/-- The wording for surrogates that cannot be encoded; `rest` starts with them, and `position` is
the place of the first one. -/
def encodingMessage (position : Nat) (rest : HostText) : String :=
  let place := match rest.takeWhile CodePoint.isSurrogate with
    | [.surrogate index] =>
        s!"character '\\u{String.ofList (hexDigits 4 (0xD800 + index))}' in position {position}"
    | run => s!"characters in position {position}-{position + run.length - 1}"
  s!"'utf-8' codec can't encode {place}: surrogates not allowed"

theorem mapM_character?_eq_some {points : HostText} {characters : List Char} :
    points.mapM CodePoint.character? = some characters ↔
      points = characters.map CodePoint.character := by
  induction points generalizing characters with
  | nil => cases characters <;> simp
  | cons point rest ih =>
      cases point with
      | surrogate => cases characters <;> simp [CodePoint.character?]
      | character c =>
          cases characters with
          | nil => simp [CodePoint.character?, Option.bind_eq_some_iff]
          | cons d characters =>
              simp [CodePoint.character?, Option.bind_eq_some_iff, ih, and_left_comm]

/-- The texts of the host that are texts of scripts are those that have only characters. -/
theorem toString?_eq_some {text : HostText} {string : String} :
    text.toString? = some string ↔ text = ofString string := by
  rw [toString?, Option.map_eq_some_iff, ofString]
  constructor
  · rintro ⟨characters, found, rfl⟩
    rw [String.toList_ofList]
    exact mapM_character?_eq_some.mp found
  · intro same
    exact ⟨_, mapM_character?_eq_some.mpr same, String.ofList_toList⟩

@[simp]
theorem toString?_ofString (text : String) : (ofString text).toString? = some text :=
  toString?_eq_some.mpr rfl

@[simp]
theorem shown_ofString (text : String) : (ofString text).shown = text := by
  simp [shown, ofString, Function.comp_def, CodePoint.shown]

end HostText

end Scriptlet.Text
