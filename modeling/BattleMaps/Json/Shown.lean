import BattleMaps.Decimal.Shortest
import BattleMaps.Json.Basic
import BattleMaps.Text.Quoted

/-!
# Values inside messages

A refused value is shown to the reader of a message, and an id or a name may be given as a value
that is no text. Shown values read `True`, `False` and `None`, put texts between quotes, and
separate items and members by a comma and a space, members in their own order. An integer that has
been read is within the reader's limit on digits, so that each can be shown in full.

## Main definitions

* `Json.shown`: a value as messages show it
* `Json.plain`: a value as a text of its own, which leaves texts unquoted
-/

namespace BattleMaps.Json

/-- The words that messages use for the numbers that are none. -/
def messageWords : Decimal.Words := ⟨"nan", "inf"⟩

/-- The parts with a comma and a space between them. -/
def spacedCommas (parts : List String) : String := ", ".intercalate parts

mutual

/-- A value as messages show it. -/
def shown : Json → String
  | .null => "None"
  | .bool b => if b then "True" else "False"
  | .int n => toString n
  | .real x => Decimal.render messageWords x
  | .text s => Text.quote s
  | .array items => "[" ++ spacedCommas (shownItems items) ++ "]"
  | .object fields => "\x7b" ++ spacedCommas (shownMembers fields) ++ "\x7d"

def shownItems : List Json → List String
  | [] => []
  | item :: rest => shown item :: shownItems rest

def shownMembers : List (String × Json) → List String
  | [] => []
  | (key, value) :: rest => (Text.quote key ++ ": " ++ shown value) :: shownMembers rest

end

/-- A value as a text of its own: a text is itself, all else as messages show it. -/
def plain : Json → String
  | .text s => s
  | v => v.shown

/-- A value as a text of its own, and the empty text for a value that does not count as given. -/
def plainIfFilled (v : Json) : String := if v.isFilled then v.plain else ""

end BattleMaps.Json
