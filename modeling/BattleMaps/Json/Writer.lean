import BattleMaps.Decimal.Reading
import BattleMaps.Decimal.Shortest
import BattleMaps.Json.Basic
import BattleMaps.Text.Hex

/-!
# Writing JSON

Documents are stored in one canonical form: no blanks, members sorted by the code points of their
keys, and nothing but printable ASCII, so that equal documents are equal texts. Integers are
written out in full, up to the limit on digits that reading has too; past it a value is refused.

## Main definitions

* `Json.write`: the canonical text of a value
* `Json.isWritable`: whether no integer of a value passes the limit
-/

namespace BattleMaps.Json

/-- The words for the numbers that JSON proper has no text for. -/
def numberWords : Decimal.Words := ⟨"NaN", "Infinity"⟩

/-- The escape of one sixteen-bit unit. -/
def unitEscape (n : Nat) : List Char := '\\' :: 'u' :: Text.Hex.lower 4 n

/-- A character inside a text: printable ASCII as itself, the rest escaped, beyond U+FFFF as a
pair of units. -/
def writeChar (c : Char) : List Char :=
  if c = '"' ∨ c = '\\' then ['\\', c]
  else if c = '\n' then ['\\', 'n']
  else if c = '\r' then ['\\', 'r']
  else if c = '\t' then ['\\', 't']
  else if c = '\x08' then ['\\', 'b']
  else if c = '\x0c' then ['\\', 'f']
  else if ' ' ≤ c ∧ c ≤ '~' then [c]
  else if c.toNat < 0x10000 then unitEscape c.toNat
  else
    -- ten bits go into each half of the pair
    let n := c.toNat - 0x10000
    unitEscape (0xD800 + n / 0x400) ++ unitEscape (0xDC00 + n % 0x400)

def writeText (s : String) : List Char := '"' :: s.toList.flatMap writeChar ++ ['"']

/-- Puts a member before the first one of a greater key. -/
def insertByKey {α : Type} (member : String × α) : List (String × α) → List (String × α)
  | [] => [member]
  | other :: rest =>
    if other.1 < member.1 then other :: insertByKey member rest else member :: other :: rest

/-- The members in ascending order of their keys. -/
def sortByKey {α : Type} (members : List (String × α)) : List (String × α) :=
  members.foldr insertByKey []

def commaSeparated : List (List Char) → List Char
  | [] => []
  | [part] => part
  | part :: rest => part ++ ',' :: commaSeparated rest

mutual

/-- The canonical characters of a value. -/
def writeChars : Json → List Char
  | .null => "null".toList
  | .bool b => if b then "true".toList else "false".toList
  | .int n => (toString n).toList
  | .real x => (Decimal.render numberWords x).toList
  | .text s => writeText s
  | .array items => '[' :: commaSeparated (writeItems items) ++ [']']
  -- The values are written before the members are sorted: sorting looks at the keys only.
  | .object fields =>
    let members := (sortByKey (writeMembers fields)).map fun (key, value) =>
      writeText key ++ ':' :: value
    '{' :: commaSeparated members ++ ['}']

def writeItems : List Json → List (List Char)
  | [] => []
  | item :: rest => writeChars item :: writeItems rest

/-- The canonical characters of each member's value, still in the order of the members. -/
def writeMembers : List (String × Json) → List (String × List Char)
  | [] => []
  | (key, value) :: rest => (key, writeChars value) :: writeMembers rest

end

def write (v : Json) : String := String.ofList v.writeChars

/-! ## The limit -/

/-- Whether an integer has few enough digits to be written. -/
def isShort (n : Int) : Bool := (toString n.natAbs).length ≤ Decimal.maxIntegerDigits

mutual

/-- Whether no integer of a value has too many digits. -/
def isWritable : Json → Bool
  | .int n => isShort n
  | .array items => areItemsWritable items
  | .object fields => areMembersWritable fields
  | _ => true

def areItemsWritable : List Json → Bool
  | [] => true
  | item :: rest => isWritable item && areItemsWritable rest

def areMembersWritable : List (String × Json) → Bool
  | [] => true
  | (_, value) :: rest => isWritable value && areMembersWritable rest

end

end BattleMaps.Json
