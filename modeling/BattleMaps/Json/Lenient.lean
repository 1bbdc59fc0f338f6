import BattleMaps.Decimal.Reading
import BattleMaps.Json.Shown

/-!
# Lenient readings

Campaign files and model answers are written by hand or by a language model, so a number may come
as a text and a word in any case. The readings here say what such a value is taken for; none of
them fails.

## Main definitions

* `Json.wholeNumber?`: the integer that a value spells, as a number or as a text
* `Json.word`: a value as a trimmed lower-case word
* `Json.textList?`: the non-blank texts of a list
-/

namespace BattleMaps.Json

/-- The integer that a value spells: an integer is itself, a number with a fraction of zero and a
text that spells one are what they equal. A text is read as a double first. Truth values are no
numbers. -/
def wholeNumber? : Json → Option Int
  | .int n => some n
  | .real x => Decimal.integer? x
  | .text s => (Decimal.ofText? (Text.trim s)).bind Decimal.integer?
  | _ => none

/-- A value as a trimmed word in lower case; what does not count as given is the empty word. Only
ASCII letters change case: the words that are looked up consist of them, and no other letter has
one of theirs as its lower case except the Kelvin sign, whose `k` none of them has. -/
def word (v : Json) : String :=
  String.ofList ((Text.trimChars v.plainIfFilled.toList).map Char.toLower)

/-- A value as a trimmed text of its own, if it counts as given and is not blank. -/
def trimmed? (v : Json) : Option String := Text.nonBlank? v.plainIfFilled

/-- The trimmed text of a value that is a text and not blank. -/
def nonBlankText? : Json → Option String
  | .text s => Text.nonBlank? s
  | _ => none

/-- The texts of a list as they stand; everything else in the list is passed over. -/
def texts : Json → List String
  | .array items => items.filterMap fun
    | .text s => some s
    | _ => none
  | _ => []

/-- The non-blank texts of a list, trimmed, if it has any. -/
def textList? : Json → Option (List String)
  | .array items =>
    match items.filterMap nonBlankText? with
    | [] => none
    | kept => some kept
  | _ => none

end BattleMaps.Json
