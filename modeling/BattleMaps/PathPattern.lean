import BattleMaps.Text.Digit
import BattleMaps.Text.Quoted

/-!
# Path patterns

Pictures are kept under a path made from a pattern. Fields between braces hold names that stand for
the ids of the campaign and of the map; a doubled brace is a brace. The first thing that is wrong
with a pattern counts, from left to right.

A field may say after its name how the value is to be written. The two ids are only written as they
are, so this is of use in no field, but it must have its form.

## Main definitions

* `PathPattern.expand`: the path that a pattern gives for two ids
-/

namespace BattleMaps.PathPattern

/-- What can be wrong with a pattern. -/
inductive Fault where
  -- It names something other than the two ids.
  | unknownName (name : String)
  -- A field has a number, or neither a number nor a name and is counted.
  | numbered (index : Nat)
  | hugeNumber
  -- The name of an id is followed by something.
  | notPlain (name : String)
  | braceInName
  | unclosedName
  | noConversion
  -- A conversion is followed by something that is not its format.
  | afterConversion
  | unclosedFormat
  -- A brace stands alone; the text of the complaint differs between the two.
  | lone (opening : Bool)
deriving DecidableEq, Repr

/-- The wording of a fault; an unknown name is only quoted. -/
def Fault.message : Fault → String
  | .unknownName name => Text.quote name
  | .numbered index => s!"Replacement index {index} out of range for positional args tuple"
  | .hugeNumber => "Too many decimal digits in format string"
  | .notPlain name => s!"{name} can only be written as it is"
  | .braceInName => "unexpected '\x7b' in field name"
  | .unclosedName => "expected '\x7d' before end of string"
  | .noConversion => "end of string while looking for conversion specifier"
  | .afterConversion => "expected ':' after conversion specifier"
  | .unclosedFormat => "unmatched '\x7b' in format spec"
  | .lone true => "Single '\x7b' encountered in format string"
  | .lone false => "Single '\x7d' encountered in format string"

/-! ## Fields -/

/-- Where in a field a character stands. -/
inductive Stage where
  | name
  -- Between brackets in the name, which only a closing bracket ends.
  | bracket
  | conversion
  | converted
  -- In the format, with so many braces open inside of the field's own.
  | format (opened : Nat)
deriving DecidableEq, Repr

namespace Stage

/-- The stage after a character, or none if the field ends with it. -/
def after (c : Char) : Stage → Except Fault (Option Stage)
  | .name =>
    match c with
    | '\x7d' => .ok none
    | '\x7b' => .error .braceInName
    | '[' => .ok (some .bracket)
    | ':' => .ok (some (.format 0))
    | '!' => .ok (some .conversion)
    | _ => .ok (some .name)
  | .bracket => .ok (some (if c = ']' then .name else .bracket))
  | .conversion => .ok (some .converted)
  | .converted =>
    match c with
    | '\x7d' => .ok none
    | ':' => .ok (some (.format 0))
    | _ => .error .afterConversion
  | .format opened =>
    match c, opened with
    | '\x7d', 0 => .ok none
    | '\x7d', opened + 1 => .ok (some (.format opened))
    | '\x7b', opened => .ok (some (.format (opened + 1)))
    | _, opened => .ok (some (.format opened))

/-- What is wrong with a pattern that ends at a stage. -/
def fault : Stage → Fault
  | .name | .bracket => .unclosedName
  | .conversion => .noConversion
  | .converted | .format _ => .unclosedFormat

end Stage

/-- Whether a character may be part of the name that a field starts with. -/
def isNameChar (c : Char) : Bool := ['.', '[', ':', '!'].all (· != c)

def maxNumber : Nat := 9223372036854775807

/-- What is wrong with a field that has decimal digits, or nothing, for a name. -/
def numberFault (digits : List Nat) : Fault :=
  if Text.ofDigits digits ≤ maxNumber then .numbered (Text.ofDigits digits) else .hugeNumber

/-- The value of a field, given the two ids. -/
def value (campaignId mapId : String) (field : List Char) : Except Fault (List Char) :=
  let name := field.takeWhile isNameChar
  match name.mapM Text.digit? with
  | some digits => .error (numberFault digits)
  | none =>
    let plain (id : String) : Except Fault (List Char) :=
      if name = field then .ok id.toList else .error (.notPlain (String.ofList name))
    if name = "campaign_id".toList then plain campaignId
    else if name = "map_spec_id".toList then plain mapId
    else .error (.unknownName (String.ofList name))

/-! ## Patterns -/

/-- The characters that a pattern gives for two ids. Inside a field, the state is the field so far,
last character first, and the stage of the next character. -/
def chars (campaignId mapId : String) :
    Option (List Char × Stage) → List Char → Except Fault (List Char)
  | none, [] => .ok []
  | none, ['\x7b'] => .error (.lone true)
  | none, '\x7b' :: '\x7b' :: rest => (chars campaignId mapId none rest).map ('\x7b' :: ·)
  | none, '\x7d' :: '\x7d' :: rest => (chars campaignId mapId none rest).map ('\x7d' :: ·)
  | none, '\x7b' :: rest => chars campaignId mapId (some ([], .name)) rest
  | none, '\x7d' :: _ => .error (.lone false)
  | none, c :: rest => (chars campaignId mapId none rest).map (c :: ·)
  | some (_, stage), [] => .error stage.fault
  | some (field, stage), c :: rest => do
    match ← stage.after c with
    | some next => chars campaignId mapId (some (c :: field, next)) rest
    | none =>
      let written ← value campaignId mapId field.reverse
      let others ← chars campaignId mapId none rest
      .ok (written ++ others)

/-- The path that a pattern gives for two ids. -/
def expand (pattern campaignId mapId : String) : Except Fault String :=
  (chars campaignId mapId none pattern.toList).map String.ofList

end BattleMaps.PathPattern
