import BattleMaps.Decimal.Reading
import BattleMaps.Store.Address.Basic
import BattleMaps.Store.Address.Parts
import BattleMaps.Text.Quoted

/-!
# Options of a database's address

Some options stand for numbers and switches, which must be readable as such although only one of
them matters here: whether the path is an address of its own. The first option that cannot be read
counts, in a fixed order; numbers that are too large are noticed after that.

## Main definitions

* `Options.check`: whether the options can be read, and whether the path is an address of its own
* `Options.others`: the options that belong to such an address
-/

namespace BattleMaps.Store.Address.Options

def values (o : Options) (name : String) : List String :=
  o.filterMap fun (key, value) => if key = name then some value else none

def onWords : List String := ["true", "yes", "on", "y", "t", "1"]

def offWords : List String := ["false", "no", "off", "n", "f", "0"]

/-- Whether a switch is on; one that is given several times is. -/
def switch (o : Options) (name : String) : Except AddressFault Bool :=
  match o.values name with
  | [] => .ok false
  | [s] =>
    let word := String.ofList ((Text.trim s).toList.map Char.toLower)
    if onWords.contains word then .ok true
    else if offWords.contains word then .ok false
    else .error .unreadable
  | _ => .ok true

/-- The number that an option stands for, if it is given, read in some way. -/
def number {α : Type} (read : String → Option α) (o : Options) (name : String) :
    Except AddressFault (Option α) :=
  match o.values name with
  | [] => .ok none
  | [s] =>
    match read s with
    | some n => .ok (some n)
    | none => .error .unreadable
  | _ => .error .repeatedNumber

def fits : Option Int → Bool
  | some n => -0x80000000 ≤ n && n < 0x80000000
  | none => true

/-- What is noticed of the options only when the database is opened: numbers that are too large, and
a level of isolation that is given several times. -/
def checkOpening (o : Options) (types statements : Option Int) : Except AddressFault Unit :=
  if !fits types then .error .hugeNumber
  else if 1 < (o.values "isolation_level").length then .error .unreadable
  else if !fits statements then .error .hugeNumber
  else .ok ()

/-- Whether the path is an address of its own, and what is noticed of the options at the opening. -/
def check (o : Options) : Except AddressFault (Bool × Except AddressFault Unit) := do
  let isAddress ← o.switch "uri"
  let _ ← o.number Decimal.ofText? "timeout"
  let types ← o.number Decimal.integerOfText? "detect_types"
  let _ ← o.switch "check_same_thread"
  let statements ← o.number Decimal.integerOfText? "cached_statements"
  .ok (isAddress, o.checkOpening types statements)

/-- The options with a meaning of their own. -/
def knownNames : List String :=
  ["uri", "timeout", "isolation_level", "detect_types", "check_same_thread", "cached_statements"]

/-- The one value of an option, or its several values as a list in parentheses. -/
def shown (o : Options) (name : String) : String :=
  match o.values name with
  | [s] => s
  | several => "(" ++ ", ".intercalate (several.map Text.quote) ++ ")"

/-- The options that belong to the path when that is an address of its own, ordered by name. -/
def others (o : Options) : Options :=
  let names := (o.map (·.1)).eraseDups.filter fun name => !knownNames.contains name
  (names.mergeSort fun a b => a ≤ b).map fun name => (name, o.shown name)

end BattleMaps.Store.Address.Options
