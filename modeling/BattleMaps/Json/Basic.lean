import BattleMaps.Decimal.Binary

/-!
# JSON values

Campaign files, model answers and stored documents are JSON. Integers are kept apart from numbers
with a fraction, whatever their size, and an object keeps its members in the order in which their
keys first came up.

## Main definitions

* `Json`: the values
* `Fields`: the members of an object, in order, no key twice
* `Json.isFilled`: whether a value counts as given
* `Json.agrees`: whether two values say the same, numbers compared by their value
-/

namespace BattleMaps

inductive Json where
  | null
  | bool (b : Bool)
  -- An integer of any size.
  | int (n : Int)
  -- A number written with a point or an exponent.
  | real (x : Float)
  | text (s : String)
  | array (items : List Json)
  -- Members by key, in order of first mention.
  | object (fields : List (String × Json))

/-- The members of an object, in order of first mention. -/
abbrev Fields := List (String × Json)

namespace Fields

def get? (fields : Fields) (key : String) : Option Json := fields.lookup key

/-- The value under a key, with the absent value standing in for a missing member. -/
def value (fields : Fields) (key : String) : Json := (fields.get? key).getD .null

/-- Sets the value under a key: in place if the key is there, at the end otherwise. -/
def insert (fields : Fields) (key : String) (value : Json) : Fields :=
  if fields.any (·.1 == key) then
    fields.map fun member => if member.1 == key then (key, value) else member
  else fields ++ [(key, value)]

def erase (fields : Fields) (key : String) : Fields := fields.filter fun member => member.1 != key

/-- The members that a sequence of settings leaves behind: of repeated keys the last value counts,
at the place of the first. -/
def ofPairs (pairs : List (String × Json)) : Fields :=
  pairs.foldl (fun fields member => fields.insert member.1 member.2) []

/-- The member for a text, if there is one and it is not empty. -/
def optionalText (key : String) : Option String → Fields
  | some s => if s.isEmpty then [] else [(key, .text s)]
  | none => []

/-- The member for a list of texts, if there is one and it is not empty. -/
def optionalTexts (key : String) : Option (List String) → Fields
  | some (s :: l) => [(key, .array ((s :: l).map .text))]
  | _ => []

end Fields

namespace Json

def fields? : Json → Option Fields
  | .object fields => some fields
  | _ => none

def items? : Json → Option (List Json)
  | .array items => some items
  | _ => none

/-- Whether a value counts as given: anything but the absent value, `false`, zero and what is
empty. Not-a-number counts as given. -/
def isFilled : Json → Bool
  | .null => false
  | .bool b => b
  | .int n => n != 0
  | .real x => x != 0
  | .text s => !s.isEmpty
  | .array items => !items.isEmpty
  | .object fields => !fields.isEmpty

/-- The integer that a number or a truth value equals, if any. -/
def integral? : Json → Option Int
  | .bool b => some (if b then 1 else 0)
  | .int n => some n
  | .real x => Decimal.integer? x
  | _ => none

/-- Whether two values that are no containers say the same: numbers and truth values by their
exact value, and not-a-number with itself only. -/
def agreesAtom : Json → Json → Bool
  | .null, .null => true
  | .text s, .text t => s == t
  | .real x, .real y => x == y || (x.isNaN && y.isNaN)
  | a, b =>
    match a.integral?, b.integral? with
    | some m, some n => m == n
    | _, _ => false

mutual

/-- Whether two values say the same: numbers by their exact value whatever their spelling, lists
item by item, objects member by member in any order. -/
def agrees : Json → Json → Bool
  | .array items, .array others => agreesItems items others
  | .object fields, .object others =>
    fields.length == others.length && agreesFields fields others
  | a, b => agreesAtom a b

def agreesItems : List Json → List Json → Bool
  | [], [] => true
  | a :: items, b :: others => agrees a b && agreesItems items others
  | _, _ => false

/-- Whether each member has a counterpart of the same key that agrees with it. -/
def agreesFields : List (String × Json) → Fields → Bool
  | [], _ => true
  | (key, a) :: fields, others =>
    (match others.get? key with
     | some b => agrees a b
     | none => false) && agreesFields fields others

end

end Json

end BattleMaps
