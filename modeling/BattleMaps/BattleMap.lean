import BattleMaps.Grid
import BattleMaps.Region

/-!
# Battle maps

What validation leaves behind: a grid, the named regions on it, and how sure the source was.

## Main definitions

* `Confidence`: how sure the source of a map was
* `BattleMap`: a validated map
-/

namespace BattleMaps

/-- How sure the source of a map was. -/
inductive Confidence where
  | high
  | medium
  | low
deriving DecidableEq, Repr

namespace Confidence

/-- All levels, surest first. -/
def all : List Confidence := [high, medium, low]

def name : Confidence → String
  | .high => "high"
  | .medium => "medium"
  | .low => "low"

/-- The level that a value names, in any case and with blanks around it; medium where it names
none. -/
def ofValue (v : Json) : Confidence := (all.find? fun c => c.name == v.word).getD .medium

end Confidence

/-- A validated map. -/
structure BattleMap where
  grid : Grid
  -- The regions, in the order of the source.
  regions : List Region
  -- How sure the source was.
  confidence : Confidence
deriving DecidableEq, Repr

end BattleMaps
