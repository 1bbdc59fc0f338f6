import BattleMaps.Decimal.Fixed
import BattleMaps.Json.Reader
import BattleMaps.Json.Shown
import BattleMaps.Grid

/-!
# Violations

Why a model's answer cannot become a map. Every check has its own cause; the causes form six
families, one for each kind of promise that a map makes.

## Main definitions

* `Violation`: the causes
* `Violation.family`: the promise that is broken
* `Violation.message`: the wording
-/

namespace BattleMaps

inductive Side where
  | minRow
  | maxRow
  | minCol
  | maxCol
deriving DecidableEq, Repr

def Side.key : Side → String
  | .minRow => "minRow"
  | .maxRow => "maxRow"
  | .minCol => "minCol"
  | .maxCol => "maxCol"

/-- Why a model's answer cannot become a map. -/
inductive Violation where
  -- The answer holds no object at all.
  | noObject
  -- What looks like an object is no JSON.
  | malformedObject (e : Json.ReadError)
  -- The answer's JSON is some other value.
  | notAnObject
  -- The value to be validated is no object.
  | outputNotAnObject
  | rowCount (count : Nat)
  | rowNotAList (row : Nat)
  | rowLength (row count : Nat)
  | tileCount (count : Nat)
  -- There are neither rows nor a flat list of tiles.
  | noTiles
  | repeatedRegion (id : String)
  | boundsNotAnObject (id : String)
  | boundNotWhole (id : String) (side : Side) (value : Json)
  -- Too few tiles are walkable; both shares in percent.
  | tooWalled (walkable floor : Float)
  -- A region's bounds end before they start.
  | reversedBounds (id : String)
  | missingRegions (ids : List String)

namespace Violation

/-- The promises that a map makes. -/
inductive Family where
  | response
  | gridShape
  | regionShape
  | walkability
  | regionBounds
  | requiredRegions
deriving DecidableEq, Repr

def family : Violation → Family
  | .noObject | .malformedObject _ | .notAnObject | .outputNotAnObject => .response
  | .rowCount _ | .rowNotAList _ | .rowLength _ _ | .tileCount _ | .noTiles => .gridShape
  | .repeatedRegion _ | .boundsNotAnObject _ | .boundNotWhole _ _ _ => .regionShape
  | .tooWalled _ _ => .walkability
  | .reversedBounds _ => .regionBounds
  | .missingRegions _ => .requiredRegions

def message : Violation → String
  | .noObject => "Response did not contain a JSON object"
  | .malformedObject e => s!"Response JSON could not be parsed: {e.message}"
  | .notAnObject => "Response JSON must be an object"
  | .outputNotAnObject => "Model output must be a JSON object"
  | .rowCount n => s!"\"rows\" must have exactly {gridSize} rows, got {n}"
  | .rowNotAList i => s!"Row {i} must have exactly {gridSize} values, got non-array"
  | .rowLength i n => s!"Row {i} must have exactly {gridSize} values, got {n}"
  | .tileCount n =>
    s!"tileData must be exactly {cellCount} elements ({gridSize}x{gridSize}), got {n}"
  | .noTiles =>
    s!"Response must contain either \"rows\" ({gridSize}x{gridSize}) " ++
      s!"or \"tileData\" ({cellCount}-element array)"
  | .repeatedRegion id => s!"Region id \"{id}\" appears more than once"
  | .boundsNotAnObject id => s!"Region \"{id}\" bounds must be an object"
  | .boundNotWhole id side value =>
    s!"Region \"{id}\" has a non-integer {side.key}: {value.shown}"
  | .tooWalled walkable floor =>
    s!"Only {Decimal.fixed 1 walkable}% walkable tiles " ++
      s!"(need >={Decimal.fixed 0 floor}%). Map is too walled."
  | .reversedBounds id => s!"Region \"{id}\" has invalid bounds: min > max"
  | .missingRegions ids => "Missing regions from spec: " ++ ", ".intercalate ids

end Violation

end BattleMaps
