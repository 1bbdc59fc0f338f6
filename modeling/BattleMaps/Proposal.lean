import BattleMaps.BattleMap
import BattleMaps.Spec
import BattleMaps.Violation

/-!
# Proposals

A model's answer proposes a map. It is checked promise by promise, in a fixed order, and the first
broken promise is reported: the shape of the grid, its walkable share, the regions one after the
other, and last the required regions. Nothing is padded, cut or invented beyond the stated
defaults.

## Main definitions

* `Proposal.tiles`: the four hundred proposed values, row by row
* `Proposal.regions`: the proposed regions
* `Proposal.accept`: the map that a proposal becomes
-/

namespace BattleMaps.Proposal

/-! ## Tiles -/

/-- The values of rows that each have their length; `index` is the number of the first row. -/
def flattenRows (index : Nat) : List Json → Except Violation (List Json)
  | [] => .ok []
  | .array row :: rest =>
    if row.length = gridSize then (flattenRows (index + 1) rest).map (row ++ ·)
    else .error (.rowLength index row.length)
  | _ :: _ => .error (.rowNotAList index)

/-- The proposed values, row by row: from the rows if there is a list of them, otherwise from the
flat list. -/
def tiles (proposal : Fields) : Except Violation (List Json) :=
  match proposal.value "rows", proposal.value "tileData" with
  -- Rows come before a flat list, even if they turn out to be wrong.
  | .array rows, _ =>
    if rows.length = gridSize then flattenRows 0 rows else .error (.rowCount rows.length)
  | _, .array values =>
    if values.length = cellCount then .ok values else .error (.tileCount values.length)
  | _, _ => .error .noTiles

/-- Refuses a grid whose walkable share lies below the floor. -/
def checkWalkable (grid : Grid) (floor : Float) : Except Violation Unit :=
  let share := grid.walkableFraction
  if share < floor then .error (.tooWalled (share * 100) (floor * 100)) else .ok ()

/-! ## Regions -/

/-- A rectangle of tiles, as given. -/
structure Bounds where
  minRow : Int
  maxRow : Int
  minCol : Int
  maxCol : Int
deriving DecidableEq, Repr

/-- A row or column number brought onto the grid. -/
def onAxis (n : Int) : Nat := (clamp n 0 (gridSize - 1)).toNat

/-- The numbers from `low` to `high`, both included. -/
def span (low high : Nat) : List Nat := (List.range (high + 1 - low)).map (low + ·)

/-- The indices of the tiles in a rectangle, row by row, with all four sides brought onto the
grid. -/
def Bounds.cells (b : Bounds) : List Nat :=
  (span (onAxis b.minRow) (onAxis b.maxRow)).flatMap fun row =>
    (span (onAxis b.minCol) (onAxis b.maxCol)).map fun col => row * gridSize + col

/-- One side of a rectangle; a missing or absent one is zero. -/
def side (bounds : Fields) (id : String) (which : Side) : Except Violation Int :=
  let value := match bounds.value which.key with
    | .null => Json.int 0
    | v => v
  match value.wholeNumber? with
  | some n => .ok n
  | none => .error (.boundNotWhole id which value)

/-- The rectangle that a value describes. -/
def bounds (id : String) (value : Json) : Except Violation Bounds :=
  match value with
  | .object fields => do
    let minRow ← side fields id .minRow
    let maxRow ← side fields id .maxRow
    let minCol ← side fields id .minCol
    let maxCol ← side fields id .maxCol
    -- the sides are compared as given, before they are brought onto the grid
    if minRow > maxRow ∨ minCol > maxCol then .error (.reversedBounds id)
    else .ok ⟨minRow, maxRow, minCol, maxCol⟩
  | _ => .error (.boundsNotAnObject id)

/-- The members of a list without those seen before. -/
def distinct (seen : List Nat) : List Nat → List Nat
  | [] => []
  | n :: rest => if seen.contains n then distinct seen rest else n :: distinct (n :: seen) rest

/-- The tile indices that a list of values names: whole numbers, brought onto the grid, each
once. -/
def listedCells (values : List Json) : List Nat :=
  distinct [] <| (values.filterMap Json.wholeNumber?).map fun n =>
    (clamp n 0 (cellCount - 1)).toNat

/-- How an entry says which tiles belong to it. -/
inductive Extent where
  | listed (values : List Json)
  | rectangle (value : Json)

/-- An entry that describes a region: an object that lists cells or, failing that, gives
bounds. -/
def entry? : Json → Option (Fields × Extent)
  | .object fields =>
    match Fields.value fields "cells" with
    | .array values => some (fields, .listed values)
    | _ =>
      let given := Fields.value fields "bounds"
      if given.isFilled then some (fields, .rectangle given) else none
  | _ => none

/-- The id of the entry at an index; one that gives none is named for its index. -/
def regionId (index : Nat) (fields : Fields) : String :=
  ((Fields.value fields "id").trimmed?).getD s!"region_{index}"

def Extent.cells (id : String) : Extent → Except Violation (List Nat)
  | .listed values => .ok (listedCells values)
  | .rectangle value => (bounds id value).map Bounds.cells

/-- The note of an entry, trimmed, if one is given. -/
def note (value : Json) : Option String :=
  if value.isFilled then some (Text.trim value.plain) else none

/-- The region that the entry at an index describes, given its id and its tiles. -/
def region (index : Nat) (id : String) (cells : List Nat) (fields : Fields) : Region where
  id := id
  name := ((Fields.value fields "name").trimmed?).getD s!"Region {index + 1}"
  kind := RegionKind.ofValue (Fields.value fields "type")
  cells := cells
  dmNote := note (Fields.value fields "dmNote")
  npcs := (Fields.value fields "defaultNPCSlugs").textList?
  inventory := (Fields.value fields "shopInventory").textList?

/-- The regions of the entries from an index on; entries that describe none are passed over, and
ids seen before are refused. -/
def regionsFrom (index : Nat) (seen : List String) : List Json → Except Violation (List Region)
  | [] => .ok []
  | value :: rest =>
    match entry? value with
    | none => regionsFrom (index + 1) seen rest
    | some (fields, extent) =>
      -- An id is refused before the cells of its region are looked at.
      let id := regionId index fields
      if seen.contains id then .error (.repeatedRegion id)
      else do
        let cells ← extent.cells id
        let others ← regionsFrom (index + 1) (id :: seen) rest
        .ok (region index id cells fields :: others)

def regions : Json → Except Violation (List Region)
  | .array entries => regionsFrom 0 [] entries
  | _ => .ok []

/-- Refuses regions among which a required one is missing. -/
def checkRequired (required : List RequiredRegion) (found : List Region) :
    Except Violation Unit :=
  match (required.map (·.id)).filter fun id => !(found.map (·.id)).contains id with
  | [] => .ok ()
  | missing => .error (.missingRegions missing)

/-! ## The whole -/

def accept (spec : CombatSpec) (encoding : Encoding) (floor : Float) (proposal : Fields) :
    Except Violation BattleMap := do
  let values ← tiles proposal
  let grid := Grid.ofValues encoding values
  checkWalkable grid floor
  let found ← regions (proposal.value "regions")
  checkRequired spec.regions found
  .ok ⟨grid, found, Confidence.ofValue (proposal.value "confidence")⟩

/-- The map that any value becomes; only an object proposes one. -/
def acceptValue (spec : CombatSpec) (encoding : Encoding) (floor : Float) :
    Json → Except Violation BattleMap
  | .object proposal => accept spec encoding floor proposal
  | _ => .error .outputNotAnObject

end BattleMaps.Proposal
