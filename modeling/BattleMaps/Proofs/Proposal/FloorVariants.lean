import BattleMaps.Proofs.Proposal.Acceptance

/-!
# Floor variants

Water and indoor floor are variants of the floor, and only the larger encoding has them. With the
smaller one they become plain floor, like everything that is no tile, and never wall. So the two
encodings have walls and doors in common, the same share of the tiles is walkable with either of
them, and what is asked of a proposal does not depend on the encoding.

## Main definitions

* `Tile.plain`, `Grid.plain` — a tile, and a grid, without variants
* `BattleMap.IsPlainOf` — whether two maps differ in floor variants only
* `SameFate` — whether two outcomes are the same violation or maps that differ in floor variants

## Main results

* `Encoding.tileOf_legacy` — with the smaller encoding a value stands for the plain tile
* `Grid.walkableFraction_plain` — leaving out variants changes no walkable share
* `acceptValue_legacy_extended` — a proposal has the same fate with both encodings
-/

namespace BattleMaps

/-! ## Tiles -/

/-- A tile without its variant: water and indoor floor are floor. -/
def Tile.plain (tile : Nat) : Nat := if tile = water ∨ tile = indoor then floor else tile

theorem Tile.plain_eq_wall_iff {tile : Nat} : plain tile = wall ↔ tile = wall := by
  grind [plain, water, indoor, floor, wall]

theorem Tile.plain_eq_door_iff {tile : Nat} : plain tile = door ↔ tile = door := by
  grind [plain, water, indoor, floor, door]

/-- What the two encodings have in common is no variant. -/
theorem Tile.plain_eq_self {tile : Nat} (common : tile ≤ door) : plain tile = tile := by
  grind [plain, water, indoor, door]

/-- What only the larger encoding has is a variant of the floor. -/
theorem Tile.plain_eq_floor {tile : Nat} (own : door < tile) (inUse : tile ≤ indoor) :
    plain tile = floor := by
  grind [plain, water, indoor, door]

/-- A value that stands for a tile of the larger encoding stands for its plain tile in the smaller
one. -/
theorem Encoding.tileOf_legacy (v : Json) :
    Encoding.legacy.tileOf v = Tile.plain (Encoding.extended.tileOf v) := by
  unfold Encoding.tileOf
  cases v.wholeNumber? with
  | none => rfl
  | some n =>
    have smaller : Encoding.legacy.maxTile = Tile.door := rfl
    have larger : Encoding.extended.maxTile = Tile.indoor := rfl
    have common_le : Tile.door ≤ Tile.indoor := by decide
    dsimp only
    split_ifs with common inUse inUse
    · rw [Tile.plain_eq_self (by omega)]
    · exact absurd ⟨common.1, by omega⟩ inUse
    · rw [Tile.plain_eq_floor (by omega) (by omega)]
    · rfl

example : [0, 1, 2, 3, 4].map Tile.plain = [0, 1, 2, 0, 0] := by decide

/-! ## Grids -/

namespace Grid

variable {g : Grid} {values : List Json}

/-- A grid without floor variants. -/
def plain (g : Grid) : Grid := ⟨g.cells.map Tile.plain, .legacy⟩

theorem ofValues_legacy : ofValues .legacy values = (ofValues .extended values).plain := by
  rw [plain, ofValues, ofValues, List.map_map]
  congr
  funext v
  exact Encoding.tileOf_legacy v

/-- A tile is a wall with and without variants. -/
theorem walkableCount_plain : g.plain.walkableCount = g.walkableCount := by
  rw [walkableCount, walkableCount, plain, List.countP_map]
  refine List.countP_congr fun tile _ => ?_
  simp [Tile.plain_eq_wall_iff]

theorem walkableFraction_plain : g.plain.walkableFraction = g.walkableFraction := by
  rw [walkableFraction, walkableFraction, walkableCount_plain]
  simp only [plain, List.isEmpty_map, List.length_map]

end Grid

/-! ## Maps -/

/-- A map without floor variants. -/
def BattleMap.plain (m : BattleMap) : BattleMap := { m with grid := m.grid.plain }

/-- Whether one map is another without its floor variants: water and indoor floor are floor, walls
and doors are where they were, and all else is the same. -/
structure BattleMap.IsPlainOf (m rich : BattleMap) : Prop where
  cells_eq : m.grid.cells = rich.grid.cells.map Tile.plain
  wall_iff : ∀ index : Nat,
    m.grid.cells[index]? = some Tile.wall ↔ rich.grid.cells[index]? = some Tile.wall
  door_iff : ∀ index : Nat,
    m.grid.cells[index]? = some Tile.door ↔ rich.grid.cells[index]? = some Tile.door
  walkableCount_eq : m.grid.walkableCount = rich.grid.walkableCount
  regions_eq : m.regions = rich.regions
  confidence_eq : m.confidence = rich.confidence

theorem BattleMap.isPlainOf_plain (m : BattleMap) : m.plain.IsPlainOf m where
  cells_eq := rfl
  wall_iff index := by simp [plain, Grid.plain, Tile.plain_eq_wall_iff]
  door_iff index := by simp [plain, Grid.plain, Tile.plain_eq_door_iff]
  walkableCount_eq := Grid.walkableCount_plain
  regions_eq := rfl
  confidence_eq := rfl

namespace Proposal

variable {spec : CombatSpec} {floor : Float} {proposal : Fields}

/-- Whether one outcome is as the other without floor variants: they are the same violation, or
maps that differ in floor variants only. -/
inductive SameFate : Except Violation BattleMap → Except Violation BattleMap → Prop where
  | refused (v : Violation) : SameFate (.error v) (.error v)
  | accepted {m rich : BattleMap} (plain : m.IsPlainOf rich) : SameFate (.ok m) (.ok rich)

/-- Whether enough of a grid is walkable depends on its share only. -/
theorem checkWalkable_congr {g h : Grid} (same : g.walkableFraction = h.walkableFraction) :
    checkWalkable g floor = checkWalkable h floor := by
  rw [checkWalkable, checkWalkable, same]

/-- With the smaller encoding, what becomes of a proposal is what becomes of it with the larger one,
without the variants. -/
theorem accept_legacy :
    accept spec .legacy floor proposal = (accept spec .extended floor proposal).map .plain := by
  unfold accept
  cases tiles proposal with
  | error v => rfl
  | ok values =>
    have walkable : checkWalkable (Grid.ofValues .legacy values) floor =
        checkWalkable (Grid.ofValues .extended values) floor := by
      rw [Grid.ofValues_legacy]
      exact checkWalkable_congr Grid.walkableFraction_plain
    simp only [bind, Except.bind, walkable]
    cases checkWalkable (Grid.ofValues .extended values) floor with
    | error v => rfl
    | ok _ =>
      cases regions (proposal.value "regions") with
      | error v => rfl
      | ok found =>
        cases required : checkRequired spec.regions found with
        | error v => simp [required, Except.map]
        | ok _ => simp [required, Except.map, BattleMap.plain, Grid.ofValues_legacy]

/-- A proposal has the same fate with both encodings: it is accepted with the smaller one if and
only if it is accepted with the larger one, and refused for the same violation otherwise; and the
maps that it becomes differ in floor variants only. -/
theorem acceptValue_legacy_extended (spec : CombatSpec) (floor : Float) (value : Json) :
    SameFate (acceptValue spec .legacy floor value) (acceptValue spec .extended floor value) := by
  cases value with
  | object proposal =>
    rw [acceptValue, acceptValue, accept_legacy]
    cases accept spec .extended floor proposal with
    | error v => exact .refused v
    | ok rich => exact .accepted rich.isPlainOf_plain
  | _ => exact .refused .outputNotAnObject

end Proposal

end BattleMaps
