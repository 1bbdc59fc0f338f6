import BattleMaps.Json.Lenient

/-!
# Tile grids

A battle map is a square of twenty by twenty tiles, kept row by row: the tile of row `r` and
column `c` stands at index `20 * r + c`. A tile is a small number, and an encoding says which
numbers are in use. Whatever a source offers that is no tile of the encoding becomes floor, never
wall, so that a slip cannot close off a room.

## Main definitions

* `Encoding`: the tile numbers in use
* `Grid`: tiles together with their encoding
* `Grid.ofValues`: the grid that a list of values stands for
* `Grid.walkableFraction`: the share of tiles that are no wall
-/

namespace BattleMaps

/-- The number of rows, and of columns. -/
def gridSize : Nat := 20

def cellCount : Nat := gridSize * gridSize

/-- The nearest integer to `value` that is at least `low`, or else at most `high`. -/
def clamp (value low high : Int) : Int := max low (min high value)

namespace Tile

/-- Open ground. -/
def floor : Nat := 0

/-- A wall or another obstacle. -/
def wall : Nat := 1

/-- A door or an archway. -/
def door : Nat := 2

/-- Water, which is slow to cross. -/
def water : Nat := 3

/-- Floor under a roof. -/
def indoor : Nat := 4

end Tile

/-- Which tile numbers a grid uses. -/
inductive Encoding where
  -- Floor, wall and door.
  | legacy
  -- Water and indoor floor besides.
  | extended
deriving DecidableEq, Repr

namespace Encoding

def name : Encoding → String
  | .legacy => "legacy"
  | .extended => "extended"

def ofName? (s : String) : Option Encoding := [legacy, extended].find? fun e => e.name == s

def maxTile : Encoding → Nat
  | .legacy => Tile.door
  | .extended => Tile.indoor

/-- The tile that a value stands for: the whole number it spells if that is a tile number, and
floor otherwise. -/
def tileOf (e : Encoding) (v : Json) : Nat :=
  match v.wholeNumber? with
  | some n => if 0 ≤ n ∧ n ≤ e.maxTile then n.toNat else Tile.floor
  | none => Tile.floor

end Encoding

/-- Tiles in row order together with their encoding. -/
structure Grid where
  -- The tile numbers, row by row.
  cells : List Nat
  encoding : Encoding
deriving DecidableEq, Repr

namespace Grid

/-- The grid that a list of values stands for, value by value. -/
def ofValues (encoding : Encoding) (values : List Json) : Grid :=
  ⟨values.map encoding.tileOf, encoding⟩

/-- The number of tiles that are no wall. -/
def walkableCount (g : Grid) : Nat := g.cells.countP (· != Tile.wall)

/-- The share of tiles that are no wall, and zero for a grid without tiles. -/
def walkableFraction (g : Grid) : Float :=
  if g.cells.isEmpty then 0 else Float.ofNat g.walkableCount / Float.ofNat g.cells.length

end Grid

end BattleMaps
