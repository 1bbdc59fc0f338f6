import BattleMaps.Proofs.Json.Members
import BattleMaps.Proofs.Proposal.Acceptance
import Mathlib.Data.List.OfFn

/-!
# Two shapes of a grid

A proposal gives its tiles as rows or as one flat list. Both stand for the same map: the flat list
is the rows one after the other, and row and column lead to the index at which the bounds of a
region look for the tile.

## Main definitions

* `Square` — a value for each row and column
* `Square.rows`, `Square.flat` — its two shapes

## Main results

* `tiles_of_rows`, `tiles_of_flat` — both shapes are read as the same values
* `acceptValue_rows_eq_acceptValue_flat` — a proposal fares the same with either of them
-/

namespace BattleMaps

/-- A value for each row and each column of a grid. -/
abbrev Square : Type := Fin gridSize → Fin gridSize → Json

namespace Square

variable {s : Square} {row col : Fin gridSize}

/-- The rows of a square. -/
def rows (s : Square) : Json := .array (List.ofFn fun row => .array (List.ofFn (s row)))

/-- The values of a square, row by row. -/
def flat (s : Square) : List Json := (List.ofFn fun row => List.ofFn (s row)).flatten

/-- The index of a tile says its row and its column. -/
theorem flat_eq_ofFn :
    s.flat = List.ofFn fun index : Fin (gridSize * gridSize) => s index.divNat index.modNat := by
  rw [List.ofFn_mul, flat]
  refine congrArg List.flatten (congrArg List.ofFn (funext fun row => congrArg List.ofFn
    (funext fun col => ?_)))
  have index : row * gridSize + col = (row.mkDivMod col).val := by
    rw [Fin.coe_mkDivMod, Nat.mul_comm]
  simp only [index, Fin.eta, Fin.divNat_mkDivMod, Fin.modNat_mkDivMod]

theorem getElem?_flat : s.flat[gridSize * row + col]? = some (s row col) := by
  rw [← Fin.coe_mkDivMod, flat_eq_ofFn, List.getElem?_ofFn, dif_pos (Fin.mkDivMod row col).isLt]
  simp only [Fin.eta, Fin.divNat_mkDivMod, Fin.modNat_mkDivMod]

theorem length_flat : s.flat.length = cellCount := by
  rw [flat_eq_ofFn, List.length_ofFn, cellCount]

end Square

namespace Proposal

variable {spec : CombatSpec} {encoding : Encoding} {floor : Float} {p q proposal : Fields}
  {m : BattleMap} {s : Square}

/-- Rows that are lists of full length pass the check. -/
theorem flattenRows_map_array {index : Nat} {rows : List (List Json)}
    (full : ∀ row ∈ rows, row.length = gridSize) :
    flattenRows index (rows.map .array) = .ok rows.flatten := by
  induction rows generalizing index with
  | nil => rfl
  | cons row rest ih =>
    obtain ⟨here, others⟩ := List.forall_mem_cons.mp full
    rw [List.map_cons, flattenRows, if_pos here, ih others]
    rfl

theorem tiles_of_rows (given : proposal.value "rows" = s.rows) : tiles proposal = .ok s.flat := by
  rw [tiles_eq, given, Square.rows, Json.items?]
  dsimp only
  rw [if_pos List.length_ofFn]
  have spread : (List.ofFn fun row => Json.array (List.ofFn (s row))) =
      (List.ofFn fun row => List.ofFn (s row)).map .array := by
    rw [List.map_ofFn]
    rfl
  rw [spread, flattenRows_map_array]
  · rfl
  · intro row member
    obtain ⟨_, rfl⟩ := List.mem_ofFn.mp member
    exact List.length_ofFn

theorem tiles_of_flat (none : (proposal.value "rows").items? = none)
    (given : proposal.value "tileData" = .array s.flat) : tiles proposal = .ok s.flat := by
  rw [tiles_eq, none, given, Json.items?]
  dsimp only
  rw [if_pos Square.length_flat]

/-- What becomes of a proposal depends on the values of its tiles, not on how they are given. -/
theorem accept_congr (same : tiles p = tiles q) (regions : p.value "regions" = q.value "regions")
    (confidence : p.value "confidence" = q.value "confidence") :
    accept spec encoding floor p = accept spec encoding floor q := by
  rw [accept, accept, same, regions, confidence]

theorem cells_of_accept_eq_ok {values : List Json} (shaped : tiles proposal = .ok values)
    (h : accept spec encoding floor proposal = .ok m) :
    m.grid.cells = values.map encoding.tileOf := by
  obtain ⟨values', shaped', grid, -⟩ := accept_eq_ok_iff.mp h
  obtain rfl := Except.ok.inj (shaped.symm.trans shaped')
  rw [grid, Grid.ofValues]

/-- With the rows of a square, a proposal fares as with the same values in a flat list, whatever it
says under the key of the flat list; and the tile of a row and a column is where the bounds of a
region look for it. -/
theorem acceptValue_rows_eq_acceptValue_flat (spec : CombatSpec) (encoding : Encoding)
    (floor : Float) (proposal : Fields) (s : Square) :
    acceptValue spec encoding floor (.object (proposal.insert "rows" s.rows)) =
        acceptValue spec encoding floor
          (.object ((proposal.erase "rows").insert "tileData" (.array s.flat))) ∧
      (∀ m, acceptValue spec encoding floor (.object (proposal.insert "rows" s.rows)) = .ok m →
        ∀ row col : Fin gridSize,
          m.grid.cells[gridSize * row + col]? = some (encoding.tileOf (s row col))) ∧
      ∀ (b : Bounds) (row col : Fin gridSize), gridSize * row + col ∈ b.cells ↔
        (onAxis b.minRow ≤ row ∧ row ≤ onAxis b.maxRow) ∧
          (onAxis b.minCol ≤ col ∧ col ≤ onAxis b.maxCol) := by
  have rowsRead : tiles (proposal.insert "rows" s.rows) = .ok s.flat :=
    tiles_of_rows (by simp [Fields.value, Fields.get?_insert])
  have flatRead :
      tiles ((proposal.erase "rows").insert "tileData" (.array s.flat)) = .ok s.flat := by
    apply tiles_of_flat
    · simp [Fields.value, Fields.get?_insert, Fields.get?_erase, Json.items?]
    · simp [Fields.value, Fields.get?_insert]
  refine ⟨?_, fun m accepted row col => ?_, fun b row col => Bounds.mem_cells col.isLt⟩
  · apply accept_congr
    · rw [rowsRead, flatRead]
    all_goals simp [Fields.value, Fields.get?_insert, Fields.get?_erase]
  · rw [cells_of_accept_eq_ok rowsRead accepted, List.getElem?_map, Square.getElem?_flat]
    rfl

/-- A field behind a wall in the fourth row. -/
def walledField : Square := fun row _ => .int (if row.val = 3 then Tile.wall else Tile.floor)

/-- The regions of the inn: a hall in the upper left corner. -/
def hallOnly : Fields :=
  [("regions", .array [.object
    [("id", .text "hall"), ("bounds", .object [("maxRow", .int 2), ("maxCol", .int 5)])]])]

theorem walledField_cell :
    ∃ m, acceptValue innSpec .extended 0.3 (.object (hallOnly.insert "rows" walledField.rows)) =
        .ok m ∧ m.grid.cells[gridSize * 3 + 7]? = some Tile.wall := by
  have accepted : (acceptValue innSpec .extended 0.3
      (.object (hallOnly.insert "rows" walledField.rows))).isOk := by decide +kernel
  obtain ⟨m, h⟩ := exists_eq_ok accepted
  have shapes :=
    acceptValue_rows_eq_acceptValue_flat innSpec .extended 0.3 hallOnly walledField
  exact ⟨m, h, shapes.2.1 m h ⟨3, by decide⟩ ⟨7, by decide⟩⟩

end Proposal

end BattleMaps
