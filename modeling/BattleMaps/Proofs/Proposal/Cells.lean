import BattleMaps.Proofs.Success
import BattleMaps.Proposal
import Mathlib.Data.List.Nodup
import Mathlib.Data.List.Range

/-!
# Tiles and cells of a proposal

The shape checks on tiles leave exactly four hundred values, and every value becomes a tile of the
encoding. Whichever way a region says which cells belong to it, the indices that are left are
distinct and lie on the grid.

## Main results

* `length_of_tiles_eq_ok` — accepted tiles are four hundred values
* `Encoding.tileOf_le` — every value becomes a tile of the encoding
* `Bounds.mem_cells`, `Bounds.pairwise_cells` — which cells a rectangle names, and in which order
* `nodup_of_extent_cells_eq_ok`, `lt_of_extent_cells_eq_ok` — the cells of a region
-/

namespace BattleMaps

/-- Every value stands for a tile of the encoding. -/
theorem Encoding.tileOf_le (e : Encoding) (v : Json) : e.tileOf v ≤ e.maxTile := by
  unfold Encoding.tileOf
  split
  · split_ifs with inside
    · omega
    · exact Nat.zero_le _
  · exact Nat.zero_le _

namespace Proposal

variable {proposal : Fields} {values : List Json} {seen : List Nat} {id : String}

/-! ## Tiles -/

/-- Rows come before a flat list of values. -/
theorem tiles_eq :
    tiles proposal = match (proposal.value "rows").items?, (proposal.value "tileData").items? with
      | some rows, _ =>
        if rows.length = gridSize then flattenRows 0 rows else .error (.rowCount rows.length)
      | none, some values =>
        if values.length = cellCount then .ok values else .error (.tileCount values.length)
      | none, none => .error .noTiles := by
  unfold tiles
  cases proposal.value "rows" <;> cases proposal.value "tileData" <;> rfl

/-- Every row that passes the check brings twenty values. -/
theorem length_of_flattenRows_eq_ok {index : Nat} {rows : List Json}
    (h : flattenRows index rows = .ok values) : values.length = rows.length * gridSize := by
  -- The number of the row counts up along the list and matters for messages only.
  induction rows generalizing index values with
  | nil =>
    obtain rfl := Except.ok.inj h
    simp
  | cons row rest ih =>
    cases row with
    | array items =>
      rw [flattenRows] at h
      split_ifs at h with full
      obtain ⟨others, read, rfl⟩ := map_eq_ok.mp h
      rw [List.length_append, full, ih read, List.length_cons, Nat.succ_mul, Nat.add_comm]
    | _ => simp [flattenRows] at h

/-- The tiles that pass the check are exactly four hundred values. -/
theorem length_of_tiles_eq_ok (h : tiles proposal = .ok values) : values.length = cellCount := by
  unfold tiles at h
  split at h
  · split_ifs at h with full
    rw [length_of_flattenRows_eq_ok h, full, cellCount]
  · split_ifs at h with full
    obtain rfl := Except.ok.inj h
    exact full
  · simp at h

/-! ## Cells -/

theorem onAxis_lt (n : Int) : onAxis n < gridSize := by
  unfold onAxis clamp gridSize
  omega

theorem mem_span {low high n : Nat} : n ∈ span low high ↔ low ≤ n ∧ n ≤ high := by
  simp only [span, List.mem_map, List.mem_range]
  constructor
  · rintro ⟨k, inside, rfl⟩
    omega
  · rintro ⟨above, below⟩
    exact ⟨n - low, by omega, by omega⟩

theorem pairwise_span (low high : Nat) : (span low high).Pairwise (· < ·) :=
  List.pairwise_lt_range.map _ fun _ _ less => Nat.add_lt_add_left less low

/-- A rectangle covers the tile of a row and a column if both lie between its sides. -/
theorem Bounds.mem_cells {b : Bounds} {row col : Nat} (h : col < gridSize) :
    gridSize * row + col ∈ b.cells ↔
      (onAxis b.minRow ≤ row ∧ row ≤ onAxis b.maxRow) ∧
        (onAxis b.minCol ≤ col ∧ col ≤ onAxis b.maxCol) := by
  rw [Bounds.cells, List.mem_flatMap]
  constructor
  · rintro ⟨row', rowMem, inRow⟩
    obtain ⟨col', colMem, same⟩ := List.mem_map.mp inRow
    rw [mem_span] at rowMem colMem
    -- Row and column can be read off an index, as columns stay below the length of a row.
    have colLt := colMem.2.trans_lt (onAxis_lt b.maxCol)
    simp only [gridSize] at *
    obtain rfl : row' = row := by omega
    obtain rfl : col' = col := by omega
    exact ⟨rowMem, colMem⟩
  · rintro ⟨rowMem, colMem⟩
    refine ⟨row, mem_span.mpr rowMem, List.mem_map.mpr ⟨col, mem_span.mpr colMem, ?_⟩⟩
    rw [Nat.mul_comm]

/-- A rectangle brought onto the grid covers cells of the grid only. -/
theorem Bounds.lt_of_mem_cells {b : Bounds} {n : Nat} (h : n ∈ b.cells) : n < cellCount := by
  obtain ⟨row, rowMem, inRow⟩ := List.mem_flatMap.mp h
  obtain ⟨col, colMem, rfl⟩ := List.mem_map.mp inRow
  -- The last row and the last column were brought onto the grid, so they bound what lies before.
  have rowLt := (mem_span.mp rowMem).2.trans_lt (onAxis_lt b.maxRow)
  have colLt := (mem_span.mp colMem).2.trans_lt (onAxis_lt b.maxCol)
  simp only [gridSize, cellCount] at *
  omega

/-- A rectangle names its cells in ascending order. -/
theorem Bounds.pairwise_cells (b : Bounds) : b.cells.Pairwise (· < ·) := by
  rw [Bounds.cells, List.pairwise_flatMap]
  constructor
  · intro row _
    exact (pairwise_span _ _).map _ fun _ _ less => Nat.add_lt_add_left less _
  · refine (pairwise_span _ _).imp ?_
    intro row row' above index here index' there
    obtain ⟨col, colMem, rfl⟩ := List.mem_map.mp here
    obtain ⟨col', -, rfl⟩ := List.mem_map.mp there
    -- Two rows are apart by more than a column can make up for.
    have colLt := (mem_span.mp colMem).2.trans_lt (onAxis_lt b.maxCol)
    simp only [gridSize] at *
    omega

/-- A rectangle names no cell twice. -/
theorem Bounds.nodup_cells (b : Bounds) : b.cells.Nodup := b.pairwise_cells.imp Nat.ne_of_lt

theorem mem_distinct {n : Nat} {l : List Nat} : n ∈ distinct seen l ↔ n ∈ l ∧ n ∉ seen := by
  induction l generalizing seen with
  | nil => simp [distinct]
  | cons m rest ih =>
    rw [distinct]
    split_ifs with known <;> grind

theorem nodup_distinct (seen l : List Nat) : (distinct seen l).Nodup := by
  -- What has been seen grows along the list, and nothing that was seen comes up again.
  induction l generalizing seen with
  | nil => simp [distinct]
  | cons m rest ih =>
    rw [distinct]
    split_ifs with known
    · exact ih seen
    · refine List.nodup_cons.mpr ⟨fun again => ?_, ih _⟩
      exact (mem_distinct.mp again).2 (List.mem_cons_self ..)

theorem lt_of_mem_listedCells {n : Nat} (h : n ∈ listedCells values) : n < cellCount := by
  -- Dropping repetitions adds no index, so each one left was brought onto the grid.
  obtain ⟨given, -⟩ := mem_distinct.mp h
  obtain ⟨whole, -, rfl⟩ := List.mem_map.mp given
  simp only [clamp, cellCount, gridSize]
  omega

/-- Cells come before bounds. -/
theorem entry?_object {fields : Fields} :
    entry? (.object fields) = match (fields.value "cells").items? with
      | some values => some (fields, .listed values)
      | none =>
        if (fields.value "bounds").isFilled then some (fields, .rectangle (fields.value "bounds"))
        else none := by
  rw [ entry?]
  cases fields.value "cells" <;> rfl

/-- However a region says which cells belong to it, no cell belongs to it twice. -/
theorem nodup_of_extent_cells_eq_ok {extent : Extent} {cells : List Nat}
    (h : extent.cells id = .ok cells) : cells.Nodup := by
  cases extent with
  | listed values =>
    obtain rfl := Except.ok.inj h
    exact nodup_distinct ..
  | rectangle value =>
    obtain ⟨b, -, rfl⟩ := map_eq_ok.mp h
    exact b.nodup_cells

/-- However a region says which cells belong to it, all of them lie on the grid. -/
theorem lt_of_extent_cells_eq_ok {extent : Extent} {cells : List Nat}
    (h : extent.cells id = .ok cells) : ∀ n ∈ cells, n < cellCount := by
  cases extent with
  | listed values =>
    obtain rfl := Except.ok.inj h
    exact fun n => lt_of_mem_listedCells
  | rectangle value =>
    obtain ⟨b, -, rfl⟩ := map_eq_ok.mp h
    exact fun n => Bounds.lt_of_mem_cells

end Proposal

end BattleMaps
