import BattleMaps.Proofs.Proposal.Projection
import BattleMaps.Proofs.Proposal.Promises

/-!
# Rectangles

The bounds of a region may lie anywhere, also off the grid, as long as they do not end before they
start. Brought onto the grid, they cover a rectangle of at least one cell: the cells whose row and
column, read off their index, lie between the sides. The cells come in ascending order, wider bounds
cover them too, and a region that lists them instead is the same region.

## Main definitions

* `Bounds.DescribedBy` — whether the members of an object describe a rectangle
* `Bounds.Within` — whether a rectangle lies within another one
* `Bounds.Covers` — whether a list of indices is the cells of a rectangle, in order

## Main results

* `bounds_eq_ok_iff` — which objects describe a rectangle
* `Bounds.mem_cells_iff` — the cells of a rectangle, by their row and column
* `Bounds.covers_cells` — a rectangle covers its cells
* `regionsFrom_listed` — a region may list the cells of its rectangle instead
* `extent_cells_rectangle` — what described bounds come to
-/

namespace BattleMaps.Proposal

variable {id : String} {sides entry : Fields} {b wider : Bounds} {cells : List Nat}

/-! ## Bounds as given -/

/-- Whether the members of an object describe a rectangle: its sides are the whole numbers given for
them, where a missing or absent one is zero, and it does not end before it starts. -/
structure Bounds.DescribedBy (b : Bounds) (sides : Fields) : Prop where
  minRow : (givenSide sides .minRow).wholeNumber? = some b.minRow
  maxRow : (givenSide sides .maxRow).wholeNumber? = some b.maxRow
  minCol : (givenSide sides .minCol).wholeNumber? = some b.minCol
  maxCol : (givenSide sides .maxCol).wholeNumber? = some b.maxCol
  rows : b.minRow ≤ b.maxRow
  cols : b.minCol ≤ b.maxCol

theorem side_eq_ok_iff {which : Side} {n : Int} :
    side sides id which = .ok n ↔ (givenSide sides which).wholeNumber? = some n := by
  refine ⟨side_eq_ok, fun whole => ?_⟩
  rw [side_eq, whole, Option.elim_some]

/-- An object is taken for a rectangle exactly if it describes it. -/
theorem bounds_eq_ok_iff : bounds id (.object sides) = .ok b ↔ b.DescribedBy sides := by
  constructor
  · intro h
    obtain ⟨minRow, top, h⟩ := bind_eq_ok.mp h
    obtain ⟨maxRow, bottom, h⟩ := bind_eq_ok.mp h
    obtain ⟨minCol, left, h⟩ := bind_eq_ok.mp h
    obtain ⟨maxCol, right, h⟩ := bind_eq_ok.mp h
    split_ifs at h with reversed
    obtain rfl := Except.ok.inj h
    obtain ⟨rows, cols⟩ := not_or.mp reversed
    exact ⟨side_eq_ok top, side_eq_ok bottom, side_eq_ok left, side_eq_ok right, not_lt.mp rows,
      not_lt.mp cols⟩
  · intro h
    refine bind_eq_ok.mpr ⟨_, side_eq_ok_iff.mpr h.minRow, ?_⟩
    refine bind_eq_ok.mpr ⟨_, side_eq_ok_iff.mpr h.maxRow, ?_⟩
    refine bind_eq_ok.mpr ⟨_, side_eq_ok_iff.mpr h.minCol, ?_⟩
    refine bind_eq_ok.mpr ⟨_, side_eq_ok_iff.mpr h.maxCol, ?_⟩
    rw [if_neg (not_or.mpr ⟨not_lt.mpr h.rows, not_lt.mpr h.cols⟩)]

/-! ## Cells -/

/-- A row or column on the grid is the given one, brought into its range. -/
theorem coe_onAxis (n : Int) : (onAxis n : Int) = clamp n 0 (gridSize - 1) := by
  unfold onAxis clamp gridSize
  omega

theorem onAxis_mono {n m : Int} (h : n ≤ m) : onAxis n ≤ onAxis m := by
  unfold onAxis clamp
  omega

/-- The row and the column of a cell can be read off its index. -/
theorem Bounds.mem_cells_iff {k : Nat} :
    k ∈ b.cells ↔
      (onAxis b.minRow ≤ k / gridSize ∧ k / gridSize ≤ onAxis b.maxRow) ∧
        (onAxis b.minCol ≤ k % gridSize ∧ k % gridSize ≤ onAxis b.maxCol) := by
  have inRow : k % gridSize < gridSize := Nat.mod_lt k (by decide)
  rw [← Bounds.mem_cells inRow, Nat.div_add_mod]

/-- Whether a rectangle lies within another one. -/
structure Bounds.Within (b wider : Bounds) : Prop where
  minRow : wider.minRow ≤ b.minRow
  maxRow : b.maxRow ≤ wider.maxRow
  minCol : wider.minCol ≤ b.minCol
  maxCol : b.maxCol ≤ wider.maxCol

/-- Bringing bounds onto the grid keeps them within wider ones. -/
theorem Bounds.Within.cells_subset (h : b.Within wider) : b.cells ⊆ wider.cells := by
  intro k member
  obtain ⟨⟨top, bottom⟩, left, right⟩ := Bounds.mem_cells_iff.mp member
  refine Bounds.mem_cells_iff.mpr ⟨⟨?_, ?_⟩, ?_, ?_⟩
  · exact (onAxis_mono h.minRow).trans top
  · exact bottom.trans (onAxis_mono h.maxRow)
  · exact (onAxis_mono h.minCol).trans left
  · exact right.trans (onAxis_mono h.maxCol)

/-- Whether a list of indices is the cells of a rectangle: cells of the grid in ascending order, at
least one, and exactly those whose row and column lie between the sides brought onto the grid. -/
structure Bounds.Covers (b : Bounds) (cells : List Nat) : Prop where
  ascending : cells.Pairwise (· < ·)
  ne_nil : cells ≠ []
  lt : ∀ k ∈ cells, k < cellCount
  mem_iff : ∀ k : Nat, k ∈ cells ↔
    (clamp b.minRow 0 (gridSize - 1) ≤ (k / gridSize : Nat) ∧
      (k / gridSize : Nat) ≤ clamp b.maxRow 0 (gridSize - 1)) ∧
    (clamp b.minCol 0 (gridSize - 1) ≤ (k % gridSize : Nat) ∧
      (k % gridSize : Nat) ≤ clamp b.maxCol 0 (gridSize - 1))

theorem Bounds.covers_cells (rows : b.minRow ≤ b.maxRow) (cols : b.minCol ≤ b.maxCol) :
    b.Covers b.cells where
  ascending := b.pairwise_cells
  ne_nil := by
    -- The upper left corner is never lost, however far off the grid the bounds lie.
    have corner : gridSize * onAxis b.minRow + onAxis b.minCol ∈ b.cells :=
      (Bounds.mem_cells (onAxis_lt _)).mpr
        ⟨⟨le_rfl, onAxis_mono rows⟩, le_rfl, onAxis_mono cols⟩
    exact List.ne_nil_of_mem corner
  lt := fun _ => Bounds.lt_of_mem_cells
  mem_iff k := by
    rw [Bounds.mem_cells_iff]
    simp only [← coe_onAxis, Int.ofNat_le]

theorem extent_cells_of_describedBy (described : b.DescribedBy sides) :
    Extent.cells id (.rectangle (.object sides)) = .ok b.cells := by
  rw [Extent.cells, bounds_eq_ok_iff.mpr described]
  rfl

/-! ## Listed instead -/

/-- The cells of a rectangle, as an entry would list them. -/
def listed (cells : List Nat) : Json := .array (cells.map fun c : Nat => .int c)

theorem extent_cells_listed (b : Bounds) :
    Extent.cells id (.listed (b.cells.map fun c : Nat => .int c)) = .ok b.cells := by
  rw [Extent.cells, listedCells_map_int b.nodup_cells fun _ => Bounds.lt_of_mem_cells]

/-- A region may list the cells of its rectangle instead of giving bounds. -/
theorem regionsFrom_listed {index : Nat} {seen : List String} {rest : List Json}
    (rectangle : entry? (.object entry) = some (entry, .rectangle (.object sides)))
    (described : b.DescribedBy sides) :
    regionsFrom index seen (.object (entry.insert "cells" (listed b.cells)) :: rest) =
      regionsFrom index seen (.object entry :: rest) := by
  have instead : entry? (.object (entry.insert "cells" (listed b.cells))) =
      some (entry.insert "cells" (listed b.cells),
        .listed (b.cells.map fun c : Nat => .int c)) := by
    rw [entry?_object]
    simp [Fields.value, Fields.get?_insert, listed, Json.items?]
  have same (id : String) : Extent.cells id (.listed (b.cells.map fun c : Nat => .int c)) =
      Extent.cells id (.rectangle (.object sides)) := by
    rw [extent_cells_listed, extent_cells_of_describedBy described]
  have members {key : String} (other : key ≠ "cells") :
      (entry.insert "cells" (listed b.cells)).value key = entry.value key := by
    simp [Fields.value, Fields.get?_insert, other]
  rw [regionsFrom, regionsFrom, rectangle, instead]
  dsimp only
  have id : regionId index (entry.insert "cells" (listed b.cells)) = regionId index entry := by
    rw [regionId, regionId, members (by decide)]
  have region (cells : List Nat) (id : String) :
      region index id cells (entry.insert "cells" (listed b.cells)) =
        region index id cells entry := by
    simp only [region, members, ne_eq, String.reduceEq, not_false_eq_true]
  simp only [id, same, region]

/-- Bounds that describe a rectangle, however far off the grid, cover the cells between their sides
brought onto the grid, in ascending order and at least one; wider bounds lose none of them; and
listed instead, as the cells of a region or by themselves, they are the same cells. -/
theorem extent_cells_rectangle (id : String) (described : b.DescribedBy sides) :
    ∃ cells, Extent.cells id (.rectangle (.object sides)) = .ok cells ∧ b.Covers cells ∧
      (∀ (other : String) (sides' : Fields) (wider : Bounds),
        wider.DescribedBy sides' → b.Within wider →
          ∃ more, Extent.cells other (.rectangle (.object sides')) = .ok more ∧ cells ⊆ more) ∧
      Extent.cells id (.listed (cells.map fun c : Nat => .int c)) = .ok cells ∧
      ∀ (index : Nat) (seen : List String) (entry : Fields) (rest : List Json),
        entry? (.object entry) = some (entry, .rectangle (.object sides)) →
          regionsFrom index seen (.object (entry.insert "cells" (listed cells)) :: rest) =
            regionsFrom index seen (.object entry :: rest) := by
  refine ⟨b.cells, extent_cells_of_describedBy described, ?_, ?_, ?_, ?_⟩
  · exact Bounds.covers_cells described.rows described.cols
  · intro other sides' wider describedToo within
    exact ⟨wider.cells, extent_cells_of_describedBy describedToo, within.cells_subset⟩
  · exact extent_cells_listed b
  · exact fun _ _ _ _ rectangle => regionsFrom_listed rectangle described

/-- Two rows at the right edge of the grid, with a side missing, one spelled as a text and one
beyond the edge. -/
def edgeSides : Fields := [("maxRow", .text " 1 "), ("minCol", .int 18), ("maxCol", .int 25)]

/-- The two rows from edge to edge. -/
def wideSides : Fields := [("maxRow", .int 1), ("maxCol", .int 25)]

theorem edgeSides_cells :
    (⟨0, 1, 18, 25⟩ : Bounds).DescribedBy edgeSides ∧
      ∃ cells, Extent.cells "pier" (.rectangle (.object edgeSides)) = .ok cells ∧
        (⟨0, 1, 18, 25⟩ : Bounds).Covers cells ∧
        (∃ more, Extent.cells "quay" (.rectangle (.object wideSides)) = .ok more ∧ cells ⊆ more) ∧
        Extent.cells "pier" (.listed (cells.map fun c : Nat => .int c)) = .ok cells := by
  have described : (⟨0, 1, 18, 25⟩ : Bounds).DescribedBy edgeSides := by
    constructor <;> decide +kernel
  have describedToo : (⟨0, 1, 0, 25⟩ : Bounds).DescribedBy wideSides := by
    constructor <;> decide
  have within : (⟨0, 1, 18, 25⟩ : Bounds).Within ⟨0, 1, 0, 25⟩ := by
    constructor <;> decide
  obtain ⟨cells, found, covers, wider, listed, -⟩ := extent_cells_rectangle "pier" described
  exact ⟨described, cells, found, covers, wider "quay" _ _ describedToo within, listed⟩

example : (⟨0, 1, 18, 25⟩ : Bounds).cells = [18, 19, 38, 39] := by decide

end BattleMaps.Proposal
