import BattleMaps.Proofs.Success
import BattleMaps.Store.UnitOfWork
import Mathlib.Tactic.SplitIfs

/-!
# What saving changes

Saving a row touches the document under its id and no other, and it leaves no row behind that was
not there before, apart from the rows under that id, which say what was saved. A save that is
refused changes nothing.

## Main results

* `save_eq` — a save is a change to the table, or none
* `document?_of_put_eq_ok`, `document?_of_put_eq_ok_of_ne` — the documents afterwards
* `mem_of_put_eq_ok` — the rows afterwards
-/

namespace BattleMaps.Store

variable {t t' : Table} {row r : Row} {id mapType payload : String}

theorem save_eq :
    save t row = match t.put row with
      | .ok t' => (.ok (), t')
      | .error c => (.error c, t) := by
  rw [save, UnitOfWork.put, UnitOfWork.start]
  cases t.put row <;> rfl

namespace Table

theorem id_of_row?_eq_some (h : t.row? id = some r) : r.id = id := by
  rw [row?, List.find?_eq_some_iff_append] at h
  exact beq_iff_eq.mp h.1

theorem row?_map_of_id (change : Row → Row) (keeps : ∀ r, (change r).id = r.id) :
    row? (t.map change) id = (t.row? id).map change := by
  have same : (fun r : Row => r.id == id) ∘ change = fun r => r.id == id := by
    funext r
    rw [Function.comp_apply, keeps]
  rw [row?, List.find?_map, same, row?]

theorem row?_append_singleton :
    row? (t ++ [row]) id = (t.row? id).or (if row.id = id then some row else none) := by
  rw [row?, List.find?_append, row?]
  by_cases same : row.id = id <;> simp [same]

/-- What a row becomes when the row under an id is replaced. -/
def replaced (id mapType payload : String) (r : Row) : Row :=
  if r.id == id then r.withContent mapType payload else r

theorem replaced_id : (replaced id mapType payload r).id = r.id := by
  unfold replaced
  split_ifs <;> rfl

/-- Putting a row either replaces what is under its id or adds it at the end. -/
theorem put_eq_ok_cases (h : t.put row = .ok t') :
    (t.row? row.id).isSome ∧ t' = t.map (replaced row.id row.mapType row.payload) ∨
      t.row? row.id = none ∧ t' = t ++ [row] := by
  unfold put at h
  split_ifs at h with known
  · unfold replace at h
    split_ifs at h
    exact .inl ⟨known, (Except.ok.inj h).symm⟩
  · unfold insert at h
    split_ifs at h
    exact .inr ⟨by simpa using known, (Except.ok.inj h).symm⟩

theorem document?_singleton (row : Row) :
    document? [row] row.id = some (Json.readFields row.payload) := by
  simp [document?, row?]

/-- The document that was put is found under its id. -/
theorem document?_of_put_eq_ok (h : t.put row = .ok t') :
    t'.document? row.id = some (Json.readFields row.payload) := by
  -- Either the row under the id has its payload replaced, or the new row stands at the end.
  rcases put_eq_ok_cases h with ⟨known, rfl⟩ | ⟨unknown, rfl⟩
  · obtain ⟨r, found⟩ := Option.isSome_iff_exists.mp known
    rw [document?, row?_map_of_id _ fun _ => replaced_id, found, Option.map_some, Option.map_some,
      replaced, if_pos (beq_iff_eq.mpr (id_of_row?_eq_some found))]
    rfl
  · rw [document?, row?_append_singleton, unknown, Option.none_or, if_pos rfl]
    rfl

/-- The documents under other ids stay as they are. -/
theorem document?_of_put_eq_ok_of_ne (h : t.put row = .ok t') (other : row.id ≠ id) :
    t'.document? id = t.document? id := by
  rcases put_eq_ok_cases h with ⟨-, rfl⟩ | ⟨-, rfl⟩
  · rw [document?, row?_map_of_id _ fun _ => replaced_id, document?, Option.map_map]
    cases found : t.row? id with
    | none => rfl
    | some r =>
      -- the row that is found is not the one that was replaced
      have apart : ¬ (r.id == row.id) = true := by
        rw [id_of_row?_eq_some found, beq_iff_eq]
        exact other.symm
      rw [Option.map_some, Option.map_some, Function.comp_apply, replaced, if_neg apart]
  · rw [document?, row?_append_singleton, if_neg other, Option.or_none, document?]

/-- A row that is there afterwards was there before, or says what was put. -/
theorem mem_of_put_eq_ok (h : t.put row = .ok t') (found : r ∈ t') :
    r ∈ t ∨ r.mapType = row.mapType ∧ r.payload = row.payload := by
  -- A row that is replaced keeps its campaign and its map, but says what was put.
  rcases put_eq_ok_cases h with ⟨-, rfl⟩ | ⟨-, rfl⟩
  · obtain ⟨before, there, rfl⟩ := List.mem_map.mp found
    unfold replaced
    split_ifs
    · exact .inr ⟨rfl, rfl⟩
    · exact .inl there
  · rcases List.mem_append.mp found with there | new
    · exact .inl there
    · rw [List.mem_singleton.mp new]
      exact .inr ⟨rfl, rfl⟩

/-- A document that is found lies in a row. -/
theorem exists_row_of_document?_eq_some {document : Fields} (h : t.document? id = some document) :
    ∃ r ∈ t, r.id = id ∧ Json.readFields r.payload = document := by
  obtain ⟨r, found, same⟩ := Option.map_eq_some_iff.mp h
  exact ⟨r, List.mem_of_find?_eq_some found, id_of_row?_eq_some found, same⟩

end Table

end BattleMaps.Store
