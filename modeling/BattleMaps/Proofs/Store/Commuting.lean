import BattleMaps.Proofs.Store.Survival
import Mathlib.Data.List.Perm.Basic

/-!
# Saving in another order

What becomes of a row that is saved depends on two things only: whether there is a row under its
id, and whether some row belongs to its map. Rows with ids and maps of their own change neither for
one another, so it makes no difference in which order they are saved, except to the order in which
new rows stand in the table.

## Main definitions

* `Verdict`, `Table.verdict` — what becomes of a row, and what that depends on
* `Table.Alike` — tables of the same rows, with the same row found under every id
* `Row.Apart` — rows with ids and maps of their own

## Main results

* `put_eq_enact` — a row is put into a table by the verdict on it
* `saveAll_perm` — rows that keep apart can be saved in any order
-/

namespace BattleMaps.Store

variable {t t' t'' : Table} {a b row : Row} {rows rows' : List Row} {id : String}

/-! ## Verdicts -/

/-- What becomes of a row. -/
inductive Verdict where
  -- It takes the place of what is under its id.
  | replaces
  | adds
  | refused (c : Conflict)

namespace Verdict

/-- What a row makes of a table, or why it is refused. -/
def enact (row : Row) (t : Table) : Verdict → Except Conflict Table
  | replaces => .ok (t.map (Table.replaced row.id row.mapType row.payload))
  | adds => .ok (t ++ [row])
  | refused c => .error c

/-- The table afterwards, refused or not. -/
def leave (row : Row) (t : Table) : Verdict → Table
  | replaces => t.map (Table.replaced row.id row.mapType row.payload)
  | adds => t ++ [row]
  | refused _ => t

end Verdict

namespace Table

/-- Whether some row belongs to the map of a row. -/
def hasMap (t : Table) (row : Row) : Bool :=
  t.any fun r => r.campaignId == row.campaignId && r.mapId == row.mapId

def verdict (t : Table) (row : Row) : Verdict :=
  if isMapType row.mapType then
    if (t.row? row.id).isSome then .replaces
    else if t.hasMap row then .refused .repeatedMap
    else .adds
  else .refused .unknownMapType

/-- A row is put into a table by the verdict on it. -/
theorem put_eq_enact (t : Table) (row : Row) : t.put row = (t.verdict row).enact row t := by
  have owned : (t.any fun r => r.campaignId == row.campaignId && r.mapId == row.mapId) =
      t.hasMap row := rfl
  rw [put, verdict, replace, insert, owned]
  by_cases known : isMapType row.mapType
  · by_cases there : (t.row? row.id).isSome
    · simp only [known, there, if_true]
      rfl
    · by_cases taken : t.hasMap row <;> simp [known, there, taken, Verdict.enact]
  -- a row of an unknown kind is refused whether it would be replaced or added
  · by_cases there : (t.row? row.id).isSome <;> simp [known, there, Verdict.enact]

theorem save_snd (t : Table) (row : Row) : (save t row).2 = (t.verdict row).leave row t := by
  rw [save_eq, put_eq_enact]
  cases t.verdict row <;> rfl

theorem verdict_congr (ids : (t.row? row.id).isSome = (t'.row? row.id).isSome)
    (maps : t.hasMap row = t'.hasMap row) : t.verdict row = t'.verdict row := by
  rw [verdict, verdict, ids, maps]

theorem replaced_of_ne {mapType payload : String} {r : Row} (other : r.id ≠ id) :
    replaced id mapType payload r = r :=
  if_neg (by simpa using other)

theorem row?_leave_of_ne (v : Verdict) (other : row.id ≠ id) :
    (v.leave row t).row? id = t.row? id := by
  cases v with
  | replaces =>
    rw [Verdict.leave, row?_map_of_id _ fun _ => replaced_id]
    cases found : t.row? id with
    | none => rfl
    | some r =>
      have apart : r.id ≠ row.id := by
        rw [id_of_row?_eq_some found]
        exact other.symm
      rw [Option.map_some, replaced_of_ne apart]
  | adds => rw [Verdict.leave, row?_append_singleton, if_neg other, Option.or_none]
  | refused c => rfl

theorem hasMap_leave_of_ne (v : Verdict)
    (other : ¬ (row.campaignId = a.campaignId ∧ row.mapId = a.mapId)) :
    (v.leave row t).hasMap a = t.hasMap a := by
  cases v with
  | replaces =>
    -- replacing a row leaves its campaign and its map as they are
    rw [Verdict.leave, hasMap, List.any_map]
    congr 1
    funext r
    rw [Function.comp_apply, replaced]
    split_ifs <;> rfl
  | adds =>
    rw [Verdict.leave, hasMap, List.any_append, List.any_cons, List.any_nil, Bool.or_false, hasMap]
    simp [other]
  | refused c => rfl

end Table

/-! ## Rows that keep apart -/

/-- Whether two rows have ids of their own and belong to different maps. -/
structure Row.Apart (a b : Row) : Prop where
  ids : a.id ≠ b.id
  maps : ¬ (a.campaignId = b.campaignId ∧ a.mapId = b.mapId)

theorem Row.Apart.symm (h : a.Apart b) : b.Apart a :=
  ⟨h.ids.symm, fun same => h.maps ⟨same.1.symm, same.2.symm⟩⟩

/-- A row does not change the verdict on a row that it keeps apart from. -/
theorem Row.Apart.verdict_leave (h : a.Apart b) (v : Verdict) :
    (v.leave a t).verdict b = t.verdict b :=
  Table.verdict_congr (by rw [Table.row?_leave_of_ne v h.ids]) (Table.hasMap_leave_of_ne v h.maps)

/-- Whether two tables have the same rows, and the same row under every id. -/
structure Table.Alike (t t' : Table) : Prop where
  perm : t.Perm t'
  row?_eq : ∀ id, t.row? id = t'.row? id

namespace Table.Alike

theorem refl (t : Table) : t.Alike t := ⟨.refl t, fun _ => rfl⟩

theorem trans (h : t.Alike t') (h' : t'.Alike t'') : t.Alike t'' :=
  ⟨h.perm.trans h'.perm, fun id => (h.row?_eq id).trans (h'.row?_eq id)⟩

theorem verdict_eq (h : t.Alike t') (row : Row) : t.verdict row = t'.verdict row :=
  verdict_congr (by rw [h.row?_eq]) h.perm.any_eq

theorem document?_eq (h : t.Alike t') (id : String) : t.document? id = t'.document? id := by
  rw [document?, h.row?_eq, document?]

theorem leave (h : t.Alike t') (v : Verdict) (row : Row) :
    (v.leave row t).Alike (v.leave row t') := by
  cases v with
  | replaces =>
    refine ⟨h.perm.map _, fun id => ?_⟩
    rw [Verdict.leave, Verdict.leave, row?_map_of_id _ fun _ => replaced_id,
      row?_map_of_id _ fun _ => replaced_id, h.row?_eq]
  | adds =>
    refine ⟨h.perm.append_right _, fun id => ?_⟩
    rw [Verdict.leave, Verdict.leave, row?_append_singleton, row?_append_singleton, h.row?_eq]
  | refused c => exact h

theorem save (h : t.Alike t') (row : Row) : (save t row).2.Alike (save t' row).2 := by
  rw [save_snd, save_snd, h.verdict_eq]
  exact h.leave _ row

end Table.Alike

/-- Replacing what is under two ids comes to the same in either order. -/
theorem replaced_comm (ids : a.id ≠ b.id) :
    Table.replaced b.id b.mapType b.payload ∘ Table.replaced a.id a.mapType a.payload =
      Table.replaced a.id a.mapType a.payload ∘ Table.replaced b.id b.mapType b.payload := by
  funext r
  rw [Function.comp_apply, Function.comp_apply]
  by_cases first : r.id = a.id
  · have other : r.id ≠ b.id := first ▸ ids
    have other' : (Table.replaced a.id a.mapType a.payload r).id ≠ b.id := by
      rwa [Table.replaced_id]
    rw [Table.replaced_of_ne other', Table.replaced_of_ne other]
  · have first' : (Table.replaced b.id b.mapType b.payload r).id ≠ a.id := by
      rwa [Table.replaced_id]
    rw [Table.replaced_of_ne first, Table.replaced_of_ne first']

/-- What two rows that keep apart leave of a table does not depend on their order. -/
theorem Row.Apart.leave_comm (h : a.Apart b) (t : Table) (v w : Verdict) :
    (w.leave b (v.leave a t)).Alike (v.leave a (w.leave b t)) := by
  have kept {a b : Row} (ids : a.id ≠ b.id) :
      [b].map (Table.replaced a.id a.mapType a.payload) = [b] := by
    rw [List.map_singleton, Table.replaced_of_ne ids.symm]
  cases v with
  | refused c => exact .refl _
  | replaces =>
    cases w with
    | refused c => exact .refl _
    | replaces =>
      rw [Verdict.leave, Verdict.leave, Verdict.leave, Verdict.leave, List.map_map, List.map_map,
        replaced_comm h.ids]
      exact .refl _
    | adds =>
      rw [Verdict.leave, Verdict.leave, Verdict.leave, Verdict.leave, List.map_append, kept h.ids]
      exact .refl _
  | adds =>
    cases w with
    | refused c => exact .refl _
    | replaces =>
      rw [Verdict.leave, Verdict.leave, Verdict.leave, Verdict.leave, List.map_append,
        kept h.ids.symm]
      exact .refl _
    | adds =>
      -- only the new rows change places
      refine ⟨?_, fun id => ?_⟩
      · rw [Verdict.leave, Verdict.leave, Verdict.leave, Verdict.leave, List.append_assoc,
          List.append_assoc]
        exact (List.Perm.swap b a []).append_left t
      · simp only [Verdict.leave, Table.row?_append_singleton]
        by_cases first : a.id = id
        · have other : b.id ≠ id := first ▸ h.ids.symm
          simp [first, other]
        · simp [first]

/-- Two rows that keep apart can be saved in either order. -/
theorem Row.Apart.save_comm (h : a.Apart b) (t : Table) :
    (save (save t a).2 b).2.Alike (save (save t b).2 a).2 := by
  simp only [Table.save_snd, h.verdict_leave, h.symm.verdict_leave]
  exact h.leave_comm t _ _

/-- Saving rows takes tables that are alike to tables that are alike. -/
theorem Table.Alike.saveAll (h : t.Alike t') (rows : List Row) :
    (saveAll t rows).Alike (saveAll t' rows) := by
  induction rows generalizing t t' with
  | nil => exact h
  | cons row rest ih => exact ih (h.save row)

/-- Rows that keep apart can be saved in any order. -/
theorem saveAll_perm (perm : rows.Perm rows') (apart : rows.Pairwise Row.Apart) (t : Table) :
    (saveAll t rows).Alike (saveAll t rows') := by
  induction perm generalizing t with
  | nil => exact .refl t
  | cons row _ ih => exact ih (List.pairwise_cons.mp apart).2 _
  | swap a b rest =>
    have keeps : b.Apart a := (List.pairwise_cons.mp apart).1 a (List.mem_cons_self ..)
    exact (keeps.save_comm t).saveAll rest
  | trans first _ ih ih' =>
    exact (ih apart t).trans (ih' ((first.pairwise_iff fun h => h.symm).mp apart) t)

end BattleMaps.Store
