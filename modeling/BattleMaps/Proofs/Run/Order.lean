import BattleMaps.Proofs.Regeneration.Isolation
import BattleMaps.Proofs.Regeneration.Steadiness
import BattleMaps.Proofs.Run.Coverage
import BattleMaps.Proofs.Store.Commuting

/-!
# The order of the maps

With services that answer the same, it does not matter in which order a campaign lists its maps.
What a call decides depends on what is stored under the id of its own map, and whether its row is
refused depends on the id and on the map of that row; calls for other maps of the campaign change
neither. So each map gets the outcome that it would have got on its own, and the rows are saved as
if all had been decided upon at the start.

## Main definitions

* `Decision.row?` — the row that a decision saves
* `Report.outcome?` — what a report says of a map

## Main results

* `reports_makeEach`, `tableAfter_makeEach` — what comes of maps follows from the table at the start
* `run_perm` — the order of the maps makes no difference
-/

namespace BattleMaps

open Store (Table Row saveAll)

variable {σ κ : Type}

/-! ## Decisions about a map -/

/-- The row that a decision saves, if it saves one. -/
def Decision.row? : Decision κ → Option Row
  | saves _ row => some row
  | _ => none

theorem Decision.table_apply (decision : Decision κ) (table : Table) :
    (decision.apply table).table = saveAll table decision.row?.toList := by
  cases decision with
  | saves outcome row =>
    change _ = (Store.save table row).2
    rw [apply, Store.save_eq]
    cases table.put row <;> rfl
  | _ => rfl

/-- Whether a row is refused is all that an outcome has from the table. -/
theorem Decision.outcome_apply_eq {decision : Decision κ} {table table' : Table}
    (same : ∀ row ∈ decision.row?, table.verdict row = table'.verdict row) :
    (decision.apply table).outcome = (decision.apply table').outcome := by
  cases decision with
  | saves outcome row =>
    rw [apply, apply, Table.put_eq_enact, Table.put_eq_enact, same row rfl]
    cases table'.verdict row <;> rfl
  | _ => rfl

variable [Amount κ] {services : Services σ κ} {config : Config κ} {campaignId : String}
  {spec other : Spec} {specs specs' : List Spec} {table : Table} {world around : σ} {row : Row}

/-- A row that is saved for a map bears the ids of the map. -/
theorem Spec.ids_of_row?
    (saved : row ∈ (spec.decision services config campaignId table world).row?) :
    row.id = documentId campaignId spec.id ∧ row.campaignId = campaignId ∧ row.mapId = spec.id := by
  unfold decision decide at saved
  dsimp only at saved
  split at saved
  · contradiction
  · split_ifs at saved
    · contradiction
    · split at saved
      · contradiction
      · unfold Draft.decide at saved
        dsimp only at saved
        split_ifs at saved
        · contradiction
        · obtain rfl := Option.some.inj saved
          exact ⟨rfl, rfl, rfl⟩
        · contradiction

theorem Spec.apart_rows {row' : Row} (apart : spec.id ≠ other.id)
    (saved : row ∈ (spec.decision services config campaignId table world).row?)
    (saved' : row' ∈ (other.decision services config campaignId table world).row?) :
    row.Apart row' := by
  obtain ⟨id, -, map⟩ := Spec.ids_of_row? saved
  obtain ⟨id', -, map'⟩ := Spec.ids_of_row? saved'
  constructor
  · rw [id, id']
    intro same
    exact apart (documentId_inj.mp same)
  · rw [map, map']
    rintro ⟨-, same⟩
    exact apart same

/-- A call for one map changes nothing for the call for another one. -/
theorem Spec.decision_apply_of_ne (stateless : services.Stateless) (apart : spec.id ≠ other.id) :
    other.decision services config campaignId
        ((spec.decision services config campaignId table around).apply table).table around =
      other.decision services config campaignId table around := by
  apply Spec.decision_eq stateless
  rw [← result_regenerate, storedFor, document?_regenerate_of_ne, storedFor]
  intro same
  exact apart (documentId_inj.mp same)

theorem Spec.outcome_apply_of_ne (apart : spec.id ≠ other.id) :
    ((other.decision services config campaignId table around).apply
        ((spec.decision services config campaignId table around).apply table).table).outcome =
      ((other.decision services config campaignId table around).apply table).outcome := by
  apply Decision.outcome_apply_eq
  intro row' saved'
  rw [Decision.table_apply]
  cases saved : (spec.decision services config campaignId table around).row? with
  | none => rfl
  | some row =>
    have keeps := Spec.apart_rows apart saved saved'
    change (Store.save table row).2.verdict row' = _
    rw [Table.save_snd, keeps.verdict_leave]

/-! ## One map after the other -/

/-- What is reported of a map, with the table at the start. -/
def Spec.outcome (services : Services σ κ) (config : Config κ) (campaignId : String)
    (table : Table) (world : σ) (spec : Spec) : Outcome κ :=
  ((spec.decision services config campaignId table world).apply table).reported spec

/-- The row that is saved for a map, with the table at the start. -/
def Spec.saved? (services : Services σ κ) (config : Config κ) (campaignId : String)
    (table : Table) (world : σ) (spec : Spec) : Option Row :=
  (spec.decision services config campaignId table world).row?

theorem result_regenerate_of_stateless (stateless : services.Stateless) (spec : Spec)
    (table : Table) (world around : σ) :
    ((regenerate services config campaignId spec table).run world).result =
      (spec.decision services config campaignId table around).apply table := by
  rw [result_regenerate, Spec.decision_eq stateless rfl world around]

/-- Each map of a batch gets the outcome that it would have got on its own. -/
theorem reports_makeEach (stateless : services.Stateless) (distinct : (specs.map Spec.id).Nodup)
    (table : Table) (world around : σ) :
    reports specs (makeEach (regenerate services config campaignId) specs table world) =
      specs.map (Spec.outcome services config campaignId table around) := by
  induction specs generalizing table world with
  | nil => rfl
  | cons spec specs ih =>
    obtain ⟨fresh, distinct⟩ := List.nodup_cons.mp distinct
    rw [makeEach, reports, List.zipWith_cons_cons, ← reports, ih distinct, List.map_cons,
      result_regenerate_of_stateless stateless spec table world around]
    congr 1
    apply List.map_congr_left
    intro other found
    have apart : spec.id ≠ other.id := by
      intro same
      exact fresh (same ▸ List.mem_map_of_mem found)
    rw [Spec.outcome, Spec.outcome, Spec.decision_apply_of_ne stateless apart, Regenerated.reported,
      Regenerated.reported, Spec.outcome_apply_of_ne apart]

/-- The rows that a batch saves are those that are decided upon at the start. -/
theorem tableAfter_makeEach (stateless : services.Stateless) (distinct : (specs.map Spec.id).Nodup)
    (table : Table) (world around : σ) :
    tableAfter table (makeEach (regenerate services config campaignId) specs table world) =
      saveAll table (specs.filterMap (Spec.saved? services config campaignId table around)) := by
  induction specs generalizing table world with
  | nil => rfl
  | cons spec specs ih =>
    obtain ⟨fresh, distinct⟩ := List.nodup_cons.mp distinct
    have others : ∀ other ∈ specs, Spec.saved? services config campaignId
        ((spec.decision services config campaignId table around).apply table).table around other =
          Spec.saved? services config campaignId table around other := by
      intro other found
      have apart : spec.id ≠ other.id := by
        intro same
        exact fresh (same ▸ List.mem_map_of_mem found)
      rw [Spec.saved?, Spec.decision_apply_of_ne stateless apart, Spec.saved?]
    rw [makeEach, tableAfter, List.foldl_cons, ← tableAfter, ih distinct,
      result_regenerate_of_stateless stateless spec table world around, List.filterMap_congr others,
      Decision.table_apply, ← Spec.saved?]
    cases saved : spec.saved? services config campaignId table around with
    | none => rw [List.filterMap_cons_none saved]; rfl
    | some row => rw [List.filterMap_cons_some saved]; rfl

theorem pairwise_apart (distinct : (specs.map Spec.id).Nodup) (table : Table) (around : σ) :
    (specs.filterMap (Spec.saved? services config campaignId table around)).Pairwise Row.Apart := by
  rw [List.pairwise_filterMap]
  apply (List.pairwise_map.mp distinct).imp
  intro spec other apart row saved row' saved'
  exact Spec.apart_rows apart saved saved'

/-! ## Runs -/

/-- What a report says of the map of an id. -/
def Report.outcome? (report : Report κ) (mapId : String) : Option (Outcome κ) :=
  (report.phases.flatMap (·.outcomes)).find? fun o => o.mapId == mapId

/-- What is found by an id of its own does not depend on the order. -/
theorem find?_eq_of_perm {α : Type} {l l' : List α} {key : α → String} (perm : l.Perm l')
    (distinct : (l.map key).Nodup) (id : String) :
    l.find? (fun a => key a == id) = l'.find? fun a => key a == id := by
  induction perm with
  | nil => rfl
  | cons a _ ih =>
    rw [List.find?_cons, List.find?_cons, ih (List.nodup_cons.mp distinct).2]
  | swap a b rest =>
    have apart : key b ≠ key a := by
      rintro same
      simp [same] at distinct
    by_cases first : key b = id
    · have other : key a ≠ id := first ▸ apart.symm
      simp [first, other]
    · simp [List.find?_cons, first]
  | trans first _ ih ih' =>
    rw [ih distinct, ih' ((first.map key).nodup_iff.mp distinct)]

variable {campaign permuted : Campaign} {mapId : Option String}

theorem perm_specs (overviews : campaign.exploration.Perm permuted.exploration)
    (battleMaps : campaign.combat.Perm permuted.combat) : campaign.specs.Perm permuted.specs :=
  (overviews.map _).append (battleMaps.map _)

/-- From a campaign that lists the same maps, the same maps are selected. -/
theorem exists_select_of_perm {s : Selection} (perm : campaign.specs.Perm permuted.specs)
    (selects : campaign.select mapId = .ok s) :
    ∃ s', permuted.select mapId = .ok s' ∧ s.specs.Perm s'.specs := by
  obtain ⟨maps, occurs⟩ := occurs_of_select_eq_ok selects
  have maps' : permuted.specs ≠ [] := fun none => maps (List.perm_nil.mp (none ▸ perm))
  have occurs' : ∀ id ∈ mapId, ∃ spec ∈ permuted.specs, spec.id = id := by
    intro id given
    obtain ⟨spec, found, bears⟩ := occurs id given
    exact ⟨spec, perm.mem_iff.mp found, bears⟩
  obtain ⟨s', selects', same'⟩ := exists_select_eq_ok maps' occurs'
  refine ⟨s', selects', ?_⟩
  rw [specs_of_select_eq_ok selects, same']
  exact perm.filter _

/-- What is reported of a batch in another order. -/
theorem find?_reports_of_perm (stateless : services.Stateless) (perm : specs.Perm specs')
    (distinct : (specs.map Spec.id).Nodup) (table : Table) (world later : σ) (id : String) :
    (reports specs (makeEach (regenerate services config campaignId) specs table world)).find?
        (fun o => o.mapId == id) =
      (reports specs' (makeEach (regenerate services config campaignId) specs' table later)).find?
        fun o => o.mapId == id := by
  have known : MayBreak config campaignId (regenerate services config campaignId) :=
    fun spec table world => .inl ⟨services, table, world, rfl⟩
  have ids := known.mapIds_reports specs table world
  have distinct' := (perm.map Spec.id).nodup_iff.mp distinct
  rw [reports_makeEach stateless distinct table world world] at ids ⊢
  rw [reports_makeEach stateless distinct' table later world]
  exact find?_eq_of_perm (perm.map _) (ids ▸ distinct) id

/-- What is left after a batch in another order. -/
theorem alike_tableAfter_of_perm (stateless : services.Stateless) (perm : specs.Perm specs')
    (distinct : (specs.map Spec.id).Nodup) (table : Table) (world later : σ) :
    (tableAfter table (makeEach (regenerate services config campaignId) specs table world)).Alike
      (tableAfter table (makeEach (regenerate services config campaignId) specs' table later)) := by
  have distinct' := (perm.map Spec.id).nodup_iff.mp distinct
  rw [tableAfter_makeEach stateless distinct table world world,
    tableAfter_makeEach stateless distinct' table later world]
  exact Store.saveAll_perm (perm.filterMap _) (pairwise_apart distinct table world) table

/-- If the ids of a campaign's maps are distinct, and the answers of the services depend on the
requests only, then listing the overviews or the battle maps in another order changes nothing: a run
over all maps or over one says the same of every map, and leaves the same rows and the same document
under every id. -/
theorem run_perm (same : permuted.id = campaign.id)
    (overviews : campaign.exploration.Perm permuted.exploration)
    (battleMaps : campaign.combat.Perm permuted.combat)
    (distinct : (campaign.specs.map Spec.id).Nodup) (stateless : services.Stateless)
    (config : Config κ) (pictures : Option Bool) (mapId : Option String) (table : Table)
    (world later : σ) :
    let first := ((run (some services) config pictures campaign mapId false table).run world).result
    let second := ((run (some services) config pictures permuted mapId false table).run later).result
    (∀ report, first.1 = .ok report → ∃ report' : Report κ, second.1 = .ok report' ∧
        ∀ id, report.outcome? id = report'.outcome? id) ∧
      first.2.Perm second.2 ∧ ∀ id, first.2.document? id = second.2.document? id := by
  have perm := perm_specs overviews battleMaps
  dsimp only [run, Option.map_some]
  rw [same]
  cases selects : campaign.select mapId with
  | error e =>
    -- Then nothing is selected from the other campaign either.
    cases selects' : permuted.select mapId with
    | error e' =>
      unfold runWith
      rw [selects, selects']
      exact ⟨fun _ absent => (nomatch absent), .refl _, fun _ => rfl⟩
    | ok s' =>
      obtain ⟨s, selected, -⟩ := exists_select_of_perm perm.symm selects'
      rw [selects] at selected
      contradiction
  | ok s =>
    obtain ⟨s', selects', perm'⟩ := exists_select_of_perm perm selects
    have distinct := nodup_of_select_eq_ok selects distinct
    rw [run_runWith selects, run_runWith selects']
    refine ⟨fun report made => ⟨_, rfl, fun id => ?_⟩, ?_⟩
    · obtain rfl := Except.ok.inj made
      rw [Report.outcome?, Report.outcome?, flatMap_phases, flatMap_phases]
      exact find?_reports_of_perm stateless perm' distinct table world later id
    · have alike : (tableAfter table (makeEach (regenerate services config campaign.id) s.specs
          table world)).Alike _ :=
        alike_tableAfter_of_perm stateless perm' distinct table world later
      exact ⟨alike.perm, alike.document?_eq⟩

theorem stateless_constantServices (reply : String) : (constantServices reply).Stateless where
  completes _ _ _ := rfl
  paints _ absent := nomatch absent
  keeps _ absent := nomatch absent
  fetches _ absent := nomatch absent
  stands _ _ := rfl

/-- The isle with its two inns in the other order. -/
def twoInnsSwapped : Campaign := { twoInns with combat := twoInns.combat.reverse }

/-- Both runs are made, say the same of both inns and leave the same documents. -/
theorem twoInns_swapped :
    ∃ report report' : Report Float,
      let services := constantServices Proposal.innProposal.write
      let first := ((run (some services) .standard none twoInns none false []).run ()).result
      let second := ((run (some services) .standard none twoInnsSwapped none false []).run ()).result
      first.1 = .ok report ∧ second.1 = .ok report' ∧
      report.plannedIds = ["inn", "tavern"] ∧ report'.plannedIds = ["tavern", "inn"] ∧
      (∀ id, report.outcome? id = report'.outcome? id) ∧
      first.2.Perm second.2 ∧ ∀ id, first.2.document? id = second.2.document? id := by
  have same : twoInnsSwapped.id = twoInns.id := rfl
  have overviews : twoInns.exploration.Perm twoInnsSwapped.exploration := .refl _
  have battleMaps : twoInns.combat.Perm twoInnsSwapped.combat := (List.reverse_perm _).symm
  have distinct : (twoInns.specs.map Spec.id).Nodup := by decide
  have selects : twoInns.select none = .ok twoInns.maps := rfl
  have selects' : twoInnsSwapped.select none = .ok twoInnsSwapped.maps := rfl
  obtain ⟨outcomes, rest⟩ := run_perm same overviews battleMaps distinct
    (stateless_constantServices Proposal.innProposal.write) .standard none none [] () ()
  obtain ⟨report, ran, planned⟩ : ∃ report : Report Float,
      ((run (some (constantServices Proposal.innProposal.write)) .standard none twoInns none false
        []).run ()).result.1 = .ok report ∧ report.plannedIds = ["inn", "tavern"] := by
    rw [run, Option.map_some, run_runWith selects]
    exact ⟨_, rfl, rfl⟩
  obtain ⟨report', ran', planned'⟩ : ∃ report : Report Float,
      ((run (some (constantServices Proposal.innProposal.write)) .standard none twoInnsSwapped none
        false []).run ()).result.1 = .ok report ∧ report.plannedIds = ["tavern", "inn"] := by
    rw [run, Option.map_some, run_runWith selects']
    exact ⟨_, rfl, rfl⟩
  obtain ⟨again, made, agree⟩ := outcomes report ran
  obtain rfl := Except.ok.inj (ran'.symm.trans made)
  exact ⟨report, report', ran, ran', planned, planned', agree, rest⟩

end BattleMaps
