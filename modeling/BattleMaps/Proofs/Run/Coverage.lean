import BattleMaps.Proofs.Regeneration.FirstAnswer
import BattleMaps.Run

/-!
# What a run covers

A run regenerates each of its maps once, overviews first, whatever becomes of the maps before. A way
to regenerate maps may find anything in a store, and break down wherever it likes, after anything
that it has done until then; the run reports that map as failed and goes on from the table and the
world that it was left with.

## Main definitions

* `Campaign.specs`, `Campaign.selected` — the maps of a campaign, and those that a run covers
* `makeEach` — what comes of maps that are regenerated one after the other
* `MayBreak` — whether a way to regenerate maps gives outcomes of the library or breaks down
* `Report.Covers` — whether a report has an outcome for every map

## Main results

* `run_runWith` — a run regenerates its maps one after the other
* `runWith_covers` — every map is regenerated once and reported once
-/

namespace BattleMaps

open Work (Ensures)
open Store (Table)

variable {σ κ : Type}

/-! ## Selected maps -/

/-- The maps of a selection, overviews first. -/
def Selection.specs (s : Selection) : List Spec :=
  s.exploration.map .exploration ++ s.combat.map .combat

namespace Campaign

/-- The maps of a campaign, overviews first. -/
def specs (c : Campaign) : List Spec := c.maps.specs

/-- The maps of a campaign that have an id, or all of them. -/
def selected (c : Campaign) (mapId : Option String) : List Spec :=
  c.specs.filter fun spec => mapId.all (spec.id == ·)

end Campaign

namespace Selection

variable {s : Selection}

theorem map_id_specs (s : Selection) : s.specs.map Spec.id = s.ids := by
  rw [specs, List.map_append, List.map_map, List.map_map]
  rfl

theorem isEmpty_iff : s.isEmpty ↔ s.specs = [] := by
  simp [isEmpty, specs]

theorem specs_only (s : Selection) (mapId : String) :
    (s.only mapId).specs = s.specs.filter fun spec => spec.id == mapId := by
  rw [specs, specs, List.filter_append, List.filter_map, List.filter_map]
  rfl

end Selection

variable {campaign : Campaign} {mapId : Option String}

/-- A campaign with maps yields a selection for every id that occurs in it. -/
theorem exists_select_eq_ok (maps : campaign.specs ≠ [])
    (occurs : ∀ id ∈ mapId, ∃ spec ∈ campaign.specs, spec.id = id) :
    ∃ s, campaign.select mapId = .ok s ∧ s.specs = campaign.selected mapId := by
  have nonempty : ¬ campaign.maps.isEmpty := fun empty => maps (Selection.isEmpty_iff.mp empty)
  unfold Campaign.select
  rw [if_neg nonempty]
  cases mapId with
  | none => exact ⟨_, rfl, by simp [Campaign.selected, Campaign.specs]⟩
  | some id =>
    have found : ¬ (campaign.maps.only id).isEmpty := by
      obtain ⟨spec, there, same⟩ := occurs id rfl
      rw [Selection.isEmpty_iff, Selection.specs_only, List.filter_eq_nil_iff]
      exact fun none => none spec there (beq_iff_eq.mpr same)
    exact ⟨_, if_neg found, Selection.specs_only ..⟩

/-- A selection is made from maps, and for an id only if it occurs. -/
theorem occurs_of_select_eq_ok {s : Selection} (h : campaign.select mapId = .ok s) :
    campaign.specs ≠ [] ∧ ∀ id ∈ mapId, ∃ spec ∈ campaign.specs, spec.id = id := by
  unfold Campaign.select at h
  split_ifs at h with empty
  have maps : campaign.specs ≠ [] := fun none => empty (Selection.isEmpty_iff.mpr none)
  refine ⟨maps, fun id given => ?_⟩
  obtain rfl : mapId = some id := given
  dsimp only at h
  split_ifs at h with missing
  rw [Selection.isEmpty_iff, Selection.specs_only, List.filter_eq_nil_iff] at missing
  simpa [Campaign.specs] using missing

theorem specs_of_select_eq_ok {s : Selection} (selects : campaign.select mapId = .ok s) :
    s.specs = campaign.selected mapId := by
  obtain ⟨maps, occurs⟩ := occurs_of_select_eq_ok selects
  obtain ⟨_, again, same⟩ := exists_select_eq_ok maps occurs
  obtain rfl := Except.ok.inj (selects.symm.trans again)
  exact same

theorem nodup_of_select_eq_ok {s : Selection} (selects : campaign.select mapId = .ok s)
    (distinct : (campaign.specs.map Spec.id).Nodup) : (s.specs.map Spec.id).Nodup := by
  rw [specs_of_select_eq_ok selects]
  exact distinct.sublist (List.filter_sublist.map _)

/-! ## One map after the other -/

/-- What comes of maps that are regenerated one after the other, each from the table and the world
that the one before it has left. -/
def makeEach (make : Regenerator σ κ) :
    List Spec → Table → σ → List (Done σ κ (Regenerated κ))
  | [], _, _ => []
  | spec :: specs, table, world =>
    let done := (make spec table).run world
    done :: makeEach make specs done.result.table done.world

/-- The table that is left in the end. -/
def tableAfter (table : Table) (dones : List (Done σ κ (Regenerated κ))) : Table :=
  dones.foldl (fun _ done => done.result.table) table

/-- The world that is left in the end. -/
def worldAfter (world : σ) (dones : List (Done σ κ (Regenerated κ))) : σ :=
  dones.foldl (fun _ done => done.world) world

variable {make : Regenerator σ κ} {specs : List Spec} {table : Table} {world : σ}

theorem makeEach_append (specs rest : List Spec) (table : Table) (world : σ) :
    makeEach make (specs ++ rest) table world =
      makeEach make specs table world ++
        makeEach make rest (tableAfter table (makeEach make specs table world))
          (worldAfter world (makeEach make specs table world)) := by
  induction specs generalizing table world with
  | nil => rfl
  | cons spec specs ih =>
    rw [List.cons_append, makeEach, makeEach, ih]
    rfl

theorem length_makeEach (specs : List Spec) (table : Table) (world : σ) :
    (makeEach make specs table world).length = specs.length := by
  induction specs generalizing table world with
  | nil => rfl
  | cons spec specs ih => rw [makeEach, List.length_cons, ih, List.length_cons]

variable [Amount κ]

/-- What is reported of maps, one by one. -/
def reports (specs : List Spec) (dones : List (Done σ κ (Regenerated κ))) : List (Outcome κ) :=
  specs.zipWith (fun spec done => done.result.reported spec) dones

/-- A phase regenerates its maps one after the other, whatever becomes of them. -/
theorem run_runPhase (specs : List Spec) (table : Table) (world : σ) :
    (runPhase make specs table).run world =
      ⟨(reports specs (makeEach make specs table world),
        tableAfter table (makeEach make specs table world)),
       (makeEach make specs table world).flatMap (·.events),
       worldAfter world (makeEach make specs table world)⟩ := by
  induction specs generalizing table world with
  | nil => rfl
  | cons spec specs ih =>
    rw [runPhase, Work.run_bind, Work.run_bind, ih]
    simp only [Work.run_pure, List.append_nil]
    rfl

/-- The phase that outcomes make up; without outcomes there is none. -/
def phaseOf (name : String) (outcomes : List (Outcome κ)) : List (Phase κ) :=
  if outcomes.isEmpty then [] else [⟨name, outcomes⟩]

theorem run_phase (name : String) (specs : List Spec) (table : Table) (world : σ) :
    (phase make name specs table).run world =
      ⟨(phaseOf name (reports specs (makeEach make specs table world)),
        tableAfter table (makeEach make specs table world)),
       (makeEach make specs table world).flatMap (·.events),
       worldAfter world (makeEach make specs table world)⟩ := by
  cases specs with
  | nil => rfl
  | cons spec specs =>
    rw [phase, List.isEmpty_cons, if_neg Bool.false_ne_true, Work.run_bind, run_runPhase]
    simp only [Work.run_pure, List.append_nil]
    rfl

/-- The phases of a run: that of the overviews, and that of the battle maps, as far as there are
any. -/
def phases (s : Selection) (make : Regenerator σ κ) (table : Table) (world : σ) : List (Phase κ) :=
  let overviews := makeEach make (s.exploration.map .exploration) table world
  phaseOf MapType.exploration.name (reports (s.exploration.map .exploration) overviews) ++
    phaseOf MapType.combat.name (reports (s.combat.map .combat)
      (makeEach make (s.combat.map .combat) (tableAfter table overviews)
        (worldAfter world overviews)))

/-- A run regenerates its maps one after the other. -/
theorem run_runSelection (s : Selection) (table : Table) (world : σ) :
    (runSelection make s table).run world =
      ⟨(phases s make table world, tableAfter table (makeEach make s.specs table world)),
       (makeEach make s.specs table world).flatMap (·.events),
       worldAfter world (makeEach make s.specs table world)⟩ := by
  rw [runSelection, Work.run_bind, run_phase]
  dsimp only
  rw [Work.run_bind, run_phase, Selection.specs, makeEach_append]
  simp only [Work.run_pure, List.append_nil, List.flatMap_append, tableAfter, worldAfter,
    List.foldl_append]
  rfl

/-! ## Reports -/

omit [Amount κ] in
theorem flatMap_phaseOf (name : String) (outcomes : List (Outcome κ)) :
    (phaseOf name outcomes).flatMap (·.outcomes) = outcomes := by
  cases outcomes <;> simp [phaseOf]

omit [Amount κ] in
theorem outcomes_ne_nil_of_mem_phaseOf {name : String} {outcomes : List (Outcome κ)} {p : Phase κ}
    (found : p ∈ phaseOf name outcomes) : p.outcomes ≠ [] := by
  cases outcomes with
  | nil => contradiction
  | cons o outcomes =>
    obtain rfl := List.mem_singleton.mp found
    exact List.cons_ne_nil _ _

/-- All outcomes of a run, phase by phase, are what is reported of its maps. -/
theorem flatMap_phases (s : Selection) (table : Table) (world : σ) :
    (phases s make table world).flatMap (·.outcomes) =
      reports s.specs (makeEach make s.specs table world) := by
  rw [phases, List.flatMap_append, flatMap_phaseOf, flatMap_phaseOf, Selection.specs,
    makeEach_append, reports, reports, reports, List.zipWith_append]
  rw [length_makeEach]

/-- The phases of a run are named after the kinds of its maps. -/
theorem names_phases (s : Selection) (table : Table) (world : σ) :
    (phases s make table world).map (·.name) =
      ([.exploration, .combat].filter fun kind => s.specs.any (·.mapType = kind)).map
        MapType.name := by
  obtain ⟨exploration, combat⟩ := s
  cases exploration <;> cases combat <;>
    simp [phases, phaseOf, reports, makeEach, Selection.specs, Spec.mapType]

theorem outcomes_ne_nil_of_mem_phases {s : Selection} {p : Phase κ}
    (found : p ∈ phases s make table world) : p.outcomes ≠ [] := by
  rw [phases, List.mem_append] at found
  exact found.elim outcomes_ne_nil_of_mem_phaseOf outcomes_ne_nil_of_mem_phaseOf

omit [Amount κ] in
theorem Phase.successes_add_failures (p : Phase κ) :
    p.successes + p.failures = p.outcomes.length := by
  rw [List.length_eq_countP_add_countP Outcome.isOk, successes, failures]
  simp

omit [Amount κ] in
/-- Every outcome of a report is counted once. -/
theorem Report.successes_add_failures (r : Report κ) :
    r.successes + r.failures = (r.phases.flatMap (·.outcomes)).length := by
  rw [successes, failures, ← List.sum_eq_foldl, ← List.sum_eq_foldl]
  induction r.phases with
  | nil => rfl
  | cons p rest ih =>
    rw [List.flatMap_cons, List.length_append, ← ih, ← p.successes_add_failures]
    simp only [List.map_cons, List.sum_cons]
    omega

/-! ## Breakdowns -/

variable {services : Services σ κ} {config : Config κ} {campaignId : String}

omit [Amount κ] in
theorem Delivery.bears {mapId : String} {mapType : MapType} {stored : Option Fields}
    {drafts : Made κ → Draft → Prop} {answer : Except Breakdown (Made κ)} {r : Regenerated κ}
    {o : Outcome κ} (h : Delivery campaignId mapId mapType stored drafts table answer r)
    (ended : r.outcome = .ok o) : o.mapId = mapId := by
  cases h with
  | failed given =>
    obtain rfl := Except.ok.inj ended
    rfl
  | concluded silent drafted conclusion =>
    cases conclusion with
    | refused => contradiction
    | _ =>
      obtain rfl := Except.ok.inj ended
      rfl
  | _ => contradiction

/-- An outcome bears the id of its map. -/
theorem mapId_of_regenerate {spec : Spec} {o : Outcome κ}
    (ended : ((regenerate services config campaignId spec table).run world).result.outcome =
      .ok o) :
    o.mapId = spec.id := by
  cases spec with
  | combat spec =>
    have delivers : (regenerateCombat services config campaignId spec table).Traces _ :=
      regenerateCombat_delivers Ensures.any.traces
    obtain ⟨answer, -, delivery⟩ := delivers world
    exact delivery.bears ended
  | exploration spec =>
    have delivers : (regenerateExploration services config campaignId spec table).Traces _ :=
      regenerateExploration_delivers Ensures.any.traces
    obtain ⟨answer, -, delivery⟩ := delivers world
    exact delivery.bears ended

/-- Whether a way to regenerate maps gives every map an outcome that the library may give it, with
some services and from some table and some world, or breaks down. What it asks and what it leaves
behind may be anything. -/
def MayBreak (config : Config κ) (campaignId : String) (make : Regenerator σ κ) : Prop :=
  ∀ spec table world,
    (∃ (services : Services σ κ) (found : Table) (around : σ),
      ((make spec table).run world).result.outcome =
        ((regenerate services config campaignId spec found).run around).result.outcome) ∨
      ∃ b, ((make spec table).run world).result.outcome = .error b

/-- Whether or not a map breaks down, what is reported of it bears its id. -/
theorem MayBreak.mapId_reported (h : MayBreak config campaignId make) (spec : Spec)
    (table : Table) (world : σ) :
    (((make spec table).run world).result.reported spec).mapId = spec.id := by
  rw [Regenerated.reported]
  rcases h spec table world with ⟨services, found, around, same⟩ | ⟨b, broken⟩
  · rw [same]
    split
    · rename_i o ended
      exact mapId_of_regenerate ended
    · rfl
  · rw [broken]
    rfl

theorem MayBreak.mapIds_reports (h : MayBreak config campaignId make) (specs : List Spec)
    (table : Table) (world : σ) :
    (reports specs (makeEach make specs table world)).map (·.mapId) = specs.map Spec.id := by
  induction specs generalizing table world with
  | nil => rfl
  | cons spec specs ih =>
    rw [makeEach, reports, List.zipWith_cons_cons, List.map_cons, List.map_cons, h.mapId_reported]
    exact congrArg _ (ih _ _)

/-! ## Coverage -/

/-- Whether a report has an outcome for every map, in order, and nothing else. -/
structure Report.Covers (report : Report κ) (specs : List Spec)
    (dones : List (Done σ κ (Regenerated κ))) : Prop where
  outcomes : report.phases.flatMap (·.outcomes) = reports specs dones
  plannedIds : report.plannedIds = specs.map Spec.id
  mapIds : (report.phases.flatMap (·.outcomes)).map (·.mapId) = report.plannedIds
  counts : report.successes + report.failures = report.plannedIds.length
  -- Overviews come before battle maps, and each kind has a phase only if there are maps of it.
  names : report.phases.map (·.name) =
    ([.exploration, .combat].filter fun kind => specs.any (·.mapType = kind)).map MapType.name
  filled : ∀ p ∈ report.phases, p.outcomes ≠ []

theorem covers_phases {report : Report κ} {s : Selection}
    (mayBreak : MayBreak config campaignId make)
    (plannedIds : report.plannedIds = s.ids) (ran : report.phases = phases s make table world) :
    report.Covers s.specs (makeEach make s.specs table world) where
  outcomes := by rw [ran, flatMap_phases]
  plannedIds := by rw [plannedIds, Selection.map_id_specs]
  mapIds := by
    rw [ran, flatMap_phases, mayBreak.mapIds_reports, plannedIds, Selection.map_id_specs]
  counts := by
    rw [report.successes_add_failures, ran, flatMap_phases, plannedIds, ← Selection.map_id_specs,
      List.length_map, reports, List.length_zipWith, length_makeEach, Nat.min_self]
  names := by rw [ran, names_phases]
  filled := by
    rw [ran]
    exact fun p found => outcomes_ne_nil_of_mem_phases found

/-- A run is what comes of its maps, one after the other. -/
theorem run_runWith {s : Selection} (selects : campaign.select mapId = .ok s)
    (make : Regenerator σ κ) (config : Config κ) (pictures : Bool) (table : Table) (world : σ) :
    (runWith (some make) config pictures campaign mapId false table).run world =
      ⟨(.ok { planned config pictures campaign false s with phases := phases s make table world },
        tableAfter table (makeEach make s.specs table world)),
       (makeEach make s.specs table world).flatMap (·.events),
       worldAfter world (makeEach make s.specs table world)⟩ := by
  unfold runWith
  rw [selects]
  simp only [Bool.false_eq_true, if_false]
  rw [Work.run_bind, run_runSelection]
  simp only [Work.run_pure, List.append_nil]

/-- Whatever is found in the store, whichever maps break down, and whatever they leave behind, a run
of a campaign with maps, over all of them or over those of an id that occurs, regenerates each
selected map exactly once, from what the one before it has left, and its report covers them all; a
preview plans for the same maps, asks no service and leaves the table as it was. -/
theorem runWith_covers (mayBreak : MayBreak config campaign.id make)
    (maps : campaign.specs ≠ []) (occurs : ∀ id ∈ mapId, ∃ spec ∈ campaign.specs, spec.id = id)
    (pictures : Bool) (table : Table) (world : σ) :
    ∃ report preview,
      (runWith (some make) config pictures campaign mapId false table).run world =
        ⟨(.ok report, tableAfter table (makeEach make (campaign.selected mapId) table world)),
         (makeEach make (campaign.selected mapId) table world).flatMap (·.events),
         worldAfter world (makeEach make (campaign.selected mapId) table world)⟩ ∧
      report.Covers (campaign.selected mapId)
        (makeEach make (campaign.selected mapId) table world) ∧
      (runWith (some make) config pictures campaign mapId true table).run world =
        ⟨(.ok preview, table), [], world⟩ ∧
      preview.plannedIds = report.plannedIds := by
  obtain ⟨s, selects, same⟩ := exists_select_eq_ok maps occurs
  refine ⟨{ planned config pictures campaign false s with phases := phases s make table world },
    planned config pictures campaign true s, ?_, ?_, ?_, rfl⟩
  · rw [← same]
    exact run_runWith selects make config pictures table world
  · rw [← same]
    exact covers_phases mayBreak rfl rfl
  · unfold runWith
    rw [selects]
    rfl

/-- A way to regenerate maps that breaks down on the map of an id, before it has done anything. -/
def breakingOn (mapId : String) (make : Regenerator σ κ) : Regenerator σ κ := fun spec table =>
  if spec.id = mapId then pure ⟨.error .noPainter, table⟩ else make spec table

theorem mayBreak_breakingOn (mapId : String) :
    MayBreak config campaignId (breakingOn mapId (regenerate services config campaignId)) := by
  intro spec table world
  unfold breakingOn
  split_ifs
  · exact .inr ⟨.noPainter, rfl⟩
  · exact .inl ⟨services, table, world, rfl⟩

/-- An isle with two inns, of which the first one breaks down. -/
def twoInns : Campaign where
  id := "isle"
  title := "The isle"
  combat := [Proposal.innSpec, { Proposal.innSpec with id := "tavern" }]

theorem twoInns_covered :
    ∃ report : Report Float,
      ((runWith (some (breakingOn "inn" (regenerate (constantServices Proposal.innProposal.write)
        .standard "isle"))) .standard false twoInns none false []).run ()).result.1 = .ok report ∧
      (report.phases.flatMap (·.outcomes)).map (·.mapId) = ["inn", "tavern"] ∧
      report.successes + report.failures = 2 ∧ report.phases.map (·.name) = ["combat"] := by
  have mayBreak : MayBreak .standard twoInns.id (breakingOn "inn" (regenerate
      (constantServices Proposal.innProposal.write) .standard "isle")) := mayBreak_breakingOn "inn"
  have maps : twoInns.specs ≠ [] := List.cons_ne_nil _ _
  have occurs : ∀ id ∈ (none : Option String), ∃ spec ∈ twoInns.specs, spec.id = id :=
    fun _ absent => nomatch absent
  obtain ⟨report, _, ran, covers, -⟩ := runWith_covers mayBreak maps occurs false [] ()
  have ids : report.plannedIds = ["inn", "tavern"] := covers.plannedIds
  refine ⟨report, congrArg (·.result.1) ran, covers.mapIds.trans ids, ?_, covers.names⟩
  rw [covers.counts, ids]
  rfl

end BattleMaps
