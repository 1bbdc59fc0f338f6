import BattleMaps.Campaign.Reader
import BattleMaps.Proofs.Regeneration.Isolation
import BattleMaps.Proofs.Regeneration.Reruns
import BattleMaps.Proofs.Run.Coverage

/-!
# Seeding a campaign

A run of a campaign from an empty store leaves the document of every map, if no map fails and no id
is given to two maps. Each call finds nothing under the key of its map, so that what it leaves says
what the map asks for, and the calls after it are about other keys.

## Main definitions

* `Seeded` — whether a document says what a map asks for

## Main results

* `exists_seeded_of_regenerate` — a call for a map that is new leaves a document that says so
* `run_seeds` — a run leaves the documents of all maps
* `sameInns_unseeded` — with one id for two maps, the second one goes without
-/

namespace BattleMaps

open Store (Table)

variable {σ κ : Type} {campaignId : String} {d : Draft} {document : Fields} {now : Int}
  {table : Table} {url : Option String} {made : Option BattleMap}

/-! ## Seeded documents -/

namespace Spec

def name : Spec → String
  | .combat s => s.name
  | .exploration s => s.name

def feetPerSquare : Spec → Int
  | .combat s => s.feetPerSquare
  | .exploration s => s.feetPerSquare

/-- Whether a document has what a map must show: all required regions on a battle map, and exactly
the points of interest on an overview. -/
def IsShown (document : Fields) : Spec → Prop
  | .combat s => ∃ regions, Fields.value document "regions" = .array regions ∧
      ∀ q ∈ s.regions, ∃ region, .object region ∈ regions ∧ Fields.value region "id" = .text q.id
  | .exploration s => (Fields.value document "pointsOfInterest").Same
      (.array (s.points.map PointOfInterest.toJson))

end Spec

/-- Whether a document says what a map of a campaign asks for. -/
structure Seeded (campaignId : String) (spec : Spec) (document : Fields) : Prop where
  campaignId_eq : Fields.value document "campaignId" = .text campaignId
  mapId_eq : Fields.value document "mapSpecId" = .text spec.id
  mapType_eq : Fields.value document "mapType" = .text spec.mapType.name
  name_eq : Fields.value document "name" = .text spec.name
  feetPerSquare_eq : Fields.value document "feetPerSquare" = .int spec.feetPerSquare
  shown : spec.IsShown document

/-- A stored region bears its id. -/
theorem exists_sorted_toJson (r : Region) :
    ∃ fields, r.toJson.sorted = .object fields ∧ Fields.value fields "id" = .text r.id := by
  obtain ⟨fields, spelled, distinct, -, id, -⟩ := exists_fields_toJson r
  refine ⟨(Json.sortByKey fields).map fun m => (m.1, m.2.sorted), ?_, ?_⟩
  · rw [spelled, Json.sorted_object]
  · rw [Json.value_sorted distinct, id]
    rfl

/-- An id is found among stored regions exactly if it is one of theirs. -/
theorem exists_region_iff {regions : List Region} {id : String} :
    (∃ region, .object region ∈ (regions.map Region.toJson).map Json.sorted ∧
      Fields.value region "id" = .text id) ↔ id ∈ regions.map (·.id) := by
  choose fields spelled named using exists_sorted_toJson
  rw [List.map_map]
  simp only [List.mem_map, Function.comp_apply, spelled, Json.object.injEq]
  constructor
  · rintro ⟨_, ⟨r, there, rfl⟩, same⟩
    exact ⟨r, there, Json.text.inj ((named r).symm.trans same)⟩
  · rintro ⟨r, there, rfl⟩
    exact ⟨_, ⟨r, there, rfl⟩, named r⟩

/-- What is stored of a battle map that was drafted from nothing but a sound grid is seeded. -/
theorem seeded_combat {config : Config κ} {spec : CombatSpec}
    (drafted : Draft.combat? campaignId spec none made url = some d)
    (sound : SoundGrid config spec made)
    (value : ∀ key, Fields.value document key = (Fields.value (d.document now) key).sorted) :
    Seeded campaignId (.combat spec) document := by
  obtain ⟨grid, given, fields⟩ := Draft.combat?_eq_some drafted
  obtain ⟨_, given', ofGrid⟩ := Draft.value_document_combat drafted
  obtain rfl := Option.some.inj (given.symm.trans given')
  have regions := (value "regions").trans
    (congrArg Json.sorted (ofGrid now "regions" (by decide)))
  rw [Draft.document, fields] at value
  refine ⟨value _, value _, value _, value _, value _, ?_⟩
  rcases Draft.grid?_eq_some_cases given with ⟨_, absent, -⟩ | ⟨-, m, rfl, rfl⟩
  · contradiction
  · obtain ⟨encoding, promises⟩ := sound m rfl
    have spelled : Fields.value (Draft.newGrid m) "regions" =
        .array (m.regions.map Region.toJson) := rfl
    rw [spelled, Json.sorted_array] at regions
    exact ⟨_, regions, fun q asked => exists_region_iff.mpr (promises.required_mem q asked)⟩

/-- What is stored of an overview is seeded. -/
theorem seeded_exploration {spec : ExplorationSpec}
    (value : ∀ key, Fields.value document key =
      (Fields.value ((Draft.exploration campaignId spec url).document now) key).sorted) :
    Seeded campaignId (.exploration spec) document := by
  have regular : Json.Regular 3 (.array (spec.points.map PointOfInterest.toJson)) :=
    .array_map fun p _ => p.regular_toJson
  have points : Fields.value document "pointsOfInterest" =
      (Json.array (spec.points.map PointOfInterest.toJson)).sorted := value _
  refine ⟨value _, value _, value _, value _, value _, ?_⟩
  rw [Spec.IsShown, points]
  exact regular.same_sorted

/-! ## One call -/

section Calls

variable [Amount κ] {services : Services σ κ} {config : Config κ} {world : σ}

/-- Where nothing is stored, a draft leaves what is read back of it. -/
theorem Left.exists_value_eq (h : Left none d document)
    (regular : ∀ now, Json.Regular Json.maxDepth (d.stamped now)) :
    ∃ now, ∀ key, Fields.value document key = (Fields.value (d.document now) key).sorted := by
  cases h with
  | unchanged there => contradiction
  | written writable => exact ⟨_, fun key => value_readFields_write (regular _) writable⟩

/-- A call that finds nothing under the key of its map and does not fail leaves a seeded document
there. -/
theorem exists_seeded_of_regenerate {spec : Spec} {o : Outcome κ}
    (absent : table.document? (documentId campaignId spec.id) = none)
    (ended : ((regenerate services config campaignId spec table).run world).result.outcome = .ok o)
    (fine : o.status ≠ .failed) :
    ∃ document,
      ((regenerate services config campaignId spec table).run world).result.table.document?
        (documentId campaignId spec.id) = some document ∧ Seeded campaignId spec document := by
  cases spec with
  | combat spec =>
    obtain ⟨made, d, document, -, -, sound, -, drafted, found, left⟩ :=
      exists_left_of_regenerateCombat (fun _ _ _ _ => trivial) (fun _ _ => trivial) ended fine
    rw [Spec.id] at absent
    rw [absent] at drafted left
    obtain ⟨now, value⟩ := left.exists_value_eq fun now =>
      Draft.regular_combat drafted (by simp)
    exact ⟨document, found, seeded_combat drafted sound value⟩
  | exploration spec =>
    have ends : (regenerateExploration services config campaignId spec table).Yields (fun _ => True)
        (Ending campaignId spec.id .exploration (table.document? (documentId campaignId spec.id))
          (fun d => ∃ made : Made κ, True ∧ made.error = none ∧
            d = .exploration campaignId spec made.url) table) :=
      regenerateExploration_ends fun _ _ _ _ => trivial
    obtain ⟨d, document, ⟨made, -, -, rfl⟩, found, left⟩ :=
      (ends world fun _ _ => trivial).exists_left ended fine
    rw [Spec.id] at absent
    rw [absent] at left
    obtain ⟨now, value⟩ := left.exists_value_eq fun now => Draft.regular_exploration
    exact ⟨document, found, seeded_exploration value⟩

/-! ## All calls of a run -/

theorem document?_tableAfter_of_ne {specs : List Spec} {mapId : String}
    (apart : ∀ spec ∈ specs, spec.id ≠ mapId) (table : Table) (world : σ) :
    (tableAfter table (makeEach (regenerate services config campaignId) specs table
      world)).document? (documentId campaignId mapId) =
        table.document? (documentId campaignId mapId) := by
  induction specs generalizing table world with
  | nil => rfl
  | cons spec specs ih =>
    rw [List.forall_mem_cons] at apart
    have first : documentId campaignId spec.id ≠ documentId campaignId mapId :=
      fun same => apart.1 (documentId_inj.mp same)
    exact (ih apart.2 _ _).trans (document?_regenerate_of_ne first world)

/-- Calls for maps with distinct ids that find nothing under their keys and do not fail leave seeded
documents there, and no later call touches them. -/
theorem makeEach_seeds (specs : List Spec) (distinct : (specs.map Spec.id).Nodup)
    (absent : ∀ spec ∈ specs, table.document? (documentId campaignId spec.id) = none)
    (fine : ∀ o ∈ reports specs (makeEach (regenerate services config campaignId) specs table
      world), o.status ≠ .failed) :
    ∀ p ∈ specs.zip (makeEach (regenerate services config campaignId) specs table world),
      ∃ document, p.2.result.table.document? (documentId campaignId p.1.id) = some document ∧
        (tableAfter table (makeEach (regenerate services config campaignId) specs table
          world)).document? (documentId campaignId p.1.id) = some document ∧
        Seeded campaignId p.1 document := by
  -- What the first call leaves is carried through the later ones, which are about other keys; they
  -- in turn find under their keys what the first one has found there.
  induction specs generalizing table world with
  | nil => exact fun _ absent => nomatch absent
  | cons spec specs ih =>
    rw [List.map_cons, List.nodup_cons] at distinct
    rw [List.forall_mem_cons] at absent
    rw [makeEach, reports, List.zipWith_cons_cons, List.forall_mem_cons] at fine
    have apart : ∀ later ∈ specs, later.id ≠ spec.id := fun later found same =>
      distinct.1 (same ▸ List.mem_map_of_mem found)
    rw [makeEach, List.zip_cons_cons, List.forall_mem_cons]
    constructor
    · obtain ⟨o, ended, unfailed⟩ : ∃ o,
          ((regenerate services config campaignId spec table).run world).result.outcome = .ok o ∧
            o.status ≠ .failed := by
        have reported := fine.1
        unfold Regenerated.reported at reported
        split at reported
        · rename_i o ended
          exact ⟨o, ended, reported⟩
        · contradiction
      obtain ⟨document, found, seeded⟩ := exists_seeded_of_regenerate absent.1 ended unfailed
      exact ⟨document, found, (document?_tableAfter_of_ne apart _ _).trans found, seeded⟩
    · refine ih distinct.2 (fun later found => ?_) fine.2
      have other : documentId campaignId spec.id ≠ documentId campaignId later.id :=
        fun same => apart later found (documentId_inj.mp same).symm
      rw [document?_regenerate_of_ne other, absent.2 later found]

/-- A run of a campaign in which no call fails has a report in which no map fails. -/
theorem exists_run_eq {campaign : Campaign} {dones : List (Done σ κ (Regenerated κ))}
    (maps : campaign.specs ≠ []) (pictures : Option Bool)
    (each : makeEach (regenerate services config campaign.id) campaign.specs table world = dones)
    (unfailed : ∀ done ∈ dones, ∃ o, done.result.outcome = .ok o ∧ o.status ≠ .failed) :
    ∃ report, ((run (some services) config pictures campaign none false table).run world).result =
        (.ok report, tableAfter table dones) ∧
      ∀ p ∈ report.phases, ∀ o ∈ p.outcomes, o.status ≠ .failed := by
  have occurs : ∀ id ∈ (none : Option String), ∃ spec ∈ campaign.specs, spec.id = id :=
    fun _ absent => nomatch absent
  obtain ⟨s, selects, same⟩ := exists_select_eq_ok maps occurs
  have all : s.specs = campaign.specs := by simpa [Campaign.selected] using same
  refine ⟨{ planned config (pictures.getD (some services |>.any Services.paintsBattleMaps)) campaign
    false s with phases := phases s (regenerate services config campaign.id) table world }, ?_, ?_⟩
  · rw [run, Option.map_some, run_runWith selects, all, each]
  · intro p there o found
    have reported := List.mem_flatMap_of_mem there found
    rw [flatMap_phases, all, each, reports, ← List.map_uncurry_zip_eq_zipWith] at reported
    obtain ⟨⟨spec, done⟩, paired, rfl⟩ := List.mem_map.mp reported
    obtain ⟨o, ended, fine⟩ := unfailed done (List.of_mem_zip paired).2
    rwa [Function.uncurry_apply_pair, Regenerated.reported, ended]

/-- If no two maps of a campaign have the same id, and no map fails in a run of the whole campaign
from an empty store, then every map has a document in the end that says what the map asks for, and
it is the one that the call for the map has left. -/
theorem run_seeds {campaign : Campaign} {pictures : Option Bool} {report : Report κ} {after : Table}
    (distinct : (campaign.specs.map Spec.id).Nodup)
    (ran : ((run (some services) config pictures campaign none false []).run world).result =
      (.ok report, after))
    (fine : ∀ p ∈ report.phases, ∀ o ∈ p.outcomes, o.status ≠ .failed) :
    (∀ spec ∈ campaign.specs, ∃ document,
      after.document? (documentId campaign.id spec.id) = some document ∧
        Seeded campaign.id spec document) ∧
    ∀ p ∈ campaign.specs.zip
        (makeEach (regenerate services config campaign.id) campaign.specs [] world),
      p.2.result.table.document? (documentId campaign.id p.1.id) =
        after.document? (documentId campaign.id p.1.id) := by
  have selects : campaign.select none = .ok campaign.maps := by
    -- a run of a campaign without maps has no report
    cases empty : campaign.maps.isEmpty with
    | true => simp [run, runWith, Campaign.select, empty] at ran
    | false => simp [Campaign.select, empty]
  rw [run, Option.map_some, run_runWith selects, Prod.mk.injEq, Except.ok.injEq] at ran
  obtain ⟨rfl, rfl⟩ := ran
  have unfailed : ∀ o ∈ reports campaign.specs (makeEach (regenerate services config campaign.id)
      campaign.specs [] world), o.status ≠ .failed := by
    intro o reported
    rw [Campaign.specs, ← flatMap_phases, List.mem_flatMap] at reported
    obtain ⟨p, there, found⟩ := reported
    exact fine p there o found
  have seeds := makeEach_seeds campaign.specs distinct (fun _ _ => rfl) unfailed
  constructor
  · intro spec there
    have covered : (campaign.specs.zip (makeEach (regenerate services config campaign.id)
        campaign.specs [] world)).map Prod.fst = campaign.specs :=
      List.map_fst_zip (length_makeEach ..).ge
    rw [← covered] at there
    obtain ⟨p, paired, rfl⟩ := List.mem_map.mp there
    obtain ⟨document, -, found, seeded⟩ := seeds p paired
    exact ⟨document, found, seeded⟩
  · intro p paired
    obtain ⟨document, left, found, -⟩ := seeds p paired
    exact left.trans found.symm

end Calls

/-! ## An inn on an isle -/

/-- A campaign with the inn and nothing else. -/
def innOnly : Campaign where
  id := "isle"
  title := "isle"
  combat := [Proposal.innSpec]

theorem run_innOnly :
    ∃ report : Report Float,
      ((run (some innCall.services) .standard none innOnly none false []).run ()).result =
        (.ok report, [innRow none]) ∧
      ∀ p ∈ report.phases, ∀ o ∈ p.outcomes, o.status ≠ .failed := by
  obtain ⟨o, generated, made⟩ := make_innCall
  have each : makeEach (regenerate innCall.services .standard "isle") innOnly.specs [] () =
      [innCall.make [] ()] := rfl
  rw [made] at each
  have maps : innOnly.specs ≠ [] := List.cons_ne_nil _ _
  refine exists_run_eq maps none each ?_
  rw [List.forall_mem_singleton]
  exact ⟨o, rfl, by simp [generated]⟩

theorem innOnly_seeded :
    ∃ report : Report Float,
      ((run (some innCall.services) .standard none innOnly none false []).run ()).result =
        (.ok report, [innRow none]) ∧
      (∀ p ∈ report.phases, ∀ o ∈ p.outcomes, o.status ≠ .failed) ∧
      ∃ document, Table.document? [innRow none] "isle_inn" = some document ∧
        Seeded "isle" (.combat Proposal.innSpec) document := by
  obtain ⟨report, ran, fine⟩ := run_innOnly
  have distinct : (innOnly.specs.map Spec.id).Nodup := List.nodup_singleton _
  have seeds := run_seeds distinct ran fine
  exact ⟨report, ran, fine, seeds.1 _ (List.mem_singleton_self _)⟩

/-! ## Two inns with one id -/

/-- A battle map of the isle in a campaign file, with one required region. -/
def innMember (region : String) : Json :=
  .object
    [("id", .text "inn"), ("name", .text "The inn"), ("feetPerSquare", .int 5),
     ("terrain", .text "interior"), ("lighting", .text "dim"),
     ("layoutDescription", .text "A hall and a yard."),
     ("regions", .array [.object
       [("id", .text region), ("name", .text "Hall"), ("type", .text "tavern"),
        ("approximateSize", .text "large")]])]

/-- A campaign file that gives one id to two battle maps. -/
def sameInnsFields : Fields :=
  [("slug", .text "isle"),
   ("combatMapSpecs", .array [innMember "hall", innMember "cellar"])]

/-- The inn once more, but with a cellar. -/
def cellarSpec : CombatSpec :=
  { Proposal.innSpec with
    regions := [{ id := "cellar", name := "Hall", kind := "tavern", size := "large" }] }

def sameInns : Campaign := { innOnly with combat := [Proposal.innSpec, cellarSpec] }

theorem ofFields_sameInns : Campaign.ofFields sameInnsFields = .ok sameInns := by
  rfl

theorem run_sameInns :
    ∃ report : Report Float,
      ((run (some innCall.services) .standard none sameInns none false []).run ()).result =
        (.ok report, [innRow none]) ∧
      ∀ p ∈ report.phases, ∀ o ∈ p.outcomes, o.status ≠ .failed := by
  obtain ⟨o, generated, made⟩ := make_innCall
  -- The draft of a map whose grid is stored does not look at the regions that it asks for.
  have drafted : Draft.combat? "isle" cellarSpec none (some innMap) none = some (innDraft none) :=
    rfl
  obtain ⟨settled, reuse⟩ := settled_innDocument drafted
  have found : Table.document? [innRow none] (documentId "isle" cellarSpec.id) = some innDocument :=
    document?_innRow none
  have services : innCall.services.paintsBattleMaps = false := rfl
  obtain ⟨again, reused, -, -, -, ran⟩ :=
    regenerateCombat_of_settled Config.standard found settled (services ▸ reuse)
  have first : (regenerate innCall.services .standard "isle" (.combat Proposal.innSpec) []).run () =
      ⟨⟨.ok o, [innRow none]⟩, [.completed (gridRequest .standard Proposal.innSpec none)
        (.ok ⟨Proposal.innProposal.write, 0⟩)], ()⟩ := made
  have second : (regenerate innCall.services .standard "isle" (.combat cellarSpec)
      [innRow none]).run () = ⟨⟨.ok again, [innRow none]⟩, [], ()⟩ := congrArg (·.run ()) ran
  have each : makeEach (regenerate innCall.services .standard "isle")
      [.combat Proposal.innSpec, .combat cellarSpec] [] () =
        [⟨⟨.ok o, [innRow none]⟩, [.completed (gridRequest .standard Proposal.innSpec none)
          (.ok ⟨Proposal.innProposal.write, 0⟩)], ()⟩, ⟨⟨.ok again, [innRow none]⟩, [], ()⟩] := by
    simp only [makeEach, first, second]
  have maps : sameInns.specs ≠ [] := List.cons_ne_nil _ _
  refine exists_run_eq maps none each ?_
  rw [List.forall_mem_cons, List.forall_mem_singleton]
  exact ⟨⟨o, rfl, by simp [generated]⟩, again, rfl, by simp [reused]⟩

/-- Although a campaign with two inns of one id is read, and neither fails in a run, the document of
the second one lacks the region that it requires. -/
theorem sameInns_unseeded :
    Campaign.ofFields sameInnsFields = .ok sameInns ∧
    (∃ report : Report Float,
      ((run (some innCall.services) .standard none sameInns none false []).run ()).result =
        (.ok report, [innRow none]) ∧
      ∀ p ∈ report.phases, ∀ o ∈ p.outcomes, o.status ≠ .failed) ∧
    .combat cellarSpec ∈ sameInns.specs ∧
    ∀ document, Table.document? [innRow none] (documentId "isle" cellarSpec.id) = some document →
      ¬ Seeded "isle" (.combat cellarSpec) document := by
  refine ⟨ofFields_sameInns, run_sameInns, ?_, ?_⟩
  · exact List.mem_cons_of_mem _ (List.mem_singleton_self _)
  · intro document found seeded
    have there : Table.document? [innRow none] (documentId "isle" cellarSpec.id) =
        some innDocument := document?_innRow none
    obtain rfl := Option.some.inj (there.symm.trans found)
    obtain ⟨regions, value, shown⟩ := seeded.shown
    have drawn : Fields.value ((innDraft none).document 0) "regions" =
        .array (innMap.regions.map Region.toJson) := rfl
    rw [value_innDocument, drawn, Json.sorted_array, Json.array.injEq] at value
    subst value
    -- The regions of the map are those that the model gave to the first inn.
    have cellar := exists_region_iff.mp (shown _ (List.mem_singleton_self _))
    exact absurd cellar (by decide)

end BattleMaps
