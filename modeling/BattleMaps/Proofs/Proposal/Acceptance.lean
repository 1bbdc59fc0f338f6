import BattleMaps.Proofs.Proposal.Cells
import BattleMaps.Proofs.Text.Trim

/-!
# What an accepted proposal promises

A proposal is untrusted: it may be any JSON value. If it is accepted nevertheless, the map that it
becomes keeps every promise that later steps rely on. The regions are checked in one pass, and the
invariant of that pass is that the ids found so far are apart from the ids seen before.

## Main definitions

* `Region.Sound` — the promises of one region
* `BattleMap.Sound` — the promises of a map, for an encoding, a floor and required regions

## Main results

* `sound_of_acceptValue_eq_ok` — an accepted proposal becomes a sound map
-/

namespace BattleMaps

/-- The promises of a region: its id is trimmed and not blank, its kind is one of the known ones,
and its cells are distinct cells of the grid. -/
structure Region.Sound (r : Region) : Prop where
  id_ne_empty : r.id ≠ ""
  trim_id : Text.trim r.id = r.id
  kind_mem : r.kind ∈ RegionKind.all
  nodup_cells : r.cells.Nodup
  cell_lt : ∀ c ∈ r.cells, c < cellCount

/-- The promises of a map: four hundred tiles of the encoding, enough of them walkable, sound
regions with distinct ids, all required regions among them, and a known confidence. -/
structure BattleMap.Sound (m : BattleMap) (encoding : Encoding) (floor : Float)
    (required : List RequiredRegion) : Prop where
  encoding_eq : m.grid.encoding = encoding
  length_cells : m.grid.cells.length = cellCount
  tile_le : ∀ tile ∈ m.grid.cells, tile ≤ encoding.maxTile
  walkable : ¬ m.grid.walkableFraction < floor
  nodup_ids : (m.regions.map (·.id)).Nodup
  region : ∀ r ∈ m.regions, r.Sound
  required_mem : ∀ q ∈ required, q.id ∈ m.regions.map (·.id)
  confidence_mem : m.confidence ∈ Confidence.all

theorem RegionKind.mem_all (k : RegionKind) : k ∈ all := by
  cases k <;> decide

theorem Confidence.mem_all (c : Confidence) : c ∈ all := by
  cases c <;> decide

namespace Proposal

variable {spec : CombatSpec} {encoding : Encoding} {floor : Float} {proposal : Fields}
  {grid : Grid} {m : BattleMap}

/-! ## Regions -/

/-- A text that starts with something visible and ends with the digits of a number is trimmed and
not blank. -/
theorem nonBlank?_numbered {s : String} {c : Char} {start : List Char} {n : Nat}
    (spelled : s.toList = c :: start ++ Nat.toDigits 10 n) (visible : Text.isBlank c = false) :
    Text.nonBlank? s = some s := by
  have trimmed : Text.trimChars s.toList = s.toList := by
    rw [spelled]
    refine Text.trimChars_eq_self_iff.mpr ⟨fun _ => by simp [visible], fun _ => ?_⟩
    have digit := Nat.isDigit_of_mem_toDigits (b := 10) (n := n) (by decide) (by decide)
      (List.getLast_mem Nat.toDigits_ne_nil)
    rw [List.getLast_append_of_ne_nil _ Nat.toDigits_ne_nil,
      Text.isBlank_eq_false_of_isDigit digit]
    decide
  refine Text.nonBlank?_eq_some_iff.mpr ⟨?_, fun empty => ?_⟩
  · rw [Text.trim, trimmed, String.ofList_toList]
  · rw [empty] at spelled
    simp at spelled

theorem nonBlank?_defaultId (index : Nat) :
    Text.nonBlank? s!"region_{index}" = some s!"region_{index}" := by
  have spelled : (s!"region_{index}").toList = 'r' :: "egion_".toList ++ Nat.toDigits 10 index := by
    simp [toString]
  exact nonBlank?_numbered spelled (by decide)

theorem nonBlank?_defaultName (index : Nat) :
    Text.nonBlank? s!"Region {index + 1}" = some s!"Region {index + 1}" := by
  have spelled : (s!"Region {index + 1}").toList =
      'R' :: "egion ".toList ++ Nat.toDigits 10 (index + 1) := by
    simp [toString]
  exact nonBlank?_numbered spelled (by decide)

theorem nonBlank?_regionId (index : Nat) (fields : Fields) :
    Text.nonBlank? (regionId index fields) = some (regionId index fields) := by
  unfold regionId
  cases given : (Fields.value fields "id").trimmed? with
  | none => exact nonBlank?_defaultId index
  | some id => exact Text.nonBlank?_of_eq_some given

@[simp] theorem region_id {index : Nat} {id : String} {cells : List Nat} {fields : Fields} :
    (region index id cells fields).id = id := rfl

theorem region_sound {index : Nat} {fields : Fields} {extent : Extent} {cells : List Nat}
    (h : extent.cells (regionId index fields) = .ok cells) :
    (region index (regionId index fields) cells fields).Sound := by
  obtain ⟨trimmed, filled⟩ := Text.nonBlank?_eq_some_iff.mp (nonBlank?_regionId index fields)
  constructor
  case id_ne_empty => rwa [region_id]
  case trim_id => rwa [region_id]
  case kind_mem => exact RegionKind.mem_all _
  case nodup_cells => exact nodup_of_extent_cells_eq_ok h
  case cell_lt => exact lt_of_extent_cells_eq_ok h

/-- The pass over the entries keeps the ids that it finds apart from each other and from those
that it has seen, and finds sound regions only. -/
theorem regionsFrom_invariant {index : Nat} {seen : List String} {entries : List Json}
    {found : List Region} (h : regionsFrom index seen entries = .ok found) :
    (found.map (·.id)).Nodup ∧ (∀ r ∈ found, r.id ∉ seen) ∧ ∀ r ∈ found, r.Sound := by
  -- The invariant speaks of the ids seen so far, which grow by one with each region.
  induction entries generalizing index seen found with
  | nil =>
    obtain rfl := Except.ok.inj h
    simp
  | cons value rest ih =>
    rw [regionsFrom] at h
    split at h
    -- an entry that describes no region is passed over
    · exact ih h
    · rename_i fields extent _
      dsimp only at h
      split_ifs at h with repeated
      obtain ⟨cells, covered, h⟩ := bind_eq_ok.mp h
      obtain ⟨others, read, h⟩ := bind_eq_ok.mp h
      obtain rfl := Except.ok.inj h
      obtain ⟨distinctIds, fresh, sound⟩ := ih read
      -- The id of this region counts as seen for the regions behind it.
      have apart : ∀ r ∈ others, r.id ≠ regionId index fields := fun r member same =>
        fresh r member (same ▸ List.mem_cons_self ..)
      rw [List.contains_iff_mem] at repeated
      refine ⟨?_, ?_, ?_⟩
      · rw [List.map_cons, region_id, List.nodup_cons, List.mem_map]
        exact ⟨fun ⟨r, member, same⟩ => apart r member same, distinctIds⟩
      · rw [List.forall_mem_cons, region_id]
        exact ⟨repeated, fun r member known => fresh r member (List.mem_cons_of_mem _ known)⟩
      · rw [List.forall_mem_cons]
        exact ⟨region_sound covered, sound⟩

theorem regions_invariant {value : Json} {found : List Region} (h : regions value = .ok found) :
    (found.map (·.id)).Nodup ∧ ∀ r ∈ found, r.Sound := by
  unfold regions at h
  split at h
  · obtain ⟨distinctIds, -, sound⟩ := regionsFrom_invariant h
    exact ⟨distinctIds, sound⟩
  · obtain rfl := Except.ok.inj h
    simp

theorem mem_ids_of_checkRequired_eq_ok {required : List RequiredRegion} {found : List Region}
    (h : checkRequired required found = .ok ()) :
    ∀ q ∈ required, q.id ∈ found.map (·.id) := by
  unfold checkRequired at h
  split at h
  · rename_i none_missing
    intro q member
    have present := List.filter_eq_nil_iff.mp none_missing q.id (List.mem_map_of_mem member)
    simpa using present
  · simp at h

/-! ## The whole -/

theorem not_lt_of_checkWalkable_eq_ok (h : checkWalkable grid floor = .ok ()) :
    ¬ grid.walkableFraction < floor := by
  unfold checkWalkable at h
  dsimp only at h
  split_ifs at h with below
  exact below

/-- An acceptance goes through all checks in order, and its map is made of what they leave. -/
theorem accept_eq_ok_iff :
    accept spec encoding floor proposal = .ok m ↔
      ∃ values, tiles proposal = .ok values ∧ m.grid = Grid.ofValues encoding values ∧
        checkWalkable m.grid floor = .ok () ∧
        regions (proposal.value "regions") = .ok m.regions ∧
        checkRequired spec.regions m.regions = .ok () ∧
        m.confidence = Confidence.ofValue (proposal.value "confidence") := by
  constructor
  · intro h
    obtain ⟨values, shaped, h⟩ := bind_eq_ok.mp h
    obtain ⟨_, roomy, h⟩ := bind_eq_ok.mp h
    obtain ⟨found, read, h⟩ := bind_eq_ok.mp h
    obtain ⟨_, complete, h⟩ := bind_eq_ok.mp h
    obtain rfl := Except.ok.inj h
    exact ⟨values, shaped, rfl, roomy, read, complete, by dsimp only⟩
  · rintro ⟨values, shaped, grid, roomy, read, complete, confidence⟩
    rw [grid] at roomy
    refine bind_eq_ok.mpr ⟨values, shaped, bind_eq_ok.mpr ⟨(), roomy, ?_⟩⟩
    refine bind_eq_ok.mpr ⟨m.regions, read, bind_eq_ok.mpr ⟨(), complete, ?_⟩⟩
    rw [← grid, ← confidence]

theorem sound_of_accept_eq_ok (h : accept spec encoding floor proposal = .ok m) :
    m.Sound encoding floor spec.regions := by
  -- Each check that acceptance has gone through gives one promise.
  obtain ⟨values, shaped, grid, roomy, read, complete, -⟩ := accept_eq_ok_iff.mp h
  obtain ⟨distinctIds, sound⟩ := regions_invariant read
  constructor
  case encoding_eq => rw [grid, Grid.ofValues]
  case length_cells => simpa [grid, Grid.ofValues] using length_of_tiles_eq_ok shaped
  case tile_le =>
    intro tile member
    rw [grid] at member
    obtain ⟨v, -, rfl⟩ := List.mem_map.mp member
    exact encoding.tileOf_le v
  case walkable => exact not_lt_of_checkWalkable_eq_ok roomy
  case nodup_ids => exact distinctIds
  case region => exact sound
  case required_mem => exact mem_ids_of_checkRequired_eq_ok complete
  case confidence_mem => exact Confidence.mem_all _

/-- Whatever value is proposed, and whatever share of walkable tiles is asked for: if the value is
accepted, it becomes a map that keeps every promise. -/
theorem sound_of_acceptValue_eq_ok {value : Json}
    (h : acceptValue spec encoding floor value = .ok m) :
    m.Sound encoding floor spec.regions := by
  cases value with
  | object proposal => exact sound_of_accept_eq_ok h
  | _ => simp [acceptValue] at h

/-- An inn whose map must show a hall. -/
def innSpec : CombatSpec where
  id := "inn"
  name := "The inn"
  feetPerSquare := 5
  terrain := "interior"
  lighting := "dim"
  layout := "A hall and a yard."
  regions := [{ id := "hall", name := "Hall", kind := "tavern", size := "large" }]

/-- A loosely spelled proposal for the inn: numbers as texts, cells off the grid and repeated, an
entry without an id. -/
def innProposal : Json :=
  .object
    [("tileData", .array
       (List.replicate 350 (.int 4) ++ List.replicate 49 (.text " 1") ++ [.int 9])),
     ("regions", .array
       [.object
          [("id", .text " hall "), ("type", .text "Tavern"),
           ("cells", .array [.int 5, .int (-3), .int 5, .real 7, .int 900])],
        .object [("bounds", .object [("maxRow", .int 1), ("maxCol", .int 40)])]]),
     ("confidence", .text "HIGH")]

theorem innProposal_sound :
    ∃ m, acceptValue innSpec .extended 0.3 innProposal = .ok m ∧
      m.Sound .extended 0.3 innSpec.regions := by
  have accepted : (acceptValue innSpec .extended 0.3 innProposal).isOk := by decide +kernel
  obtain ⟨m, h⟩ := exists_eq_ok accepted
  exact ⟨m, h, sound_of_acceptValue_eq_ok h⟩

end Proposal

end BattleMaps
