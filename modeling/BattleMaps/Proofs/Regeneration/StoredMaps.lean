import BattleMaps.Proofs.Regeneration.FirstAnswer

/-!
# What the store holds

A store that was filled by calls alone holds nothing but sound maps. The tiles and the name of
their encoding reach it by several ways, and they stay together on each: a new grid is stored with
the encoding that it was accepted under, and a stored grid is taken over with its own. Since a
stored grid may be taken over only if it is complete, the invariant also says that overviews have
no complete grid.

## Main definitions

* `SoundRegions`, `SoundMap` — the promises of a stored battle map
* `SoundRow` — the invariant of a row

## Main results

* `history_stores_sound_maps` — every row of a store that was filled by calls is sound
-/

namespace BattleMaps

open Json (Regular)
open Fields (HasDistinctKeys)
open Store (Row Table)

variable {σ κ : Type} {config : Config κ} {campaignId : String} {floor : Float} {spec : Spec}
  {d : Draft} {document later region grid : Fields} {v : Json} {before after : Table}
  {m : BattleMap} {depth : Nat}

/-! ## Regions -/

/-- The promises of a stored region: its kind is one of the known ones, and its cells are distinct
cells of the grid. -/
structure SoundRegion (region : Fields) : Prop where
  kind : ∃ k ∈ RegionKind.all, Fields.value region "type" = .text k.name
  cells : ∃ cells : List Nat,
    Fields.value region "cells" = .array (cells.map fun c : Nat => .int c) ∧ cells.Nodup ∧
      ∀ c ∈ cells, c < cellCount

/-- The promises of stored regions: they are a list of objects with distinct ids, each of which
keeps the promises of a region. -/
def SoundRegions (v : Json) : Prop :=
  ∃ (regions : List Fields) (ids : List String), v = .array (regions.map .object) ∧
    regions.map (Fields.value · "id") = ids.map .text ∧ ids.Nodup ∧
    ∀ region ∈ regions, SoundRegion region

theorem SoundRegion.sorted (h : SoundRegion region) (distinct : HasDistinctKeys region) :
    SoundRegion ((Json.sortByKey region).map fun m => (m.1, m.2.sorted)) := by
  obtain ⟨⟨k, known, kind⟩, cells, covered, nodup, inside⟩ := h
  constructor
  · refine ⟨k, known, ?_⟩
    rw [Json.value_sorted distinct, kind]
    rfl
  · refine ⟨cells, ?_, nodup, inside⟩
    rw [Json.value_sorted distinct, covered, Json.sorted_array, List.map_map]
    rfl

/-- Writing regions and reading them again does not harm their promises. -/
theorem SoundRegions.sorted (h : SoundRegions v) (regular : Regular depth v) :
    SoundRegions v.sorted := by
  obtain ⟨regions, ids, rfl, named, nodup, sound⟩ := h
  have distinct : ∀ region ∈ regions, HasDistinctKeys region := by
    intro region found
    cases regular with
    | array inside =>
      cases inside _ (List.mem_map_of_mem found) with
      | object distinct _ => exact distinct
  refine ⟨regions.map fun region => (Json.sortByKey region).map fun m => (m.1, m.2.sorted), ids,
    ?_, ?_, nodup, ?_⟩
  · rw [Json.sorted_array, List.map_map, List.map_map]
    congr 1
    exact List.map_congr_left fun region _ => Json.sorted_object
  · rw [List.map_map]
    calc regions.map ((Fields.value · "id") ∘ fun region =>
          (Json.sortByKey region).map fun m => (m.1, m.2.sorted))
        = (regions.map (Fields.value · "id")).map Json.sorted := by
          rw [List.map_map]
          exact List.map_congr_left fun region found => Json.value_sorted (distinct region found)
      _ = ids.map .text := by
          rw [named, List.map_map]
          rfl
  · refine List.forall_mem_map.mpr fun region found => ?_
    exact (sound region found).sorted (distinct region found)

/-- The regions of a sound map keep their promises in the form in which they are stored. -/
theorem soundRegions_toJson {regions : List Region} (nodup : (regions.map (·.id)).Nodup)
    (sound : ∀ r ∈ regions, r.Sound) : SoundRegions (.array (regions.map Region.toJson)) := by
  -- Every region has a form in the store with its id, its kind and its cells in place.
  choose fields spelled _ _ id kind cells using exists_fields_toJson
  refine ⟨regions.map fields, regions.map (·.id), ?_, ?_, nodup, ?_⟩
  · rw [List.map_map]
    congr 1
    exact List.map_congr_left fun r _ => spelled r
  · rw [List.map_map, List.map_map]
    exact List.map_congr_left fun r _ => id r
  · refine List.forall_mem_map.mpr fun r found => ?_
    exact ⟨⟨r.kind, r.kind.mem_all, kind r⟩, r.cells, cells r, (sound r found).nodup_cells,
      (sound r found).cell_lt⟩

/-! ## Maps -/

/-- The promises of a stored battle map: four hundred tiles of the encoding that it names, enough
of them walkable, sound regions, and a known confidence. -/
structure SoundMap (floor : Float) (document : Fields) : Prop where
  tiles : ∃ grid : Grid, Fields.value document "tileEncoding" = .text grid.encoding.name ∧
    Fields.value document "tileData" = .array (grid.cells.map fun c : Nat => .int c) ∧
    grid.cells.length = cellCount ∧ (∀ tile ∈ grid.cells, tile ≤ grid.encoding.maxTile) ∧
    ¬ grid.walkableFraction < floor
  regions : SoundRegions (Fields.value document "regions")
  confidence : ∃ c ∈ Confidence.all, Fields.value document "confidence" = .text c.name

/-- A sound map keeps its promises in the form in which it is stored. -/
theorem soundMap_newGrid {encoding : Encoding} {required : List RequiredRegion}
    (h : m.Sound encoding floor required) : SoundMap floor (Draft.newGrid m) where
  tiles := ⟨m.grid, rfl, rfl, h.length_cells, h.encoding_eq ▸ h.tile_le, h.walkable⟩
  regions := soundRegions_toJson h.nodup_ids h.region
  confidence := ⟨m.confidence, h.confidence_mem, rfl⟩

theorem givenOr_of_value_eq_text {key default s : String} (filled : s ≠ "")
    (h : Fields.value document key = .text s) : Draft.givenOr document key default = .text s := by
  rw [Draft.givenOr, h, if_pos (by simpa [Json.isFilled] using filled)]

/-- A stored map keeps its promises when it is taken over. -/
theorem SoundMap.storedGrid (h : SoundMap floor document) :
    SoundMap floor (Draft.storedGrid document) := by
  obtain ⟨⟨grid, encoding, tiles, sound⟩, regions, c, known, confidence⟩ := h
  -- Neither name is empty, so both count as given and no default takes their place.
  have named : grid.encoding.name ≠ "" := by cases grid.encoding <;> decide
  have graded : c.name ≠ "" := by cases c <;> decide
  exact ⟨⟨grid, givenOr_of_value_eq_text named encoding, tiles, sound⟩, regions,
    c, known, givenOr_of_value_eq_text graded confidence⟩

/-- Writing a map and reading it again does not harm its promises. -/
theorem SoundMap.of_value_eq (h : SoundMap floor grid)
    (regular : Regular depth (Fields.value grid "regions"))
    (value : ∀ key ∈ Draft.gridKeys, Fields.value later key = (Fields.value grid key).sorted) :
    SoundMap floor later := by
  obtain ⟨⟨cells, encoding, tiles, sound⟩, regions, c, known, confidence⟩ := h
  simp only [Draft.gridKeys, List.forall_mem_cons, encoding, tiles, confidence, Json.sorted_array,
    List.map_map] at value
  obtain ⟨newTiles, newRegions, newEncoding, newConfidence, -⟩ := value
  exact ⟨⟨cells, newEncoding, newTiles, sound⟩, newRegions ▸ regions.sorted regular,
    c, known, newConfidence⟩

/-! ## Rows -/

/-- What a row of a store that was filled by calls is like: it names the kind of map that its
document names, a battle map keeps its promises, and nothing else has a complete grid. -/
structure SoundRow (floor : Float) (row : Row) : Prop where
  mapType_eq : Fields.value (Json.readFields row.payload) "mapType" = .text row.mapType
  soundMap : row.mapType = MapType.combat.name → SoundMap floor (Json.readFields row.payload)
  incomplete : row.mapType ≠ MapType.combat.name →
    Document.hasCompleteGrid (Json.readFields row.payload) = false

/-- A complete grid that is found in a sound store belongs to a sound map. -/
theorem soundMap_of_document?_eq_some {id : String} (sound : ∀ r ∈ before, SoundRow floor r)
    (found : before.document? id = some document) (complete : Document.hasCompleteGrid document) :
    SoundMap floor document := by
  obtain ⟨r, there, -, rfl⟩ := Table.exists_row_of_document?_eq_some found
  -- Its row is that of a battle map: rows of other kinds have no complete grid.
  by_cases combat : r.mapType = MapType.combat.name
  · exact (sound r there).soundMap combat
  · rw [(sound r there).incomplete combat] at complete
    contradiction

/-- The grid of a draft is sound, wherever it comes from. -/
theorem soundMap_of_grid?_eq_some {c : CombatSpec} {id : String} {made : Option BattleMap}
    (sound : ∀ r ∈ before, SoundRow config.minWalkable r) (new : SoundGrid config c made)
    (given : Draft.grid? (before.document? id) made = some grid) :
    SoundMap config.minWalkable grid := by
  rcases Draft.grid?_eq_some_cases given with ⟨document, found, complete, rfl⟩ | ⟨-, m, rfl, rfl⟩
  · exact (soundMap_of_document?_eq_some sound found complete).storedGrid
  · obtain ⟨encoding, promises⟩ := new m rfl
    exact soundMap_newGrid promises

/-- The document of a draft of a battle map is a sound map. -/
theorem Saved.soundMap {c : CombatSpec} {id : String}
    (saved : Saved id .combat d before after later)
    (drafted : Drafted config campaignId (before.document? id) (.combat c) d)
    (sound : ∀ r ∈ before, SoundRow config.minWalkable r) : SoundMap config.minWalkable later := by
  obtain ⟨now, value⟩ := saved.value_eq
  have regular : Regular Json.maxDepth (d.stamped now) :=
    drafted.regular fun _ found => regular_of_document?_eq_some found
  cases drafted with
  | combat new _ drafted =>
    obtain ⟨grid, given, ofGrid⟩ := Draft.value_document_combat drafted
    have regions : Regular 959 (Fields.value grid "regions") :=
      ofGrid now "regions" (by decide) ▸ regular.value
    refine (soundMap_of_grid?_eq_some sound new given).of_value_eq regions fun key there => ?_
    rw [value key, ofGrid now key there]

/-- What a call puts into a sound store is a sound row. -/
theorem Saved.soundRow {row : Row} {id : String}
    (saved : Saved id spec.mapType d before after later)
    (drafted : Drafted config campaignId (before.document? id) spec d)
    (sound : ∀ r ∈ before, SoundRow config.minWalkable r)
    (mapType : row.mapType = spec.mapType.name) (payload : Json.readFields row.payload = later) :
    SoundRow config.minWalkable row := by
  obtain ⟨now, value⟩ := saved.value_eq
  cases spec with
  | combat c =>
    refine ⟨?_, fun _ => payload ▸ saved.soundMap drafted sound, fun other => absurd mapType other⟩
    rw [payload, value, mapType]
    cases drafted with
    | combat _ _ drafted =>
      rw [Draft.mapType_combat drafted]
      rfl
  | exploration places =>
    rw [← payload] at value
    cases drafted with
    | exploration =>
      -- An overview is stored without tiles, so its row promises no map but keeps the invariant.
      have other : row.mapType ≠ MapType.combat.name :=
        mapType ▸ (by decide : "exploration" ≠ "combat")
      refine ⟨?_, fun combat => absurd combat other, fun _ => ?_⟩
      · rw [value, mapType, Draft.mapType_exploration]
        rfl
      · rw [Document.hasCompleteGrid, value "tileData", Draft.tileData_exploration]
        rfl

/-- A call keeps a store sound. -/
theorem Step.keeps_sound {s : Step σ κ} (h : s.Follows before)
    (sound : ∀ r ∈ before, SoundRow s.call.config.minWalkable r) :
    ∀ r ∈ s.table, SoundRow s.call.config.minWalkable r := by
  rcases h.table with same | ⟨d, later, drafted, saved⟩
  · rwa [same]
  · intro r found
    rcases saved.rows r found with there | ⟨mapType, payload⟩
    · exact sound r there
    · exact saved.soundRow drafted sound mapType payload

/-- Whatever is called, with whatever services and settings, as long as the share of walkable tiles
that is asked for stays the same: after every call on a store that started empty, every row names
the kind of map that its document names, and the document of every battle map is sound. -/
theorem history_stores_sound_maps [Amount κ] {calls : List (Call σ κ)}
    (uniform : ∀ call ∈ calls, call.config.minWalkable = floor) (world : σ) :
    ∀ s ∈ history calls [] world, ∀ row ∈ s.table,
      Fields.value (Json.readFields row.payload) "mapType" = .text row.mapType ∧
      (Fields.value (Json.readFields row.payload) "mapType" = .text MapType.combat.name →
        SoundMap floor (Json.readFields row.payload)) := by
  have start : ∀ row ∈ ([] : Table), SoundRow floor row := fun _ absent => nomatch absent
  -- All calls ask for the same share of walkable tiles, so one invariant fits all of them.
  have preserves : ∀ s : Step σ κ, s.call ∈ calls → ∀ before, s.Follows before →
      (∀ row ∈ before, SoundRow floor row) → ∀ row ∈ s.table, SoundRow floor row := by
    intro s there before follows sound
    have same := uniform s.call there
    subst same
    exact s.keeps_sound follows sound
  intro s made row found
  obtain ⟨there, before, follows, sound⟩ :=
    exists_follows_of_mem_history preserves start world s made
  have soundRow := preserves s there before follows sound row found
  refine ⟨soundRow.mapType_eq, fun combat => soundRow.soundMap ?_⟩
  rw [soundRow.mapType_eq] at combat
  exact Json.text.inj combat

theorem innCall_stores_sound_map :
    ∃ s ∈ history [innCall] [] (), ∃ row ∈ s.table, row.mapType = MapType.combat.name ∧
      SoundMap 0.3 (Json.readFields row.payload) := by
  have uniform : ∀ call ∈ [innCall], call.config.minWalkable = 0.3 := by
    rw [List.forall_mem_singleton]
    rfl
  have sound := history_stores_sound_maps uniform ()
  rw [history, history] at sound ⊢
  simp only [List.mem_singleton, forall_eq, exists_eq_left, table_innCall] at sound ⊢
  exact ⟨rfl, sound.2 sound.1⟩

end BattleMaps
