import BattleMaps.Draft
import BattleMaps.Proofs.Json.Reading
import BattleMaps.Proofs.Json.RoundTrip

/-!
# What a draft leaves in the store

A draft is written as a text and read back from it. Its members have distinct keys and nest no
deeper than the document that they come from, so every member comes back as it was, up to the order
of members inside it.

## Main definitions

* `Draft.document` — the document that a draft becomes
* `gridKeys` — the keys of the members that make up a grid

## Main results

* `regular_combat`, `regular_exploration` — drafts can be written and read back
* `value_document_combat` — where the members of a battle map's draft come from
* `value_readFields_payload` — what is found in the store under a key of a draft
* `hasCompleteGrid_readFields_payload`, `pictureUrl?_readFields_payload` — what is found there of a
  grid and of a picture
-/

namespace BattleMaps

open Json (Regular)
open Fields (HasDistinctKeys)

variable {depth : Nat} {α : Type} {key campaignId mapId : String} {mapType : MapType}
  {url : Option String} {stored : Option Fields} {made : Option BattleMap} {now : Int} {d : Draft}
  {grid fields : Fields}

/-! ## Optional members -/

/-- Whether there is no member, or a single one under the given key. -/
def AtMost (key : String) (fields : Fields) : Prop :=
  fields = [] ∨ ∃ v, Regular 1 v ∧ fields = [(key, v)]

theorem Json.Regular.array_map {l : List α} {f : α → Json} (inside : ∀ a ∈ l, Regular depth (f a)) :
    Regular (depth + 1) (.array (l.map f)) := by
  refine .array fun item found => ?_
  obtain ⟨a, member, rfl⟩ := List.mem_map.mp found
  exact inside a member

theorem atMost_optionalText (key : String) (s : Option String) :
    AtMost key (Fields.optionalText key s) := by
  unfold Fields.optionalText
  split
  · split_ifs
    · exact .inl rfl
    · exact .inr ⟨_, .text _, rfl⟩
  · exact .inl rfl

theorem atMost_optionalTexts (key : String) (l : Option (List String)) :
    AtMost key (Fields.optionalTexts key l) := by
  unfold Fields.optionalTexts
  split
  · exact .inr ⟨_, .array_map fun _ _ => .text _, rfl⟩
  · exact .inl rfl

/-! ## Regions and places -/

/-- A stored region has distinct keys, and its id, its kind and its cells under them. -/
theorem exists_fields_toJson (r : Region) :
    ∃ fields, r.toJson = .object fields ∧ HasDistinctKeys fields ∧
      (∀ member ∈ fields, Regular 1 member.2) ∧ Fields.value fields "id" = .text r.id ∧
      Fields.value fields "type" = .text r.kind.name ∧
      Fields.value fields "cells" = .array (r.cells.map fun c : Nat => .int c) := by
  have cells : Regular 1 (.array (r.cells.map fun c : Nat => .int c)) :=
    .array_map fun _ _ => .int _
  -- Each of the optional members is there or not, which makes eight forms of a region.
  rw [Region.toJson]
  rcases atMost_optionalText "dmNote" r.dmNote with note | ⟨_, noteRegular, note⟩ <;>
  rcases atMost_optionalTexts "defaultNPCSlugs" r.npcs with npcs | ⟨_, npcsRegular, npcs⟩ <;>
  rcases atMost_optionalTexts "shopInventory" r.inventory with goods | ⟨_, goodsRegular, goods⟩ <;>
  rw [note, npcs, goods] <;>
  exact ⟨_, rfl, by simp [HasDistinctKeys], by simp [*, Regular.text], rfl, rfl, rfl⟩

theorem regular_toJson (r : Region) : Regular 2 r.toJson := by
  obtain ⟨fields, spelled, distinct, inside, -⟩ := exists_fields_toJson r
  rw [spelled]
  exact .object distinct inside

theorem PointOfInterest.regular_toJson (p : PointOfInterest) : Regular 2 p.toJson := by
  have position : Regular 1 (.object [("x", .real p.x.toFloat), ("y", .real p.y.toFloat)]) :=
    .object (by simp [HasDistinctKeys]) (by simp [Regular.real])
  have acts : Regular 1 (.array (p.acts.map .int)) := .array_map fun _ _ => .int _
  have tags : Regular 1 (.array (p.tags.map .text)) := .array_map fun _ _ => .text _
  rw [PointOfInterest.toJson]
  rcases atMost_optionalTexts "defaultNPCSlugs" (some p.npcs) with npcs | ⟨_, npcsRegular, npcs⟩ <;>
  rw [npcs] <;>
  exact .object (by simp [HasDistinctKeys])
    (by simp [*, Regular.text, Regular.int, Regular.bool])

namespace Draft

/-! ## Documents -/

/-- The document that a draft becomes at a time. -/
def document (now : Int) (d : Draft) : Fields := d.fields ++ [(timeStampKey, .int now)]

/-- What is found in the store under a key is what the draft has there. -/
theorem value_readFields_payload (regular : Regular Json.maxDepth (d.stamped now))
    (writable : (d.stamped now).isWritable) :
    Fields.value (Json.readFields (d.row campaignId mapId mapType now).payload) key =
      (Fields.value (d.document now) key).sorted := by
  have read := Json.readFields_write regular writable
  cases regular with
  | object distinct _ =>
    exact (congrArg (Fields.value · key) read).trans (Json.value_sorted distinct)

/-- The store puts members in order, which does not matter for the length of a list. -/
theorem hasCompleteGrid_readFields_payload (regular : Regular Json.maxDepth (d.stamped now))
    (writable : (d.stamped now).isWritable) :
    Document.hasCompleteGrid (Json.readFields (d.row campaignId mapId mapType now).payload) =
      Document.hasCompleteGrid (d.document now) := by
  rw [Document.hasCompleteGrid, value_readFields_payload regular writable,
    value_readFields_payload regular writable, Document.hasCompleteGrid]
  cases Fields.value (d.document now) "tileData" with
  | array tiles =>
    cases Fields.value (d.document now) "regions" with
    | array regions => cases regions <;> simp
    | object fields => simp
    | _ => rfl
  | object fields => simp
  | _ => rfl

theorem pictureUrl?_readFields_payload (regular : Regular Json.maxDepth (d.stamped now))
    (writable : (d.stamped now).isWritable) :
    Document.pictureUrl? (Json.readFields (d.row campaignId mapId mapType now).payload) =
      Document.pictureUrl? (d.document now) := by
  rw [Document.pictureUrl?, value_readFields_payload regular writable, Document.pictureUrl?]
  cases Fields.value (d.document now) "backgroundImageUrl" with
  | array items => simp
  | object fields => simp
  | _ => rfl

/-! ## Battle maps -/

/-- The keys of the members that make up a grid. -/
def gridKeys : List String := ["tileData", "regions", "tileEncoding", "confidence"]

theorem grid?_eq_some_cases (h : grid? stored made = some grid) :
    (∃ document, stored = some document ∧ Document.hasCompleteGrid document ∧
      grid = storedGrid document) ∨
    (stored.any Document.hasCompleteGrid = false ∧ ∃ m, made = some m ∧ grid = newGrid m) := by
  unfold grid? at h
  split at h
  -- the stored grid is complete and is taken over
  · rename_i document complete
    obtain ⟨there, complete⟩ := Option.filter_eq_some_iff.mp complete
    exact .inl ⟨document, there, complete, (Option.some.inj h).symm⟩
  -- without a complete grid in the store, the new one is taken, if there is one
  · rename_i incomplete
    obtain ⟨m, made, rfl⟩ := Option.map_eq_some_iff.mp h
    refine .inr ⟨?_, m, made, rfl⟩
    cases stored with
    | none => rfl
    | some document => simpa [Option.filter_eq_none_iff] using incomplete

theorem regular_givenOr {default : String} (regular : Regular (depth + 1) (.object fields)) :
    Regular depth (givenOr fields key default) := by
  unfold givenOr
  split_ifs
  · exact regular.value
  · exact .text _

/-- A grid has the same four members wherever it comes from. -/
theorem exists_grid_eq (h : grid? stored made = some grid) :
    ∃ tiles regions encoding confidence : Json,
      grid = [("tileData", tiles), ("regions", regions), ("tileEncoding", encoding),
        ("confidence", confidence)] := by
  rcases grid?_eq_some_cases h with ⟨_, -, -, rfl⟩ | ⟨-, _, -, rfl⟩ <;> exact ⟨_, _, _, _, rfl⟩

theorem regular_grid (h : grid? stored made = some grid)
    (regular : ∀ document ∈ stored, Regular (depth + 4) (.object document)) :
    ∀ member ∈ grid, Regular (depth + 3) member.2 := by
  rcases grid?_eq_some_cases h with ⟨document, rfl, -, rfl⟩ | ⟨-, m, -, rfl⟩
  · have inside := regular document rfl
    simp [storedGrid, inside.value, regular_givenOr inside]
  · have tiles : Regular 1 (.array (m.grid.cells.map fun c : Nat => .int c)) :=
      .array_map fun _ _ => .int _
    have regions : Regular 3 (.array (m.regions.map Region.toJson)) :=
      .array_map fun r _ => regular_toJson r
    have tiles := tiles.mono (show 1 ≤ depth + 3 by omega)
    have regions := regions.mono (show 3 ≤ depth + 3 by omega)
    simp [newGrid, tiles, regions, Regular.text]

theorem regular_picture (url : Option String) :
    ∀ member ∈ picture url, Regular (depth + 3) member.2 := by
  rcases atMost_optionalText "backgroundImageUrl" url with empty | ⟨v, one, single⟩
  · simp [picture, empty]
  · simp [picture, single, one.mono (show 1 ≤ depth + 3 by omega)]

variable {spec : CombatSpec} {places : ExplorationSpec}

/-- A battle map's draft is a grid with the members that every battle map has, and the picture. -/
theorem combat?_eq_some (h : combat? campaignId spec stored made url = some d) :
    ∃ grid, grid? stored made = some grid ∧
      d.fields = common campaignId spec.id .combat spec.name
        ++ [("gridSize", .int gridSize), ("feetPerSquare", .int spec.feetPerSquare)]
        ++ grid ++ picture url := by
  obtain ⟨grid, given, rfl⟩ := Option.map_eq_some_iff.mp h
  exact ⟨grid, given, rfl⟩

theorem hasDistinctKeys_combat (h : combat? campaignId spec stored made url = some d) :
    HasDistinctKeys (d.document now) := by
  obtain ⟨grid, given, fields⟩ := combat?_eq_some h
  obtain ⟨_, _, _, _, rfl⟩ := exists_grid_eq given
  rw [document, fields, picture]
  rcases atMost_optionalText "backgroundImageUrl" url with empty | ⟨v, -, single⟩
  · simp [empty, HasDistinctKeys, common, timeStampKey]
  · simp [single, HasDistinctKeys, common, timeStampKey]

/-- A battle map's draft can be written and read back if the stored document can. -/
theorem regular_combat (h : combat? campaignId spec stored made url = some d)
    (regular : ∀ document ∈ stored, Regular (depth + 4) (.object document)) :
    Regular (depth + 4) (d.stamped now) := by
  refine .object (hasDistinctKeys_combat h) ?_
  obtain ⟨grid, given, fields⟩ := combat?_eq_some h
  rw [fields]
  simp only [List.forall_mem_append]
  refine ⟨⟨⟨?_, regular_grid given regular⟩, regular_picture url⟩, ?_⟩ <;>
  simp [common, Regular.text, Regular.int]

/-- The grid of a battle map's draft is the one that it was drafted with. -/
theorem value_document_combat (h : combat? campaignId spec stored made url = some d) :
    ∃ grid, grid? stored made = some grid ∧
      ∀ now, ∀ key ∈ gridKeys, Fields.value (d.document now) key = Fields.value grid key := by
  obtain ⟨grid, given, fields⟩ := combat?_eq_some h
  refine ⟨grid, given, fun now => ?_⟩
  obtain ⟨_, _, _, _, rfl⟩ := exists_grid_eq given
  rw [gridKeys, document, fields]
  simp only [List.forall_mem_cons]
  exact ⟨rfl, rfl, rfl, rfl, by simp⟩

theorem mapType_combat (h : combat? campaignId spec stored made url = some d) :
    Fields.value (d.document now) "mapType" = .text MapType.combat.name := by
  obtain ⟨grid, -, fields⟩ := combat?_eq_some h
  rw [document, fields]
  rfl

/-! ## Overviews -/

theorem hasDistinctKeys_exploration :
    HasDistinctKeys ((exploration campaignId places url).document now) := by
  rw [document, exploration, picture]
  rcases atMost_optionalText "backgroundImageUrl" url with empty | ⟨v, -, single⟩
  · simp [empty, HasDistinctKeys, common, timeStampKey]
  · simp [single, HasDistinctKeys, common, timeStampKey]

/-- An overview's draft can be written and read back. -/
theorem regular_exploration :
    Regular (depth + 4) ((exploration campaignId places url).stamped now) := by
  have points : Regular 3 (.array (places.points.map PointOfInterest.toJson)) :=
    .array_map fun p _ => p.regular_toJson
  refine .object hasDistinctKeys_exploration ?_
  rw [exploration]
  simp only [List.forall_mem_append]
  refine ⟨⟨?_, regular_picture url⟩, ?_⟩ <;>
  simp [common, points.mono (show 3 ≤ depth + 3 by omega), Regular.text, Regular.int]

theorem mapType_exploration :
    Fields.value ((exploration campaignId places url).document now) "mapType" =
      .text MapType.exploration.name := rfl

/-- An overview's draft has no tiles. -/
theorem tileData_exploration :
    Fields.value ((exploration campaignId places url).document now) "tileData" = .null := by
  rw [document, exploration, picture]
  rcases atMost_optionalText "backgroundImageUrl" url with empty | ⟨v, -, single⟩
  · rw [empty]
    rfl
  · rw [single]
    rfl

/-! ## Pictures -/

theorem value_picture {u : String} (filled : u ≠ "") :
    Fields.value (picture (some u)) "backgroundImageUrl" = .text u := by
  have single : picture (some u) = [("backgroundImageUrl", .text u)] :=
    if_neg (by simpa using filled)
  rw [single]
  rfl

/-- The address that is found among the members for a picture is the one that they were made of. -/
theorem eq_some_of_value_picture {u : String}
    (there : Fields.value (picture url) "backgroundImageUrl" = .text u) : url = some u := by
  cases url with
  | none => contradiction
  | some other =>
    by_cases empty : other = ""
    · subst empty
      contradiction
    · rw [value_picture empty, Json.text.injEq] at there
      rw [there]

/-- The address of a draft of a battle map is the one that it was drafted with, unless that is
empty. -/
theorem value_picture_combat (h : combat? campaignId spec stored made url = some d) :
    Fields.value (d.document now) "backgroundImageUrl" =
      Fields.value (picture url) "backgroundImageUrl" := by
  obtain ⟨grid, given, fields⟩ := combat?_eq_some h
  obtain ⟨_, _, _, _, rfl⟩ := exists_grid_eq given
  rw [document, fields, picture]
  rcases atMost_optionalText "backgroundImageUrl" url with empty | ⟨v, -, single⟩
  · rw [empty]
    rfl
  · rw [single]
    rfl

theorem picture_combat {u : String} (filled : u ≠ "")
    (h : combat? campaignId spec stored made (some u) = some d) :
    Fields.value (d.document now) "backgroundImageUrl" = .text u :=
  (value_picture_combat h).trans (value_picture filled)

/-- The address of an overview's draft is the one that it was drafted with, unless that is empty. -/
theorem value_picture_exploration :
    Fields.value ((exploration campaignId places url).document now) "backgroundImageUrl" =
      Fields.value (picture url) "backgroundImageUrl" := by
  rw [document, exploration, picture]
  rcases atMost_optionalText "backgroundImageUrl" url with empty | ⟨v, -, single⟩
  · rw [empty]
    rfl
  · rw [single]
    rfl

theorem picture_exploration {u : String} (filled : u ≠ "") :
    Fields.value ((exploration campaignId places (some u)).document now) "backgroundImageUrl" =
      .text u :=
  value_picture_exploration.trans (value_picture filled)

end Draft

end BattleMaps
