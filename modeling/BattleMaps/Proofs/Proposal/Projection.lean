import BattleMaps.Proofs.Json.Members
import BattleMaps.Proofs.Proposal.Acceptance

/-!
# Proposing a map again

A map can be written as a proposal: its tiles as a flat list, its regions as they are stored, its
confidence by name. If the map was accepted before, it is accepted again and stays as it is. Every
reading of a field is a projection: texts are trimmed and not blank where a blank one would be left
out, kinds and confidences go by their own names, and cells are distinct cells of the grid. What a
region says in the store is all that it says; a note that is empty is not stored, and counts as no
note when it is read.

## Main definitions

* `Region.Fixed` — whether the texts of a region are what trimming leaves
* `Region.reread` — what is left of a region when it is read back
* `BattleMap.proposal` — a map as a proposal

## Main results

* `region_fields` — a region is read back from what is stored of it
* `regionsFrom_map_toJson` — and so are all regions of a map
* `acceptValue_proposal` — an accepted map is accepted again, and stays as it is
-/

namespace BattleMaps

/-! ## Readings -/

section Readings

variable {s : String} {l : List String} {encoding : Encoding} {tile : Nat}

theorem Json.plainIfFilled_text : (Json.text s).plainIfFilled = s := by
  by_cases empty : s = "" <;> simp [Json.plainIfFilled, Json.isFilled, Json.plain, empty]

/-- A text that is trimmed and not blank is read as it stands. -/
theorem Json.trimmed?_text (h : Text.nonBlank? s = some s) : (Json.text s).trimmed? = some s := by
  rw [Json.trimmed?, Json.plainIfFilled_text, h]

/-- Texts that are trimmed and not blank are read as they stand, unless there are none. -/
theorem Json.textList?_texts (h : ∀ s ∈ l, Text.nonBlank? s = some s) :
    (Json.array (l.map .text)).textList? = (some l).filter (· ≠ []) := by
  have kept : (l.map Json.text).filterMap Json.nonBlankText? = l := by
    induction l with
    | nil => rfl
    | cons s rest ih =>
      obtain ⟨here, others⟩ := List.forall_mem_cons.mp h
      rw [List.map_cons, List.filterMap_cons, Json.nonBlankText?, here, ih others]
  rw [Json.textList?, kept]
  cases l <;> rfl

theorem RegionKind.ofValue_name (kind : RegionKind) : ofValue (.text kind.name) = kind := by
  cases kind <;> decide

theorem Confidence.ofValue_name (level : Confidence) : ofValue (.text level.name) = level := by
  cases level <;> decide

/-- A tile of the encoding is itself. -/
theorem Encoding.tileOf_int (h : tile ≤ encoding.maxTile) : encoding.tileOf (.int tile) = tile := by
  simp only [Encoding.tileOf, Json.wholeNumber?]
  rw [if_pos (by omega), Int.toNat_natCast]

end Readings

/-! ## Regions -/

namespace Region

/-- Whether the texts of a region are what trimming leaves: a name and the members of lists are not
blank, while a note may be empty. -/
structure Fixed (r : Region) : Prop where
  name : Text.nonBlank? r.name = some r.name
  note : ∀ s ∈ r.dmNote, Text.trim s = s
  npcs : ∀ l ∈ r.npcs, ∀ s ∈ l, Text.nonBlank? s = some s
  inventory : ∀ l ∈ r.inventory, ∀ s ∈ l, Text.nonBlank? s = some s

/-- What is left of a region when it is read back: an empty note counts as none. -/
def reread (r : Region) : Region :=
  { r with
    dmNote := r.dmNote.filter (· ≠ "")
    npcs := r.npcs.filter (· ≠ [])
    inventory := r.inventory.filter (· ≠ []) }

/-- What is left out when a region is read back was not stored. -/
theorem toJson_reread (r : Region) : r.reread.toJson = r.toJson := by
  simp only [toJson, reread, Fields.optionalText_filter, Fields.optionalTexts_filter]

/-- The members of a region as it is stored. -/
def fields (r : Region) : Fields :=
  [("id", .text r.id), ("name", .text r.name), ("type", .text r.kind.name),
   ("cells", .array (r.cells.map fun c : Nat => .int c))]
  ++ Fields.optionalText "dmNote" r.dmNote ++ Fields.optionalTexts "defaultNPCSlugs" r.npcs
  ++ Fields.optionalTexts "shopInventory" r.inventory

theorem toJson_eq (r : Region) : r.toJson = .object r.fields := rfl

theorem value_dmNote (r : Region) :
    r.fields.value "dmNote" = ((r.dmNote.filter (· ≠ "")).map .text).getD .null := by
  simp [Fields.value, fields, Fields.get?_append, Fields.get?_cons, Fields.get?_optionalText,
    Fields.get?_optionalTexts]

theorem value_npcs (r : Region) :
    r.fields.value "defaultNPCSlugs" =
      ((r.npcs.filter (· ≠ [])).map fun l => .array (l.map .text)).getD .null := by
  simp [Fields.value, fields, Fields.get?_append, Fields.get?_cons, Fields.get?_optionalText,
    Fields.get?_optionalTexts]

theorem value_inventory (r : Region) :
    r.fields.value "shopInventory" =
      ((r.inventory.filter (· ≠ [])).map fun l => .array (l.map .text)).getD .null := by
  simp [Fields.value, fields, Fields.get?_append, Fields.get?_cons, Fields.get?_optionalText,
    Fields.get?_optionalTexts]

end Region

namespace Proposal

variable {spec : CombatSpec} {encoding : Encoding} {floor : Float} {value : Json} {m : BattleMap}
  {r : Region} {cells : List Nat} {index : Nat} {id : String} {fields : Fields}

theorem note_of_filter {s : Option String} (trimmed : ∀ t ∈ s, Text.trim t = t) :
    note (((s.filter (· ≠ "")).map .text).getD .null) = s.filter (· ≠ "") := by
  cases s with
  | none => rfl
  | some t =>
    by_cases empty : t = ""
    · simp [Option.filter_some, empty, note, Json.isFilled]
    · simp [Option.filter_some, empty, note, Json.isFilled, Json.plain, trimmed t rfl]

theorem textList?_of_filter {l : Option (List String)}
    (fixed : ∀ texts ∈ l, ∀ s ∈ texts, Text.nonBlank? s = some s) :
    Json.textList? (((l.filter (· ≠ [])).map fun l => .array (l.map .text)).getD .null) =
      l.filter (· ≠ []) := by
  rcases l with _ | _ | ⟨s, l⟩
  · rfl
  · rfl
  · have kept : (some (s :: l)).filter (· ≠ []) = some (s :: l) := by simp [Option.filter_some]
    rw [kept]
    exact (Json.textList?_texts (fixed _ rfl)).trans kept

theorem distinct_eq_self {seen : List Nat} (distinctCells : cells.Nodup)
    (fresh : ∀ c ∈ cells, c ∉ seen) : distinct seen cells = cells := by
  induction cells generalizing seen with
  | nil => rfl
  | cons c rest ih =>
    obtain ⟨once, others⟩ := List.nodup_cons.mp distinctCells
    obtain ⟨here, later⟩ := List.forall_mem_cons.mp fresh
    rw [distinct, if_neg (by rwa [List.contains_iff_mem]), ih others]
    intro d member seen
    rcases List.mem_cons.mp seen with rfl | seen
    · exact once member
    · exact later d member seen

/-- Cells that are distinct cells of the grid are read as they stand. -/
theorem listedCells_map_int (distinctCells : cells.Nodup) (onGrid : ∀ c ∈ cells, c < cellCount) :
    listedCells (cells.map fun c : Nat => .int c) = cells := by
  have whole : (cells.map fun c : Nat => Json.int c).filterMap Json.wholeNumber? =
      cells.map fun c : Nat => (c : Int) := by
    rw [List.filterMap_map, ← List.filterMap_eq_map]
    rfl
  have kept : ((cells.map fun c : Nat => (c : Int)).map fun n =>
      (clamp n 0 (cellCount - 1)).toNat) = cells := by
    rw [List.map_map]
    refine (List.map_congr_left fun c member => ?_).trans (List.map_id _)
    have := onGrid c member
    simp only [Function.comp_apply, clamp, id_eq, cellCount, gridSize] at *
    omega
  rw [listedCells, whole, kept, distinct_eq_self distinctCells]
  exact fun _ _ => List.not_mem_nil

theorem entry?_toJson (r : Region) :
    entry? r.toJson = some (r.fields, .listed (r.cells.map fun c : Nat => .int c)) := by
  rw [r.toJson_eq]
  rfl

theorem region_fields (fixed : r.Fixed) : region index r.id r.cells r.fields = r.reread := by
  have name : r.fields.value "name" = .text r.name := rfl
  have kind : r.fields.value "type" = .text r.kind.name := rfl
  rw [region, name, kind, r.value_dmNote, r.value_npcs,
    r.value_inventory, Json.trimmed?_text fixed.name,
    RegionKind.ofValue_name, note_of_filter fixed.note, textList?_of_filter fixed.npcs,
    textList?_of_filter fixed.inventory]
  rfl

theorem nonBlank?_of_mem_textList? {l : List String} (h : value.textList? = some l) :
    ∀ s ∈ l, Text.nonBlank? s = some s := by
  intro s member
  unfold Json.textList? at h
  split at h
  · split at h
    · contradiction
    · obtain rfl := Option.some.inj h
      obtain ⟨item, -, read⟩ := List.mem_filterMap.mp member
      cases item with
      | text t =>
        rw [Json.nonBlankText?] at read
        exact Text.nonBlank?_of_eq_some read
      | _ => contradiction
  · contradiction

theorem fixed_region : (region index id cells fields).Fixed where
  name := by
    rw [region]
    dsimp only
    cases given : (Fields.value fields "name").trimmed? with
    | none => exact nonBlank?_defaultName index
    | some name => exact Text.nonBlank?_of_eq_some given
  note := by
    intro s given
    rw [region, note] at given
    split_ifs at given
    · obtain rfl := Option.some.inj given
      exact Text.trim_trim
    · contradiction
  npcs := fun _ => nonBlank?_of_mem_textList?
  inventory := fun _ => nonBlank?_of_mem_textList?

/-- Every region that is found is made of some entry. -/
theorem regionsFrom_fixed {seen : List String} {entries : List Json} {found : List Region}
    (h : regionsFrom index seen entries = .ok found) : ∀ r ∈ found, r.Fixed := by
  induction entries generalizing index seen found with
  | nil =>
    obtain rfl := Except.ok.inj h
    simp
  | cons value rest ih =>
    rw [regionsFrom] at h
    split at h
    · exact ih h
    · dsimp only at h
      split_ifs at h
      obtain ⟨cells, -, h⟩ := bind_eq_ok.mp h
      obtain ⟨others, read, h⟩ := bind_eq_ok.mp h
      obtain rfl := Except.ok.inj h
      exact List.forall_mem_cons.mpr ⟨fixed_region, ih read⟩

theorem regions_fixed {found : List Region} (h : regions value = .ok found) :
    ∀ r ∈ found, r.Fixed := by
  unfold regions at h
  split at h
  · exact regionsFrom_fixed h
  · obtain rfl := Except.ok.inj h
    simp

/-- The regions of a map are read back from what is stored of them, one after the other. -/
theorem regionsFrom_map_toJson {seen : List String} {rs : List Region}
    (sound : ∀ r ∈ rs, r.Sound) (fixed : ∀ r ∈ rs, r.Fixed)
    (distinctIds : (rs.map (·.id)).Nodup) (fresh : ∀ r ∈ rs, r.id ∉ seen) :
    regionsFrom index seen (rs.map Region.toJson) = .ok (rs.map Region.reread) := by
  induction rs generalizing index seen with
  | nil => rfl
  | cons r rest ih =>
    rw [List.forall_mem_cons] at sound fixed fresh
    rw [List.map_cons, List.nodup_cons] at distinctIds
    have others : regionsFrom (index + 1) (r.id :: seen) (rest.map Region.toJson) =
        .ok (rest.map Region.reread) := by
      refine ih sound.2 fixed.2 distinctIds.2 fun other member known => ?_
      rcases List.mem_cons.mp known with same | known
      · exact distinctIds.1 (List.mem_map.mpr ⟨other, member, same⟩)
      · exact fresh.2 other member known
    have id : regionId index r.fields = r.id := by
      have given : r.fields.value "id" = .text r.id := rfl
      rw [regionId, given, Json.trimmed?_text
        (Text.nonBlank?_eq_some_iff.mpr ⟨sound.1.trim_id, sound.1.id_ne_empty⟩)]
      rfl
    have cells : Extent.cells r.id (.listed (r.cells.map fun c : Nat => .int c)) = .ok r.cells := by
      rw [Extent.cells, listedCells_map_int sound.1.nodup_cells sound.1.cell_lt]
    rw [List.map_cons, regionsFrom, entry?_toJson]
    dsimp only
    rw [id, if_neg (by rw [List.contains_iff_mem]; exact fresh.1), cells, others,
      List.map_cons, ← region_fields fixed.1]
    rfl

end Proposal

/-! ## The whole -/

/-- A map as a proposal: a flat list of tiles, the regions as they are stored, and the confidence
by its name. -/
def BattleMap.proposal (m : BattleMap) : Json :=
  .object
    [("tileData", .array (m.grid.cells.map fun tile : Nat => .int tile)),
     ("regions", .array (m.regions.map Region.toJson)),
     ("confidence", .text m.confidence.name)]

/-- Tiles of the encoding are read as they stand. -/
theorem Grid.ofValues_map_int {grid : Grid}
    (inside : ∀ tile ∈ grid.cells, tile ≤ grid.encoding.maxTile) :
    Grid.ofValues grid.encoding (grid.cells.map fun tile : Nat => .int tile) = grid := by
  rw [Grid.ofValues, List.map_map]
  congr
  refine (List.map_congr_left fun tile member => ?_).trans (List.map_id _)
  exact Encoding.tileOf_int (inside tile member)

namespace Proposal

variable {spec : CombatSpec} {encoding : Encoding} {floor : Float} {value : Json} {m : BattleMap}
  {proposal : Fields}

/-- Which regions are missing depends on the ids that are there. -/
theorem checkRequired_congr {required : List RequiredRegion} {found others : List Region}
    (same : found.map (·.id) = others.map (·.id)) :
    checkRequired required found = checkRequired required others := by
  rw [checkRequired, checkRequired, same]

theorem acceptValue_proposal_of_accept (h : accept spec encoding floor proposal = .ok m) :
    acceptValue spec encoding floor m.proposal =
      .ok { m with regions := m.regions.map Region.reread } := by
  have sound := sound_of_accept_eq_ok h
  obtain ⟨values, -, -, roomy, read, complete, -⟩ := accept_eq_ok_iff.mp h
  let values := m.grid.cells.map fun tile : Nat => Json.int tile
  have full : values.length = cellCount := by rw [List.length_map, sound.length_cells]
  have grid : m.grid = Grid.ofValues encoding values := by
    have inside := sound.tile_le
    rw [← sound.encoding_eq] at inside ⊢
    exact (Grid.ofValues_map_int inside).symm
  have regionsRead : regionsFrom 0 [] (m.regions.map Region.toJson) =
      .ok (m.regions.map Region.reread) :=
    regionsFrom_map_toJson sound.region (regions_fixed read) sound.nodup_ids
      fun _ _ => List.not_mem_nil
  have present : checkRequired spec.regions (m.regions.map Region.reread) = .ok () := by
    rw [← complete]
    exact checkRequired_congr (by rw [List.map_map]; rfl)
  exact accept_eq_ok_iff.mpr ⟨values, tiles_eq.trans (if_pos full), grid, roomy, regionsRead,
    present, (Confidence.ofValue_name m.confidence).symm⟩

/-- What becomes of an accepted proposal is accepted again, with the same grid, the same regions in
the same order as they are stored, and the same confidence. -/
theorem acceptValue_proposal (h : acceptValue spec encoding floor value = .ok m) :
    ∃ again, acceptValue spec encoding floor m.proposal = .ok again ∧ again.grid = m.grid ∧
      again.regions.map Region.toJson = m.regions.map Region.toJson ∧
      again.confidence = m.confidence := by
  cases value with
  | object proposal =>
    refine ⟨_, acceptValue_proposal_of_accept h, rfl, ?_, rfl⟩
    rw [List.map_map]
    exact List.map_congr_left fun r _ => r.toJson_reread
  | _ => contradiction

/-- The map of the inn is accepted again. -/
theorem innProposal_again :
    ∃ m again, acceptValue innSpec .extended 0.3 innProposal = .ok m ∧
      acceptValue innSpec .extended 0.3 m.proposal = .ok again ∧
      again.grid = m.grid ∧ again.regions.map Region.toJson = m.regions.map Region.toJson ∧
      again.confidence = m.confidence := by
  have accepted : (acceptValue innSpec .extended 0.3 innProposal).isOk := by decide +kernel
  obtain ⟨m, h⟩ := exists_eq_ok accepted
  obtain ⟨again, same⟩ := acceptValue_proposal h
  exact ⟨m, again, h, same⟩

end Proposal

end BattleMaps
