import BattleMaps.Proofs.Regeneration.FirstAnswer

/-!
# What is kept for good

A picture that is stored is never asked for again and keeps its address, and a complete grid is
never made again and stays as it is, whatever is called afterwards and whatever the services
answer. What is kept is kept by each call, because what a call stores it has taken over from the
store; along a history it is kept by induction.

## Main definitions

* `KeptOr` — whether a value is kept, or a default has taken the place of a missing one
* `GridKept` — whether a grid is kept

## Main results

* `history_keeps_picture` — a stored picture is permanent
* `history_keeps_grid` — a complete grid is permanent
-/

namespace BattleMaps

open Json (Same)
open Store (Table)

variable {σ κ : Type} {config : Config κ} {campaignId id url : String} {spec : Spec} {d : Draft}
  {document later : Fields} {calls : List (Call σ κ)} {table before after : Table} {now : Int}

/-! ## Pictures -/

theorem pictureUrl?_eq_some_iff :
    Document.pictureUrl? document = some url ↔
      Fields.value document "backgroundImageUrl" = .text url ∧ (Text.nonBlank? url).isSome := by
  unfold Document.pictureUrl?
  split
  · rename_i u found
    rw [found, Json.text.injEq]
    split_ifs with filled
    · rw [Option.some.injEq]
      exact ⟨fun same => ⟨same, same ▸ filled⟩, And.left⟩
    · refine ⟨fun absent => (nomatch absent), ?_⟩
      rintro ⟨rfl, filled'⟩
      exact absurd filled' filled
  · rename_i other
    exact ⟨fun absent => (nomatch absent), fun ⟨same, _⟩ => absurd same (other url)⟩

theorem ne_empty_of_nonBlank? (filled : (Text.nonBlank? url).isSome) : url ≠ "" := by
  rintro rfl
  revert filled
  decide

/-- A draft takes over the picture that is stored. -/
theorem Drafted.value_picture (h : Drafted config campaignId (some document) spec d)
    (there : Document.pictureUrl? document = some url) :
    Fields.value (d.document now) "backgroundImageUrl" = .text url := by
  have filled := ne_empty_of_nonBlank? (pictureUrl?_eq_some_iff.mp there).2
  cases h with
  | combat _ kept drafted =>
    obtain rfl := kept url there
    exact Draft.picture_combat filled drafted
  | exploration kept =>
    obtain rfl := kept url there
    exact Draft.picture_exploration filled

/-- Whether a picture is stored under an id. -/
def HoldsPicture (id url : String) (table : Table) : Prop :=
  ∃ document, table.document? id = some document ∧ Document.pictureUrl? document = some url

/-- One call keeps a stored picture, and asks for no other one. -/
theorem Step.keeps_picture {s : Step σ κ} (h : s.Follows before)
    (holds : HoldsPicture id url before) :
    HoldsPicture id url s.table ∧
      (s.call.documentId = id → ∀ e ∈ s.events, ¬ e.isPictorial) := by
  obtain ⟨document, found, there⟩ := holds
  constructor
  · rcases h.table with same | ⟨d, later, drafted, saved⟩
    · exact ⟨document, same ▸ found, there⟩
    · by_cases same : s.call.documentId = id
      · subst same
        rw [found] at drafted
        obtain ⟨now, value⟩ := saved.value_eq
        refine ⟨later, saved.found, pictureUrl?_eq_some_iff.mpr ⟨?_, ?_⟩⟩
        · rw [value, drafted.value_picture there]
          rfl
        · exact (pictureUrl?_eq_some_iff.mp there).2
      · exact ⟨document, (saved.others id same).trans found, there⟩
  -- the picture is there before the call, so no event of the call is about a new one
  · rintro rfl e caused
    refine (h.needed e caused).1 ?_
    rw [hasPicture_of, found, Option.bind_some, there]
    rfl

variable [Amount κ]

/-- Once a stored document names a picture, it names the same one after every later call, on the
same map or on others, and no later call on the document asks for a new picture or keeps one. -/
theorem history_keeps_picture (stored : table.document? id = some document)
    (there : Fields.value document "backgroundImageUrl" = .text url)
    (filled : (Text.nonBlank? url).isSome) (calls : List (Call σ κ)) (world : σ) :
    ∀ s ∈ history calls table world,
      (∃ later, s.table.document? id = some later ∧
        Fields.value later "backgroundImageUrl" = .text url) ∧
      (s.call.documentId = id → ∀ e ∈ s.events, ¬ e.isPictorial) := by
  have start : HoldsPicture id url table :=
    ⟨document, stored, pictureUrl?_eq_some_iff.mpr ⟨there, filled⟩⟩
  intro s made
  obtain ⟨-, before, follows, holds⟩ := exists_follows_of_mem_history
    (fun s _ _ follows holds => (s.keeps_picture follows holds).1) start world s made
  obtain ⟨⟨later, found, kept⟩, silent⟩ := s.keeps_picture follows holds
  exact ⟨⟨later, found, (pictureUrl?_eq_some_iff.mp kept).1⟩, silent⟩

/-- A call for an overview under the name of the inn, with services that paint and keep pictures. -/
def overviewCall : Call Unit Float where
  services :=
    { constantServices "" with
      paint := some fun _ world => (.ok ⟨⟨[], "image/webp"⟩, 0⟩, world)
      blobs := some ⟨fun _ world => (.ok "other.webp", world), fun _ world => (.ok [], world)⟩ }
  config := .standard
  campaignId := "isle"
  spec := .exploration { id := "inn", name := "The isle" }

theorem innPicture_kept :
    ∃ document, Table.document? [innRow (some "inn.webp")] "isle_inn" = some document ∧
      Fields.value document "backgroundImageUrl" = .text "inn.webp" ∧
      ∀ s ∈ history [overviewCall, innCall] [innRow (some "inn.webp")] (),
        (∃ later, s.table.document? "isle_inn" = some later ∧
          Fields.value later "backgroundImageUrl" = .text "inn.webp") ∧
        (s.call.documentId = "isle_inn" → ∀ e ∈ s.events, ¬ e.isPictorial) := by
  have there : Fields.value (Json.readFields (innRow (some "inn.webp")).payload)
      "backgroundImageUrl" = .text "inn.webp" :=
    Draft.value_readFields_payload (by decide +kernel) (by decide +kernel)
  exact ⟨_, document?_innRow _, there,
    history_keeps_picture (document?_innRow (some "inn.webp")) there (by decide) _ ()⟩

omit [Amount κ]

/-! ## Grids -/

/-- Whether a value is kept, or the default has taken the place of one that did not count as
given. -/
def KeptOr (default : String) (v w : Json) : Prop :=
  w.Same v ∨ v.isFilled = false ∧ w = .text default

theorem KeptOr.trans {default : String} {u v w : Json} (h : KeptOr default u v)
    (h' : KeptOr default v w) : KeptOr default u w := by
  -- Once a default has been filled in it counts as given, so it is kept from then on.
  rcases h with same | ⟨missing, rfl⟩
  · rcases h' with same' | ⟨missing', rfl⟩
    · exact .inl (same'.trans same)
    · exact .inr ⟨same.isFilled_eq ▸ missing', rfl⟩
  · rcases h' with same' | ⟨-, rfl⟩
    · exact .inr ⟨missing, Json.eq_text_of_sorted same'⟩
    · exact .inr ⟨missing, rfl⟩

/-- Whether the grid of a document is kept by a later one: the tiles and the regions, and the
encoding and the confidence if they counted as given. -/
structure GridKept (document later : Fields) : Prop where
  tiles : (Fields.value later "tileData").Same (Fields.value document "tileData")
  regions : (Fields.value later "regions").Same (Fields.value document "regions")
  encoding : KeptOr Encoding.legacy.name (Fields.value document "tileEncoding")
    (Fields.value later "tileEncoding")
  confidence : KeptOr Confidence.medium.name (Fields.value document "confidence")
    (Fields.value later "confidence")

theorem GridKept.refl (document : Fields) : GridKept document document :=
  ⟨.refl _, .refl _, .inl (.refl _), .inl (.refl _)⟩

theorem GridKept.trans {last : Fields} (h : GridKept document later) (h' : GridKept later last) :
    GridKept document last where
  tiles := h'.tiles.trans h.tiles
  regions := h'.regions.trans h.regions
  encoding := h.encoding.trans h'.encoding
  confidence := h.confidence.trans h'.confidence

/-- Whether a grid is complete does not depend on the order of members. -/
theorem GridKept.hasCompleteGrid (h : GridKept document later)
    (complete : Document.hasCompleteGrid document) : Document.hasCompleteGrid later := by
  unfold Document.hasCompleteGrid at complete ⊢
  split at complete
  · rename_i tiles regions foundTiles foundRegions
    have sameTiles := h.tiles
    have sameRegions := h.regions
    rw [foundTiles, Same, Json.sorted_array] at sameTiles
    rw [foundRegions, Same, Json.sorted_array] at sameRegions
    -- Only the lengths of the two lists matter, and ordering members changes no length.
    obtain ⟨tiles', keptTiles, mapTiles⟩ := Json.eq_array_of_sorted sameTiles
    obtain ⟨regions', keptRegions, mapRegions⟩ := Json.eq_array_of_sorted sameRegions
    have lengthTiles := congrArg List.length mapTiles
    have lengthRegions := congrArg List.length mapRegions
    rw [List.length_map, List.length_map] at lengthTiles lengthRegions
    simp only [keptTiles, keptRegions, Bool.and_eq_true, beq_iff_eq, Bool.not_eq_true',
      List.isEmpty_eq_false_iff, ← List.length_pos_iff] at complete ⊢
    omega
  · contradiction

/-- What is stored in place of a value is kept, unless the value did not count as given. -/
theorem keptOr_givenOr {key default : String}
    (regular : Json.Regular Json.maxDepth (.object document)) :
    KeptOr default (Fields.value document key) (Draft.givenOr document key default).sorted := by
  unfold Draft.givenOr
  split_ifs with given
  · exact .inl regular.same_sorted_value
  · exact .inr ⟨by simpa using given, rfl⟩

/-- A draft of a battle map takes over the grid that is stored, if it is complete. -/
theorem Drafted.value_grid {spec : CombatSpec} {key : String}
    (h : Drafted config campaignId (some document) (.combat spec) d)
    (complete : Document.hasCompleteGrid document) (ofGrid : key ∈ Draft.gridKeys) :
    Fields.value (d.document now) key = Fields.value (Draft.storedGrid document) key := by
  cases h with
  | combat _ _ drafted =>
    obtain ⟨grid, given, value⟩ := Draft.value_document_combat drafted
    rw [value now key ofGrid]
    -- A new grid would be taken only if the stored one were not complete.
    rcases Draft.grid?_eq_some_cases given with ⟨_, ⟨⟩, -, rfl⟩ | ⟨incomplete, -⟩
    · rfl
    · rw [Option.any_some, complete] at incomplete
      contradiction

/-- Storing a draft of a battle map keeps a complete grid. -/
theorem Saved.keeps_grid {mapType : MapType} {spec : CombatSpec}
    (saved : Saved id mapType d before after later)
    (drafted : Drafted config campaignId (some document) (.combat spec) d)
    (regular : Json.Regular Json.maxDepth (.object document))
    (complete : Document.hasCompleteGrid document) : GridKept document later := by
  obtain ⟨now, value⟩ := saved.value_eq
  have taken : ∀ key ∈ Draft.gridKeys, Fields.value later key =
      (Fields.value (Draft.storedGrid document) key).sorted := fun key ofGrid =>
    (value key).trans (congrArg Json.sorted (drafted.value_grid complete ofGrid))
  simp only [Draft.gridKeys, List.forall_mem_cons] at taken
  obtain ⟨tiles, regions, encoding, confidence, -⟩ := taken
  constructor
  · rw [tiles]
    exact regular.same_sorted_value
  · rw [regions]
    exact regular.same_sorted_value
  · rw [encoding]
    exact keptOr_givenOr regular
  · rw [confidence]
    exact keptOr_givenOr regular

/-- Whether a complete grid is stored under an id. -/
def HoldsGrid (id : String) (table : Table) : Prop :=
  ∃ document, table.document? id = some document ∧ Document.hasCompleteGrid document

/-- Whether the document under an id is still there later, with its grid. -/
def KeepsGrid (id : String) (before after : Table) : Prop :=
  ∀ document, before.document? id = some document →
    ∃ later, after.document? id = some later ∧ GridKept document later

theorem KeepsGrid.trans {last : Table} (h : KeepsGrid id before after)
    (h' : KeepsGrid id after last) : KeepsGrid id before last := by
  intro document found
  obtain ⟨later, foundLater, kept⟩ := h document found
  obtain ⟨latest, foundLatest, kept'⟩ := h' later foundLater
  exact ⟨latest, foundLatest, kept.trans kept'⟩

theorem exists_eq_combat (h : spec.mapType = .combat) : ∃ c, spec = .combat c := by
  cases spec with
  | combat c => exact ⟨c, rfl⟩
  | exploration => contradiction

/-- One call keeps a complete grid, unless it is for an overview under the same id. -/
theorem Step.keeps_grid {s : Step σ κ} (h : s.Follows before) (holds : HoldsGrid id before)
    (combat : s.call.documentId = id → s.call.spec.mapType = .combat) :
    HoldsGrid id s.table ∧ KeepsGrid id before s.table := by
  obtain ⟨document, found, complete⟩ := holds
  -- The document under the id is unique, so it is enough to follow the one at hand.
  suffices ∃ later, s.table.document? id = some later ∧ GridKept document later by
    obtain ⟨later, foundLater, kept⟩ := this
    refine ⟨⟨later, foundLater, kept.hasCompleteGrid complete⟩, fun other found' => ?_⟩
    obtain rfl := Option.some.inj (found.symm.trans found')
    exact ⟨later, foundLater, kept⟩
  rcases h.table with same | ⟨d, later, drafted, saved⟩
  · exact ⟨document, same ▸ found, .refl document⟩
  · by_cases same : s.call.documentId = id
    · obtain ⟨spec, ofSpec⟩ := exists_eq_combat (combat same)
      subst same
      rw [found, ofSpec] at drafted
      exact ⟨later, saved.found,
        saved.keeps_grid drafted (regular_of_document?_eq_some found) complete⟩
    · exact ⟨document, (saved.others id same).trans found, .refl document⟩

/-- A call on a complete grid asks no model. -/
theorem Step.not_isCompletion {s : Step σ κ} (h : s.Follows before)
    (holds : HoldsGrid s.call.documentId before) : ∀ e ∈ s.events, ¬ e.isCompletion := by
  obtain ⟨document, found, complete⟩ := holds
  intro e caused
  refine (h.needed e caused).2 ?_
  rw [hasGrid_of, found]
  exact complete

variable [Amount κ]

/-- Once a stored document has a complete grid, it stays in the store and keeps its grid from each
state to every later one, whatever is called on this map or on others, as long as the calls on
this one are for a battle map; and no such call asks a model. -/
theorem history_keeps_grid (stored : table.document? id = some document)
    (complete : Document.hasCompleteGrid document)
    (combat : ∀ call ∈ calls, call.documentId = id → call.spec.mapType = .combat) (world : σ) :
    (states calls table world).Pairwise (KeepsGrid id) ∧
      ∀ s ∈ history calls table world, s.call.documentId = id →
        ∀ e ∈ s.events, ¬ e.isCompletion := by
  have start : HoldsGrid id table := ⟨document, stored, complete⟩
  constructor
  · exact pairwise_states (fun kept kept' => kept.trans kept')
      (fun s there _ follows holds => s.keeps_grid follows holds (combat _ there)) start world
  · intro s made
    obtain ⟨-, before, follows, holds⟩ := exists_follows_of_mem_history
      (fun s there _ follows holds => (s.keeps_grid follows holds (combat _ there)).1) start world s
      made
    rintro rfl
    exact s.not_isCompletion follows holds

theorem innGrid_kept :
    ∃ document, Table.document? [innRow none] "isle_inn" = some document ∧
      Document.hasCompleteGrid document ∧
      (states [innCall, innCall] [innRow none] ()).Pairwise (KeepsGrid "isle_inn") ∧
      ∀ s ∈ history [innCall, innCall] [innRow none] (), s.call.documentId = "isle_inn" →
        ∀ e ∈ s.events, ¬ e.isCompletion := by
  have value : ∀ key, Fields.value (Json.readFields (innRow none).payload) key =
      (Fields.value ((innDraft none).document 0) key).sorted := fun _ =>
    Draft.value_readFields_payload (by decide +kernel) (by decide +kernel)
  -- Whether the grid is complete is computed on the draft, which is what the text is read as.
  have complete : Document.hasCompleteGrid (Json.readFields (innRow none).payload) := by
    rw [Document.hasCompleteGrid, value, value]
    decide +kernel
  have combat : ∀ call ∈ [innCall, innCall], call.documentId = "isle_inn" →
      call.spec.mapType = .combat := by
    simp [innCall, Spec.mapType]
  exact ⟨_, document?_innRow none, complete,
    history_keeps_grid (document?_innRow none) complete combat ()⟩

end BattleMaps
