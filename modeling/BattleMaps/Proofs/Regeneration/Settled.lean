import BattleMaps.Proofs.Json.Agreement
import BattleMaps.Proofs.Regeneration.Endings
import BattleMaps.Proofs.Regeneration.Permanence

/-!
# Settled documents

A document is settled if the draft that a battle map would get from it says nothing new. Whatever a
call has just left in the store is settled as soon as it has a complete grid: the members that a
draft takes over come back from the store as they were put there, up to the order inside them, and
the defaults that were filled in count as given.

## Main definitions

* `Settled` — whether a document says all that would be drafted from it
* `Left` — what a draft leaves in the store, whether or not it has to be written

## Main results

* `Left.settled` — a complete grid that a draft leaves in the store is settled
* `Left.hasCompleteGrid`, `Left.pictureUrl?_eq` — what a draft leaves in the store
* `regenerateCombat_of_settled` — where nothing is missing, a settled document is left alone
-/

namespace BattleMaps

open Json (Regular)
open Fields (HasDistinctKeys)
open Store (Table)

variable {campaignId key url : String} {spec : CombatSpec} {stored : Option Fields}
  {made : Option BattleMap} {pictureUrl : Option String} {d : Draft} {document grid : Fields}
  {now : Int} {depth : Nat} {stamp v : Json}

namespace Draft

/-! ## Comparing a draft with what is stored -/

/-- A stored document that is a rearrangement of a stamped draft has as many members, each of which
says what the draft says. -/
theorem counterparts_of_rearranged (regular : Regular depth (d.stamped now))
    (same : Json.Rearranged (.object document) (d.stamped now)) :
    d.fields.length + 1 = document.length ∧
      ∀ m ∈ d.fields ++ [(timeStampKey, .int now)],
        ∃ w, Fields.get? document m.1 = some w ∧ m.2.agrees w := by
  have agree := regular.agrees_of_rearranged same.symm
  rw [stamped, Json.agrees, Bool.and_eq_true, beq_iff_eq, Json.agreesFields_iff] at agree
  refine ⟨?_, agree.2⟩
  rw [← agree.1, List.length_append, List.length_singleton]

/-- Such a document says nothing else than the draft. -/
theorem isUnchanged_of_rearranged (solid : d.isElusive = false)
    (regular : Regular depth (d.stamped now)) (distinct : HasDistinctKeys document)
    (same : Json.Rearranged (.object document) (d.stamped now)) : d.isUnchanged document := by
  obtain ⟨length, counterparts⟩ := counterparts_of_rearranged regular same
  rw [List.forall_mem_append, List.forall_mem_singleton] at counterparts
  have count : (Fields.erase document timeStampKey).length = d.fields.length := by
    -- The stamp has a counterpart, which is the one member that is left out.
    obtain ⟨w, found, -⟩ := counterparts.2
    have there : timeStampKey ∈ document.map (·.1) := by
      obtain ⟨_, _, split, -⟩ := List.lookup_eq_some_iff.mp found
      simp [split]
    have erased := Fields.length_erase_add_one distinct there
    omega
  have agree : ∀ m ∈ d.fields, agreesAt document m := by
    intro m found
    obtain ⟨w, there, same⟩ := counterparts.1 m found
    rwa [agreesAt, there]
  rw [isUnchanged, solid, count, beq_self_eq_true, List.all_eq_true.mpr agree]
  rfl

/-- What a draft that says nothing new has under a key is what is stored there. -/
theorem agrees_of_isUnchanged (same : d.isUnchanged document) (there : (key, v) ∈ d.fields) :
    v.agrees (Fields.value document key) := by
  rw [isUnchanged, Bool.and_eq_true, List.all_eq_true] at same
  have agree := same.2 _ there
  unfold agreesAt at agree
  split at agree
  · rename_i w found
    rwa [Fields.value, found, Option.getD_some]
  · contradiction

/-! ## Grids that are complete -/

theorem hasCompleteGrid_iff :
    Document.hasCompleteGrid document ↔ ∃ tiles regions,
      Fields.value document "tileData" = .array tiles ∧ tiles.length = cellCount ∧
      Fields.value document "regions" = .array regions ∧ regions ≠ [] := by
  unfold Document.hasCompleteGrid
  split
  · rename_i tiles regions foundTiles foundRegions
    simp [foundTiles, foundRegions]
  · rename_i other
    constructor
    · intro absent
      contradiction
    · rintro ⟨tiles, regions, foundTiles, -, foundRegions, -⟩
      exact (other tiles regions foundTiles foundRegions).elim

/-- Only the lengths of the two lists count for whether a grid is complete, so one that says the
same as a complete one is complete. -/
theorem hasCompleteGrid_of_agrees {tiles regions : List Json} (length : tiles.length = cellCount)
    (filled : regions ≠ [])
    (sameTiles : (Json.array tiles).agrees (Fields.value document "tileData"))
    (sameRegions : (Json.array regions).agrees (Fields.value document "regions")) :
    Document.hasCompleteGrid document := by
  obtain ⟨tiles', foundTiles, lengthTiles⟩ := Json.exists_eq_array_of_agrees sameTiles
  obtain ⟨regions', foundRegions, lengthRegions⟩ := Json.exists_eq_array_of_agrees sameRegions
  refine hasCompleteGrid_iff.mpr
    ⟨tiles', regions', foundTiles, lengthTiles ▸ length, foundRegions, ?_⟩
  rw [← List.length_pos_iff] at filled ⊢
  rwa [← lengthRegions]

/-- The grid of a draft is complete, if a complete one is stored or a new one with a region has been
made. -/
theorem exists_complete_of_grid? (h : grid? stored made = some grid)
    (complete : stored.any Document.hasCompleteGrid ∨
      ∃ m ∈ made, m.grid.cells.length = cellCount ∧ m.regions ≠ []) :
    ∃ tiles regions, ("tileData", .array tiles) ∈ grid ∧ tiles.length = cellCount ∧
      ("regions", .array regions) ∈ grid ∧ regions ≠ [] := by
  rcases grid?_eq_some_cases h with ⟨document, -, there, rfl⟩ | ⟨incomplete, m, rfl, rfl⟩
  · obtain ⟨tiles, regions, foundTiles, length, foundRegions, filled⟩ :=
      hasCompleteGrid_iff.mp there
    exact ⟨tiles, regions, by simp [storedGrid, foundTiles], length,
      by simp [storedGrid, foundRegions], filled⟩
  · obtain ⟨_, ⟨rfl⟩, length, filled⟩ := complete.resolve_left (by simp [incomplete])
    exact ⟨_, _, List.mem_cons_self .., by rwa [List.length_map],
      List.mem_cons_of_mem _ (List.mem_cons_self ..), by simpa using filled⟩

/-- What is taken over with a grid always counts as given: where it did not, a default was filled
in. -/
theorem isFilled_grid (h : grid? stored made = some grid) :
    (Fields.value grid "tileEncoding").isFilled ∧ (Fields.value grid "confidence").isFilled := by
  have given {document : Fields} {key default : String} (filled : default ≠ "") :
      (givenOr document key default).isFilled := by
    unfold givenOr
    split_ifs with there
    · exact there
    · simpa [Json.isFilled] using filled
  rcases grid?_eq_some_cases h with ⟨document, -, -, rfl⟩ | ⟨-, m, -, rfl⟩
  · exact ⟨given (by decide), given (by decide)⟩
  · constructor
    · change (Json.text m.grid.encoding.name).isFilled
      cases m.grid.encoding <;> rfl
    · change (Json.text m.confidence.name).isFilled
      cases m.confidence <;> rfl

/-! ## Pictures -/

theorem mem_picture_combat (h : combat? campaignId spec stored made (some url) = some d)
    (filled : url ≠ "") : ("backgroundImageUrl", .text url) ∈ d.fields := by
  obtain ⟨grid, -, fields⟩ := combat?_eq_some h
  rw [fields, picture, Fields.optionalText]
  simp [filled]

/-! ## Drafts of what is stored -/

/-- The draft that is made from what a draft has left in the store has the same members, with
everything inside them in order. -/
theorem exists_combat?_of_stored (h : combat? campaignId spec stored made pictureUrl = some d)
    (found : ∀ key, Fields.value document key = (Fields.value (d.document now) key).sorted)
    (complete : Document.hasCompleteGrid document) :
    ∃ d', combat? campaignId spec (some document) none pictureUrl = some d' ∧
      d'.isElusive = false ∧ d'.fields = d.fields.map fun m => (m.1, m.2.sorted) := by
  have takenOver : grid? (some document) none = some (storedGrid document) := by
    rw [grid?, Option.filter_some, if_pos complete]
  refine ⟨_, by rw [combat?, takenOver, Option.map_some], rfl, ?_⟩
  obtain ⟨grid, given, value⟩ := value_document_combat h
  obtain ⟨_, given', fields⟩ := combat?_eq_some h
  obtain rfl := Option.some.inj (given.symm.trans given')
  obtain ⟨encodingFilled, confidenceFilled⟩ := isFilled_grid given
  obtain ⟨tiles, regions, encoding, confidence, rfl⟩ := exists_grid_eq given
  -- Every member of the grid comes back, and no default takes the place of one.
  have same : ∀ key ∈ gridKeys, Fields.value document key = (Fields.value _ key).sorted :=
    fun key ofGrid => (found key).trans (congrArg Json.sorted (value now key ofGrid))
  simp only [gridKeys, List.forall_mem_cons] at same
  obtain ⟨sameTiles, sameRegions, sameEncoding, sameConfidence, -⟩ := same
  have gridFields : storedGrid document = [("tileData", tiles.sorted), ("regions", regions.sorted),
      ("tileEncoding", encoding.sorted), ("confidence", confidence.sorted)] := by
    rw [storedGrid, givenOr, givenOr, sameTiles, sameRegions, sameEncoding, sameConfidence,
      Json.isFilled_sorted, Json.isFilled_sorted, if_pos encodingFilled, if_pos confidenceFilled]
    rfl
  have pictureFields : (picture pictureUrl).map (fun m => (m.1, m.2.sorted)) =
      picture pictureUrl := by
    rw [picture]
    cases pictureUrl with
    | none => rfl
    | some u =>
      rw [Fields.optionalText]
      split_ifs <;> rfl
  rw [fields, gridFields, List.map_append, List.map_append, pictureFields]
  rfl

end Draft

/-! ## Settled documents -/

/-- Whether a document says all that would be drafted from it for a battle map. -/
def Settled (campaignId : String) (spec : CombatSpec) (document : Fields) : Prop :=
  ∃ d, Draft.combat? campaignId spec (some document) none (Document.pictureUrl? document) = some d ∧
    d.isUnchanged document

/-- What a draft leaves in the store: what is there already, if the draft says nothing new, and
otherwise what is read back of it. -/
inductive Left (stored : Option Fields) (d : Draft) : Fields → Prop where
  | unchanged {document : Fields} (there : stored = some document)
      (same : d.isUnchanged document) : Left stored d document
  | written {now : Int} (writable : (d.stamped now).isWritable) :
      Left stored d (Json.readFields (d.stamped now).write)

theorem value_readFields_write (regular : Regular Json.maxDepth (d.stamped now))
    (writable : (d.stamped now).isWritable) :
    Fields.value (Json.readFields (d.stamped now).write) key =
      (Fields.value (d.document now) key).sorted :=
  @Draft.value_readFields_payload key "" "" .combat now d regular writable

/-- A complete grid that a draft leaves in the store is settled, if the draft and the store are of
one mind about the picture. -/
theorem Left.settled (h : Left stored d document)
    (drafted : Draft.combat? campaignId spec stored made pictureUrl = some d)
    (regular : ∀ document ∈ stored, Regular Json.maxDepth (.object document))
    (complete : Document.hasCompleteGrid document)
    (picture : Document.pictureUrl? document = pictureUrl) : Settled campaignId spec document := by
  rw [Settled, picture]
  cases h with
  | unchanged there same =>
    -- The stored grid is complete, so the draft has taken it over and is made once more.
    subst there
    refine ⟨d, ?_, same⟩
    rw [← drafted, Draft.combat?, Draft.combat?, Draft.grid?, Draft.grid?, Option.filter_some,
      if_pos complete]
  | @written now writable =>
    have regular : Regular Json.maxDepth (d.stamped now) := Draft.regular_combat drafted regular
    have read := Json.readFields_write regular writable
    obtain ⟨d', drafted', solid, fields⟩ := Draft.exists_combat?_of_stored drafted
      (fun key => value_readFields_write regular writable) complete
    -- What is read back are the members of the draft and the time stamp, in order of their keys.
    have perm : (Json.readFields (d.stamped now).write).Perm
        (d'.fields ++ [(timeStampKey, .int now)]) := by
      have inOrder : (Json.sortByKey (d.document now)).Perm (d.document now) := Json.sortByKey_perm
      have mapped := inOrder.map fun m => (m.1, m.2.sorted)
      rw [Draft.document, List.map_append] at mapped
      rw [Draft.stamped, read, fields]
      exact mapped
    have inside : Regular Json.maxDepth (.object (Json.readFields (d.stamped now).write)) :=
      Json.regular_readFields _
    have regular' : Regular Json.maxDepth (d'.stamped now) :=
      Draft.regular_combat drafted' fun _ there => Option.some.inj there ▸ inside
    exact ⟨d', drafted', Draft.isUnchanged_of_rearranged solid regular' inside.hasDistinctKeys
      (.of_perm inside.hasDistinctKeys perm)⟩

/-! ## What a draft leaves behind -/

/-- What is left in the store says what the draft says. -/
theorem Left.agrees (h : Left stored d document)
    (regular : ∀ now, Regular Json.maxDepth (d.stamped now)) :
    ∀ member ∈ d.fields, member.2.agrees (Fields.value document member.1) := by
  intro member there
  cases h with
  | unchanged _ same => exact Draft.agrees_of_isUnchanged same there
  | @written now writable =>
    obtain ⟨-, counterparts⟩ := Draft.counterparts_of_rearranged (regular now)
      (Json.rearranged_readFields_write (regular now) writable)
    obtain ⟨w, found, agree⟩ := counterparts member (List.mem_append_left _ there)
    have found : Fields.get? (Json.readFields (d.stamped now).write) member.1 = some w := found
    rwa [Fields.value, found, Option.getD_some]

/-- A picture that is found in the store afterwards is the one of the draft. -/
theorem Left.pictureUrl_eq_of_value (h : Left stored d document)
    (regular : ∀ now, Regular Json.maxDepth (d.stamped now))
    (drawn : ∀ now, Fields.value (d.document now) "backgroundImageUrl" =
      Fields.value (Draft.picture pictureUrl) "backgroundImageUrl")
    (kept : KeepsPicture stored pictureUrl)
    (there : Document.pictureUrl? document = some url) : pictureUrl = some url := by
  cases h with
  | unchanged found same =>
    refine kept url ?_
    rw [found, Option.bind_some, there]
  | @written now writable =>
    have value := (pictureUrl?_eq_some_iff.mp there).1
    rw [value_readFields_write (regular now) writable, drawn] at value
    exact Draft.eq_some_of_value_picture (Json.eq_text_of_sorted value)

theorem Left.pictureUrl_eq (h : Left stored d document)
    (drafted : Draft.combat? campaignId spec stored made pictureUrl = some d)
    (regular : ∀ document ∈ stored, Regular Json.maxDepth (.object document))
    (kept : KeepsPicture stored pictureUrl)
    (there : Document.pictureUrl? document = some url) : pictureUrl = some url :=
  h.pictureUrl_eq_of_value (fun _ => Draft.regular_combat drafted regular)
    (fun _ => Draft.value_picture_combat drafted) kept there

/-- If the address of a draft is not blank, it is found in the store afterwards. -/
theorem Left.pictureUrl?_eq (h : Left stored d document)
    (drafted : Draft.combat? campaignId spec stored made pictureUrl = some d)
    (regular : ∀ document ∈ stored, Regular Json.maxDepth (.object document))
    (kept : KeepsPicture stored pictureUrl)
    (filled : ∀ u ∈ pictureUrl, (Text.nonBlank? u).isSome) :
    Document.pictureUrl? document = pictureUrl := by
  cases pictureUrl with
  | none =>
    -- A picture that is found would be the one of the draft, which has none.
    by_contra other
    obtain ⟨u, there⟩ := Option.ne_none_iff_exists'.mp other
    have given := h.pictureUrl_eq drafted regular kept there
    contradiction
  | some u =>
    have filled := filled u rfl
    have member := Draft.mem_picture_combat drafted (ne_empty_of_nonBlank? filled)
    have agree := h.agrees (fun _ => Draft.regular_combat drafted regular) _ member
    exact pictureUrl?_eq_some_iff.mpr ⟨Json.eq_text_of_agrees agree, filled⟩

/-- The grid that is found in the store afterwards is complete, if a complete one was there or a new
one with a region has been made. -/
theorem Left.hasCompleteGrid (h : Left stored d document)
    (drafted : Draft.combat? campaignId spec stored made pictureUrl = some d)
    (regular : ∀ document ∈ stored, Regular Json.maxDepth (.object document))
    (complete : stored.any Document.hasCompleteGrid ∨
      ∃ m ∈ made, m.grid.cells.length = cellCount ∧ m.regions ≠ []) :
    Document.hasCompleteGrid document := by
  obtain ⟨grid, given, fields⟩ := Draft.combat?_eq_some drafted
  obtain ⟨tiles, regions, hasTiles, length, hasRegions, filled⟩ :=
    Draft.exists_complete_of_grid? given complete
  -- What is found afterwards says what the draft says.
  have agree := h.agrees fun _ => Draft.regular_combat drafted regular
  have inDraft {member : String × Json} (found : member ∈ grid) : member ∈ d.fields := by
    rw [fields]
    exact List.mem_append_left _ (List.mem_append_right _ found)
  exact Draft.hasCompleteGrid_of_agrees length filled (agree _ (inDraft hasTiles))
    (agree _ (inDraft hasRegions))

/-- A call that ends without a failure leaves a document under the id of its map. -/
theorem Ending.exists_left {κ : Type} {mapId : String} {mapType : MapType}
    {drafts : Draft → Prop} {before : Table} {r : Regenerated κ} {o : Outcome κ}
    (h : Ending campaignId mapId mapType (before.document? (documentId campaignId mapId)) drafts
      before r)
    (ok : r.outcome = .ok o) (status : o.status ≠ .failed) :
    ∃ d document, drafts d ∧ r.table.document? (documentId campaignId mapId) = some document ∧
      Left (before.document? (documentId campaignId mapId)) d document := by
  cases h with
  | brokenDown b => contradiction
  | failed failed =>
    obtain rfl := Except.ok.inj ok
    exact absurd failed.status_eq status
  | unchanged _ _ drafted found same => exact ⟨_, _, drafted, found, .unchanged found same⟩
  | stored _ _ drafted writable put =>
    exact ⟨_, _, drafted, Table.document?_of_put_eq_ok put, .written writable⟩

/-! ## Calls on settled documents -/

variable {σ κ : Type} [Amount κ] {services : Services σ κ} {config : Config κ} {table : Table}

/-- Nothing is to be done for a complete grid that has a picture, or that cannot get one. -/
theorem plan_eq_reuse {paints : Bool} (complete : Document.hasCompleteGrid document)
    (picture : paints → (Document.pictureUrl? document).isSome) :
    CombatAction.plan (.of (some document)) paints = .reuse := by
  rw [Artifacts.of, complete]
  cases there : (Document.pictureUrl? document).isSome with
  | true => rfl
  | false =>
    cases paints with
    | false => rfl
    | true => simp [picture rfl] at there

/-- What making comes to where there is nothing to do. -/
def Made.idle (url : Option String) : Made κ :=
  { Made.start .generated CombatAction.reuse.name url with status := .reused }

theorem makeCombat_reuse : makeCombat services config campaignId spec pictureUrl .reuse =
    pure (.ok (.idle pictureUrl)) := rfl

/-- Where nothing is to be done, a settled document is left alone, and no service is asked. -/
theorem regenerateCombat_of_settled (config : Config κ)
    (found : table.document? (documentId campaignId spec.id) = some document)
    (settled : Settled campaignId spec document)
    (reuse : CombatAction.plan (.of (some document)) services.paintsBattleMaps = .reuse) :
    ∃ o : Outcome κ, o.status = .reused ∧ o.written = false ∧ o.completionCost = 0 ∧
      o.imageCost = 0 ∧
      regenerateCombat services config campaignId spec table = pure ⟨.ok o, table⟩ := by
  obtain ⟨d, drafted, same⟩ := settled
  refine ⟨{ (Made.idle (Document.pictureUrl? document)).outcome spec.id .combat with
    confidence := d.fields.value "confidence", pictureUrl := Document.pictureUrl? document },
    rfl, rfl, rfl, rfl, ?_⟩
  rw [regenerateCombat]
  simp only [found, reuse, Option.bind_some, makeCombat_reuse, Work.pure_bind]
  simp only [Made.idle, Made.start, Option.isSome_none, Bool.false_eq_true, if_false, drafted,
    conclude, Option.any_some, same, if_true]

end BattleMaps
