import BattleMaps.Proofs.Regeneration.Merging

/-!
# What a status tells of a map

The status of an outcome is set before the work and corrected where the work comes to something
else, and whether the document is written is decided only afterwards. Nevertheless a battle map that
is reported as generated is written with a grid or a picture that was not stored before. There is
one exception: a map without a region never counts as complete, so it is made again, and the same
grid may come of it. A map that is reported as reused keeps its grid, and its picture if the address
is one.

Nothing is said here of a picture that has been painted for a stored grid and has come to no
address.

## Main definitions

* `Made.Reports` — what a status says of the making
* `SameGrid` — whether two documents say the same of the grid
* `HasNewGrid`, `HasNewPicture` — whether a document has what was not stored before

## Main results

* `makeCombat_reports` — the status of a making
* `Left.hasNewGrid_or`, `Reported.painted` — what is new in the document that is left
* `regenerate_reports` — what the status of an outcome tells
* `statuses_mislead` — a grid that is made again, and a blank address that is dropped
-/

namespace BattleMaps

open Json (Regular)
open Store (Table)
open Work (Yields Traces)

variable {σ κ : Type} {services : Services σ κ} {config : Config κ} {spec : CombatSpec}
  {campaignId mapId url : String} {made : Made κ} {events : List (Event κ)} {later : Fields}
  {event : Event κ → Prop} {stored : Option Fields} {complete : Bool} {picture : Option String}

/-! ## The status of a making -/

/-- Whether making has failed or come to a grid. -/
def Made.GridOrFailed (made : Made κ) : Prop :=
  made.status = .failed ∨ made.status = .generated ∧ made.grid.isSome

/-- What the status says of a making, given whether a complete grid is stored, and which picture. -/
inductive Made.Reports (complete : Bool) (picture : Option String) (made : Made κ)
    (events : List (Event κ)) : Prop where
  | failed (status_eq : made.status = .failed)
  -- A grid has been made where none is complete.
  | gridMade (status_eq : made.status = .generated) (lacking : complete = false)
      (grid : made.grid.isSome)
  -- A picture has been painted for a complete grid that had none.
  | painted (status_eq : made.status = .generated) (there : complete) (unseen : picture = none)
  | reused (status_eq : made.status = .reused) (there : complete) (unkept : keptUrl events = none)

/-- Whether all that was made, if anything, is what its status says. -/
def ReportedResult (complete : Bool) (picture : Option String)
    (result : Except Breakdown (Made κ)) (events : List (Event κ)) : Prop :=
  ∀ made, result = .ok made → made.Reports complete picture events

theorem reportedResult_ok (h : made.Reports complete picture events) :
    ReportedResult complete picture (.ok made) events := by
  rintro _ ⟨⟩
  exact h

theorem Made.GridOrFailed.reports (h : made.GridOrFailed) (lacking : complete = false) :
    made.Reports complete picture events :=
  h.elim .failed fun ⟨status, grid⟩ => .gridMade status lacking grid

section Making

variable [Amount κ]

theorem layOut_gridOrFailed (start : made.status = .generated) :
    (layOut services config spec made).Yields event Made.GridOrFailed := by
  refine .bind .any fun answer _ => ?_
  cases answer with
  | ok generated => exact .pure (.inr ⟨start, rfl⟩)
  | error e => exact .pure (.inl rfl)

theorem fallBack_gridOrFailed {setback : Setback κ} (start : made.status = .generated) :
    (fallBack services config spec made setback).Yields event Made.GridOrFailed :=
  layOut_gridOrFailed start

theorem readPicture_gridOrFailed {picture : Picture} (start : made.status = .generated) :
    (readPicture services config spec picture made).Yields event Made.GridOrFailed := by
  unfold readPicture
  split_ifs
  · refine .bind .any fun answer _ => ?_
    cases answer with
    | ok generated => exact .pure (.inr ⟨start, rfl⟩)
    | error e => exact fallBack_gridOrFailed start
  · exact fallBack_gridOrFailed start

theorem readStored_gridOrFailed (start : made.status = .generated) :
    (readStored services config spec made).Yields event Made.GridOrFailed := by
  unfold readStored
  split
  · refine .bind .any fun answer _ => ?_
    cases answer with
    | ok bytes => exact readPicture_gridOrFailed start
    | error fault => exact fallBack_gridOrFailed start
  · exact fallBack_gridOrFailed start

omit [Amount κ] in
/-- Keeping a picture changes neither the status nor the grid. -/
theorem keepFor_status {picture : Picture} :
    (keepFor services config campaignId mapId picture made).Yields event fun result =>
      ∀ read, result = .ok read → read.status = made.status ∧ read.grid = made.grid := by
  refine .bind .any fun answer _ => ?_
  cases answer with
  | ok url =>
    refine .pure ?_
    rintro _ ⟨⟩
    exact ⟨rfl, rfl⟩
  | error fault => exact .pure fun _ absent => nomatch absent

theorem paintAndRead_gridOrFailed (start : made.status = .generated) :
    (paintAndRead services config campaignId spec made).Yields event fun result =>
      ∀ read, result = .ok read → read.GridOrFailed := by
  refine paint_yields (fun _ absent => nomatch absent) fun _ answer _ => ?_
  cases answer with
  | error fault =>
    refine .bind (fallBack_gridOrFailed start) fun read settled => .pure ?_
    rintro _ ⟨⟩
    exact settled
  | ok painting =>
    have paid : (made.payPicture painting.cost).status = .generated := start
    refine .bind (readPicture_gridOrFailed paid) fun read settled => ?_
    split_ifs
    · refine .pure ?_
      rintro _ ⟨⟩
      exact settled
    · refine keepFor_status.mono fun result kept read' ok => ?_
      obtain ⟨status, grid⟩ := kept read' ok
      rwa [Made.GridOrFailed, status, grid]

theorem attachPicture_reports (start : made.status = .generated) (there : complete) :
    (attachPicture services config campaignId spec made).Traces (ReportedResult complete none) := by
  refine paint_traces (fun _ absent => nomatch absent) fun request answer => ?_
  cases answer with
  | error fault => exact .pure (reportedResult_ok (.reused rfl there rfl))
  | ok painting =>
    have paid : (made.payPicture painting.cost).status = .generated := start
    have kept : (keepFor services config campaignId spec.id painting.picture
        (made.payPicture painting.cost)).Yields (fun _ => True) _ := keepFor_status
    refine kept.traces.mono fun result events same made' ok => ?_
    exact .painted ((same (fun _ _ => trivial) made' ok).1.trans paid) there rfl

/-- Whatever is planned for a battle map, its status says what the making has come to. -/
theorem makeCombat_reports (paints : Bool) :
    (makeCombat services config campaignId spec (stored.bind Document.pictureUrl?)
        (.plan (.of stored) paints)).Traces
      (ReportedResult (stored.any Document.hasCompleteGrid)
        (stored.bind Document.pictureUrl?)) := by
  have planned := CombatAction.isPlanned_of stored paints
  generalize CombatAction.plan (.of stored) paints = action at planned ⊢
  generalize stored.bind Document.pictureUrl? = url at planned ⊢
  generalize stored.any Document.hasCompleteGrid = complete at planned ⊢
  -- What makes a grid is planned only where none is complete.
  have fresh {work : Work σ κ (Made κ)} (lacking : complete = false)
      (settles : work.Yields (fun _ => True) Made.GridOrFailed) :
      (work >>= fun made => pure (.ok made)).Traces (ReportedResult complete url) :=
    .bind_pure settles.traces fun made events settled =>
      ⟨_, rfl, reportedResult_ok ((settled fun _ _ => trivial).reports lacking)⟩
  cases planned with
  | reuse grid => exact .pure (reportedResult_ok (.reused rfl grid rfl))
  | layOut _ bare => exact fresh bare (layOut_gridOrFailed rfl)
  | readStored _ bare => exact fresh bare (readStored_gridOrFailed rfl)
  | attachPicture _ grid unseen =>
    obtain rfl := Option.not_isSome_iff_eq_none.mp unseen
    exact attachPicture_reports rfl grid
  | paintAndRead _ bare =>
    have settles : (makeCombat services config campaignId spec url .paintAndRead).Yields
        (fun _ => True) fun result => ∀ read, result = .ok read → read.GridOrFailed :=
      paintAndRead_gridOrFailed rfl
    exact settles.traces.mono fun result events settled made ok =>
      (settled (fun _ _ => trivial) made ok).reports bare

end Making

/-! ## What is new -/

/-- Whether two documents say the same of the grid. -/
structure SameGrid (before later : Fields) : Prop where
  tiles : (Fields.value later "tileData").agrees (Fields.value before "tileData")
  regions : (Fields.value later "regions").agrees (Fields.value before "regions")

theorem SameGrid.refl {document : Fields} (regular : Regular Json.maxDepth (.object document)) :
    SameGrid document document where
  tiles := regular.value.agrees_of_rearranged (.refl _)
  regions := regular.value.agrees_of_rearranged (.refl _)

theorem SameGrid.hasCompleteGrid {before : Fields} (h : SameGrid before later)
    (complete : Document.hasCompleteGrid later) : Document.hasCompleteGrid before := by
  obtain ⟨tiles, regions, foundTiles, length, foundRegions, filled⟩ :=
    Draft.hasCompleteGrid_iff.mp complete
  exact Draft.hasCompleteGrid_of_agrees length filled (foundTiles ▸ h.tiles)
    (foundRegions ▸ h.regions)

/-- Whether a document has a grid, and one that was not stored before. -/
structure HasNewGrid (stored : Option Fields) (later : Fields) : Prop where
  grid : ∃ tiles regions, Fields.value later "tileData" = .array tiles ∧ tiles.length = cellCount ∧
    Fields.value later "regions" = .array regions
  isNew : ∀ before ∈ stored, ¬ SameGrid before later

/-- Whether a document has an address of a picture, and one that was not stored before. -/
def HasNewPicture (stored : Option Fields) (later : Fields) : Prop :=
  ∃ url, Document.pictureUrl? later = some url ∧
    ∀ before ∈ stored, Fields.value before "backgroundImageUrl" ≠ .text url

/-- What says the same as a text, or as no text, is that one. -/
theorem eq_of_rel_text {text : Option String} {v : Option Json}
    (h : Option.Rel (fun v w : Json => v.agrees w) (text.map .text) v) : v = text.map .text := by
  cases text with
  | none =>
    cases h
    rfl
  | some s =>
    cases h with
    | some agree => rw [Json.eq_text_of_agrees agree, Option.map_some]

section Left

variable {d : Draft} {m : BattleMap} {grid : Option BattleMap} {pictureUrl : Option String}

/-- What is left by a draft with a fresh grid has a grid of that size. -/
theorem Left.exists_grid (h : Left stored d later)
    (drafted : Draft.combat? campaignId spec stored (some m) pictureUrl = some d)
    (regular : ∀ document ∈ stored, Regular Json.maxDepth (.object document))
    (lacking : stored.any Document.hasCompleteGrid = false) :
    ∃ tiles regions, Fields.value later "tileData" = .array tiles ∧
      tiles.length = m.grid.cells.length ∧ Fields.value later "regions" = .array regions := by
  obtain ⟨grid, given, fields⟩ := Draft.combat?_eq_some drafted
  rcases Draft.grid?_eq_some_cases given with ⟨_, rfl, complete, -⟩ | ⟨-, m', same, rfl⟩
  · rw [Option.any_some, complete] at lacking
    contradiction
  · obtain rfl := Option.some.inj same
    have agree := h.agrees fun _ => Draft.regular_combat drafted regular
    have tiles := agree ("tileData", .array (m.grid.cells.map fun c : Nat => .int c))
      (by simp [fields, Draft.newGrid])
    have regions := agree ("regions", .array (m.regions.map Region.toJson))
      (by simp [fields, Draft.newGrid])
    obtain ⟨tiles', foundTiles, length⟩ := Json.exists_eq_array_of_agrees tiles
    obtain ⟨regions', foundRegions, -⟩ := Json.exists_eq_array_of_agrees regions
    rw [List.length_map] at length
    exact ⟨tiles', regions', foundTiles, length.symm, foundRegions⟩

/-- A fresh grid is a new one, unless it is one without regions and has been stored already. -/
theorem Left.hasNewGrid_or (h : Left stored d later)
    (drafted : Draft.combat? campaignId spec stored (some m) pictureUrl = some d)
    (regular : ∀ document ∈ stored, Regular Json.maxDepth (.object document))
    (lacking : stored.any Document.hasCompleteGrid = false)
    (length : m.grid.cells.length = cellCount) :
    HasNewGrid stored later ∨ m.regions = [] ∧ ∃ before ∈ stored, SameGrid before later := by
  by_cases same : ∃ before ∈ stored, SameGrid before later
  · refine .inr ⟨?_, same⟩
    by_contra regions
    -- With a region the grid that is left is complete, and so is the one that says the same.
    have complete := h.hasCompleteGrid drafted regular (.inr ⟨m, rfl, length, regions⟩)
    obtain ⟨before, rfl, same⟩ := same
    rw [Option.any_some, same.hasCompleteGrid complete] at lacking
    contradiction
  · obtain ⟨tiles, regions, foundTiles, size, foundRegions⟩ := h.exists_grid drafted regular lacking
    exact .inl ⟨⟨tiles, regions, foundTiles, size.trans length, foundRegions⟩,
      fun before there found => same ⟨before, there, found⟩⟩

/-- The address that is left is that of the draft, if it is not empty. -/
theorem Left.get?_picture (h : Left stored d later)
    (drafted : Draft.combat? campaignId spec stored grid pictureUrl = some d)
    (regular : ∀ document ∈ stored, Regular Json.maxDepth (.object document)) :
    Fields.get? later "backgroundImageUrl" = (pictureUrl.filter (· ≠ "")).map .text := by
  have stamped (now : Int) : Regular Json.maxDepth (d.stamped now) :=
    Draft.regular_combat drafted regular
  have told : Says d.fields.get? later := by
    cases h with
    | unchanged _ same =>
      exact Draft.says_of_isUnchanged (Draft.hasDistinctKeys_combat drafted) same
    | written writable => exact (Draft.says_readFields (stamped _) writable).1
  have rel := told "backgroundImageUrl" (by decide)
  have merged : d.fields.get? "backgroundImageUrl" = (pictureUrl.filter (· ≠ "")).map .text :=
    get?_combat drafted
  rw [merged] at rel
  exact eq_of_rel_text rel

end Left

/-! ## What an outcome tells -/

section Outcomes

variable {table : Table} {world : σ} {o : Outcome κ} {id : String} {d : Draft}

/-- What is known of a call for a battle map that has ended without a failure: what was made, the
draft of it, and the document that is left. -/
structure Reported (config : Config κ) (campaignId : String) (spec : CombatSpec)
    (stored : Option Fields) (o : Outcome κ) (events : List (Event κ)) (later : Fields) (made : Made κ)
    (d : Draft) : Prop where
  status_eq : o.status = made.status
  reports : made.Reports (stored.any Document.hasCompleteGrid) (stored.bind Document.pictureUrl?)
    events
  merges : made.Merges config spec (stored.bind Document.pictureUrl?) events
  sound : SoundGrid config spec made.grid
  drafted : Draft.combat? campaignId spec stored made.grid made.url = some d
  left : Left stored d later
  -- Only what is written is another document than before.
  unwritten : o.written = false → stored = some later

/-- A grid that has been made is written as a new one, unless it has no region and is stored
already. -/
theorem Reported.gridMade
    (h : Reported config campaignId spec (table.document? id) o events later made d)
    (lacking : (table.document? id).any Document.hasCompleteGrid = false)
    (grid : made.grid.isSome) :
    o.written = true ∧ HasNewGrid (table.document? id) later ∨
      ∃ m, freshMap config spec events = some m ∧ m.regions = [] ∧
        ∃ before ∈ table.document? id, SameGrid before later := by
  obtain ⟨m, isMade⟩ := Option.isSome_iff_exists.mp grid
  have drafted := h.drafted
  rw [isMade] at drafted
  obtain ⟨encoding, sound⟩ := h.sound m isMade
  rcases h.left.hasNewGrid_or drafted regular_of_mem_document? lacking sound.length_cells with
    new | ⟨bare, same⟩
  · refine .inl ⟨?_, new⟩
    by_contra unwritten
    have found := h.unwritten (by simpa using unwritten)
    exact new.isNew later found (.refl (regular_of_mem_document? later found))
  · exact .inr ⟨m, h.merges.grid_eq.symm.trans isMade, bare, same⟩

/-- A picture that has been kept under an address is written as a new one. -/
theorem Reported.painted
    (h : Reported config campaignId spec (table.document? id) o events later made d)
    (unseen : (table.document? id).bind Document.pictureUrl? = none)
    (kept : keptUrl events = some url) (filled : (Text.nonBlank? url).isSome) :
    o.written = true ∧ HasNewPicture (table.document? id) later := by
  have address : made.url = some url := by rw [h.merges.url_eq, unseen, Option.none_or, kept]
  have there : Document.pictureUrl? later = some url := by
    rw [← address]
    refine h.left.pictureUrl?_eq h.drafted regular_of_mem_document? ?_ ?_
    · rw [KeepsPicture, unseen]
      exact nofun
    · rw [address]
      rintro _ ⟨⟩
      exact filled
  have new : ∀ before ∈ table.document? id,
      Fields.value before "backgroundImageUrl" ≠ .text url := by
    intro before found same
    rw [found, Option.bind_some, pictureUrl?_eq_some_iff.mpr ⟨same, filled⟩] at unseen
    contradiction
  refine ⟨?_, url, there, new⟩
  by_contra unwritten
  have found := h.unwritten (by simpa using unwritten)
  exact new later found (pictureUrl?_eq_some_iff.mp there).1

/-- The picture of a map that is reused is the stored one. -/
theorem Reported.reused
    (h : Reported config campaignId spec (table.document? id) o events later made d)
    (unkept : keptUrl events = none) :
    Fields.get? later "backgroundImageUrl" =
      ((table.document? id).bind Document.pictureUrl?).map .text := by
  rw [h.left.get?_picture h.drafted regular_of_mem_document?, h.merges.url_eq, unkept,
    Option.or_none]
  cases there : (table.document? id).bind Document.pictureUrl? with
  | none => rfl
  | some url =>
    have nonempty := ne_empty_of_nonBlank? (filled_of_stored there)
    rw [Option.filter_some, if_pos (by simpa using nonempty)]

variable [Amount κ]

/-- What is promised of the making of a battle map, all at once. -/
theorem makeCombat_promises (paints : Bool) :
    (makeCombat services config campaignId spec (stored.bind Document.pictureUrl?)
        (.plan (.of stored) paints)).Traces fun result events =>
      ReportedResult (stored.any Document.hasCompleteGrid) (stored.bind Document.pictureUrl?) result
        events ∧
      MergedResult config spec (stored.bind Document.pictureUrl?) result events ∧
      SoundResult config spec result ∧ HonestResult result := by
  intro world
  have honest : (makeCombat services config campaignId spec (stored.bind Document.pictureUrl?)
      (.plan (.of stored) paints)).Yields (fun _ => True) HonestResult := makeCombat_honest _
  have kept : (makeCombat services config campaignId spec (stored.bind Document.pictureUrl?)
      (.plan (.of stored) paints)).Ensures _ _ := makeCombat_ensures _ paints
  exact ⟨makeCombat_reports paints world, makeCombat_merges paints world,
    fun made ok => ((kept world).2 made ok).1, honest world fun _ _ => trivial⟩

/-- A call for a battle map that ends without a failure reports what it has made and left. -/
theorem exists_reported
    (ended : ((regenerateCombat services config campaignId spec table).run world).result.outcome =
      .ok o)
    (fine : o.status ≠ .failed) :
    ∃ later made d,
      ((regenerateCombat services config campaignId spec table).run
        world).result.table.document? (documentId campaignId spec.id) = some later ∧
      Reported config campaignId spec (table.document? (documentId campaignId spec.id)) o
        ((regenerateCombat services config campaignId spec table).run world).events later made
          d := by
  obtain ⟨answer, ⟨reports, merges, sound, honest⟩, delivery⟩ :=
    regenerateCombat_delivers (makeCombat_promises services.paintsBattleMaps) world
  generalize ((regenerateCombat services config campaignId spec table).run world).result = r
    at ended delivery ⊢
  cases delivery with
  | brokenDown b => contradiction
  | @failed made error given =>
    obtain rfl := Except.ok.inj ended
    have failed := (honest made rfl).failed_iff.mpr (by rw [given, Option.isSome_some])
    exact absurd failed fine
  | undrafted made b => contradiction
  | @concluded made d r silent drafted conclusion =>
    cases conclusion with
    | @unchanged document found same =>
      obtain rfl := Except.ok.inj ended
      exact ⟨document, made, d, found, rfl, reports made rfl, merges made rfl, sound made rfl,
        drafted, .unchanged found same, fun _ => found⟩
    | @stored now after writable put =>
      obtain rfl := Except.ok.inj ended
      exact ⟨_, made, d, Table.document?_of_put_eq_ok put, rfl, reports made rfl, merges made rfl,
        sound made rfl, drafted, .written writable, nofun⟩
    | refused b => contradiction

/-- A complete grid that is stored is there after a call as it was before. -/
theorem exists_gridKept (services : Services σ κ) (config : Config κ) (world : σ) {before : Fields}
    (stored : storedFor campaignId (.combat spec) table = some before)
    (complete : Document.hasCompleteGrid before) :
    ∃ later, storedFor campaignId (.combat spec)
        ((regenerate services config campaignId (.combat spec) table).run world).result.table =
          some later ∧ GridKept before later := by
  let call : Call σ κ := ⟨services, config, campaignId, .combat spec⟩
  have follows : Step.Follows ⟨call, _, _⟩ table := call.make_follows world
  obtain ⟨-, keeps⟩ := Step.keeps_grid follows ⟨before, stored, complete⟩ fun _ => rfl
  exact keeps before stored

/-- What the status of an outcome for a battle map tells. A map that is reported as generated has
been written with a grid or a picture that was not stored before, or it has no region and its grid
was stored already; nothing is said of a complete stored grid without a new picture for it. A map
that is reported as reused has its grid as before, and the address of its picture, if it had one. -/
theorem regenerate_reports
    (ended : ((regenerate services config campaignId (.combat spec) table).run
      world).result.outcome = .ok o) :
    let done := (regenerate services config campaignId (.combat spec) table).run world
    let stored := storedFor campaignId (.combat spec) table
    (o.status = .generated →
      (stored.any Document.hasCompleteGrid →
        ∃ url, keptUrl done.events = some url ∧ (Text.nonBlank? url).isSome) →
      ∃ later, storedFor campaignId (.combat spec) done.result.table = some later ∧
        (o.written = true ∧ (HasNewGrid stored later ∨ HasNewPicture stored later) ∨
          ∃ m, freshMap config spec done.events = some m ∧ m.regions = [] ∧
            ∃ before ∈ stored, SameGrid before later)) ∧
    (o.status = .reused →
      ∃ before later, stored = some before ∧
        storedFor campaignId (.combat spec) done.result.table = some later ∧
        GridKept before later ∧
        Fields.get? later "backgroundImageUrl" = (Document.pictureUrl? before).map .text) := by
  constructor
  · intro generated kept
    obtain ⟨later, made, d, found, reported⟩ := exists_reported ended (by simp [generated])
    have status := reported.status_eq.symm.trans generated
    refine ⟨later, found, ?_⟩
    cases reported.reports with
    | failed failed => rw [status] at failed; contradiction
    | reused reused => rw [status] at reused; contradiction
    | gridMade _ lacking grid =>
      exact (reported.gridMade lacking grid).imp_left fun ⟨written, new⟩ => ⟨written, .inl new⟩
    | painted _ there unseen =>
      obtain ⟨url, kept, filled⟩ := kept there
      obtain ⟨written, new⟩ := reported.painted unseen kept filled
      exact .inl ⟨written, .inr new⟩
  · intro reused
    obtain ⟨later, made, d, found, reported⟩ := exists_reported ended (by simp [reused])
    have status := reported.status_eq.symm.trans reused
    cases reported.reports with
    | failed failed => rw [status] at failed; contradiction
    | gridMade generated => rw [status] at generated; contradiction
    | painted generated => rw [status] at generated; contradiction
    | reused _ there unkept =>
      obtain ⟨before, stored, complete⟩ := (Option.any_eq_true ..).mp there
      obtain ⟨later', found', kept⟩ := exists_gridKept services config world stored complete
      obtain rfl := Option.some.inj (found.symm.trans found')
      have address := reported.reused unkept
      rw [stored, Option.bind_some] at address
      exact ⟨before, later, stored, found, kept, address⟩

end Outcomes

/-! ## A grid made again and an address dropped -/

/-- A map that is not complete is laid out again; if the answer says what is stored, nothing is
written. -/
theorem regenerateCombat_of_same_answer [Amount κ] {table : Table} {document : Fields} {world : σ}
    {generated : Generated κ} {d : Draft}
    (found : table.document? (documentId campaignId spec.id) = some document)
    (incomplete : Document.hasCompleteGrid document = false)
    (noPicture : Document.pictureUrl? document = none)
    (noPainter : services.paintsBattleMaps = false)
    (answered : (generate services config spec none).run world = ⟨.ok generated, events, world⟩)
    (drafted : Draft.combat? campaignId spec (some document) (some generated.map) none = some d)
    (same : d.isUnchanged document) :
    ∃ o : Outcome κ, o.status = .generated ∧ o.written = false ∧
      (regenerateCombat services config campaignId spec table).run world =
        ⟨⟨.ok o, table⟩, events, world⟩ := by
  refine ⟨{ (Made.start .generated CombatAction.layOut.name none : Made κ).outcome spec.id .combat
    with completionCost := 0 + generated.cost, confidence := d.fields.value "confidence" },
    rfl, rfl, ?_⟩
  simp only [regenerateCombat, found, noPainter, Artifacts.of, noPicture, incomplete,
    Option.isSome_none, CombatAction.plan, makeCombat, layOut, Work.run_bind, answered,
    Work.run_pure, Made.payCompletions, Made.start, Made.outcome, Bool.false_eq_true, if_false,
    drafted, Option.bind_some, conclude, Option.any_some, same, if_true, List.append_nil]

/-- The hut that is stored already is laid out again, and what comes of it is not written. -/
theorem make_hutCall_again :
    ∃ o : Outcome Float, o.status = .generated ∧ o.written = false ∧
      (hutCall.make [hutRow] ()).result = ⟨.ok o, [hutRow]⟩ := by
  have drafted : Draft.combat? "isle" hutSpec (some (Json.readFields hutRow.payload))
      (some hutMap) none = some hutDraft := by
    rw [Draft.combat?, Draft.grid?, Option.filter_some, hasCompleteGrid_hutRow]
    rfl
  have same : hutDraft.isUnchanged (Json.readFields hutRow.payload) :=
    Draft.isUnchanged_of_rearranged rfl regular_hutDraft (Json.regular_readFields _).hasDistinctKeys
      (Json.rearranged_readFields_write regular_hutDraft isWritable_hutDraft)
  have answered : (generate hutCall.services hutCall.config hutSpec none).run () = _ :=
    generate_eq_ok none (fun _ => rfl) (by decide) judge_hutProposal
  have found : Table.document? [hutRow] (documentId "isle" hutSpec.id) =
      some (Json.readFields hutRow.payload) := Table.document?_singleton hutRow
  obtain ⟨o, generated, unwritten, run⟩ :=
    regenerateCombat_of_same_answer found hasCompleteGrid_hutRow pictureUrl?_hutRow rfl answered
      drafted same
  exact ⟨o, generated, unwritten, congrArg (·.result) run⟩

/-- Where there is nothing to do, the decision is the one on what is stored. -/
theorem run_regenerate_of_reuse [Amount κ] {table : Table} {document : Fields} {world : σ}
    {d : Draft} (found : storedFor campaignId (.combat spec) table = some document)
    (reuse : CombatAction.plan (.of (some document)) services.paintsBattleMaps = .reuse)
    (drafted : Draft.combat? campaignId spec (some document) none (Document.pictureUrl? document) =
      some d) :
    (regenerate services config campaignId (.combat spec) table).run world =
      ⟨(d.decide campaignId (some document) (Document.pictureUrl? document)
        ((Made.idle (Document.pictureUrl? document)).outcome spec.id .combat)
        (services.now world)).apply table, [], world⟩ := by
  have making : (Spec.make services config campaignId (storedFor campaignId (.combat spec) table)
      (.combat spec)).run world = ⟨.ok (Made.idle (Document.pictureUrl? document)), [], world⟩ := by
    rw [found, Spec.make, reuse]
    rfl
  have drafted : (Spec.combat spec).draft? campaignId (some document)
      (Made.idle (Document.pictureUrl? document) : Made κ) = some d := drafted
  rw [run_regenerate making, found, Spec.decide_ok rfl drafted]
  rfl

/-- The inn with a blank address, as it is read back. -/
def blankInn : Fields :=
  (Json.sortByKey ((innDraft (some " ")).document 0)).map fun m => (m.1, m.2.sorted)

/-- The draft that is made of it. -/
def blankDraft : Draft where
  fields :=
    Draft.common "isle" "inn" .combat "The inn"
      ++ [("gridSize", .int gridSize), ("feetPerSquare", .int 5)] ++ Draft.storedGrid blankInn

/-- The inn with a blank address is reused, and is left without an address. -/
theorem make_innCall_blank :
    ∃ (o : Outcome Float) (later : Fields), o.status = .reused ∧
      storedFor "isle" innCall.spec [innRow (some " ")] = some blankInn ∧
      (innCall.make [innRow (some " ")] ()).result.outcome = .ok o ∧
      storedFor "isle" innCall.spec (innCall.make [innRow (some " ")] ()).result.table =
        some later ∧ Fields.get? later "backgroundImageUrl" = none := by
  have read : Json.readFields (innRow (some " ")).payload = blankInn :=
    Json.readFields_write (by decide +kernel) (by decide +kernel)
  have stored : storedFor "isle" innCall.spec [innRow (some " ")] = some blankInn :=
    (Table.document?_singleton _).trans (congrArg some read)
  have complete : Document.hasCompleteGrid blankInn := by decide +kernel
  have noPicture : Document.pictureUrl? blankInn = none := by decide +kernel
  have drafted : Draft.combat? "isle" Proposal.innSpec (some blankInn) none
      (Document.pictureUrl? blankInn) = some blankDraft := by
    rw [noPicture, Draft.combat?, Draft.grid?, Option.filter_some, complete]
    rfl
  have run : innCall.make [innRow (some " ")] () = _ :=
    run_regenerate_of_reuse stored (plan_eq_reuse complete (by rintro ⟨⟩)) drafted
  have writable : (blankDraft.stamped 0).isWritable := by decide +kernel
  let outcome : Outcome Float := (Made.idle none).outcome "inn" .combat
  obtain ⟨o, later, ended, reused, -, -, found, left⟩ :=
    @Draft.left_of_taken Float "isle" [innRow (some " ")] blankDraft 0 none outcome writable rfl
  have there : Table.document? [innRow (some " ")] (documentId "isle" outcome.mapId) =
      some blankInn := stored
  rw [there] at ended found left
  rw [noPicture] at run drafted
  have regular : ∀ document ∈ some blankInn, Regular Json.maxDepth (.object document) := by
    rintro _ ⟨⟩
    exact regular_of_document?_eq_some there
  have address := left.get?_picture drafted regular
  rw [run]
  exact ⟨o, later, reused, stored, ended, found, address⟩

/-- The inn is reported as generated when it is read off a new picture, and as reused when it is
called for once more. -/
theorem inn_reported :
    (∃ (o : Outcome Float) (later : Fields), (keptCall.make [] ()).result.outcome = .ok o ∧
      o.status = .generated ∧
      storedFor "isle" (.combat Proposal.innSpec) (keptCall.make [] ()).result.table = some later ∧
      o.written = true ∧ (HasNewGrid none later ∨ HasNewPicture none later)) ∧
    ∃ (o : Outcome Float) (before later : Fields),
      (innCall.make [innRow none] ()).result.outcome = .ok o ∧ o.status = .reused ∧
      storedFor "isle" (.combat Proposal.innSpec) [innRow none] = some before ∧
      storedFor "isle" (.combat Proposal.innSpec) (innCall.make [innRow none] ()).result.table =
        some later ∧ GridKept before later := by
  constructor
  · obtain ⟨o, generated, run⟩ := make_keptCall
    have ended : (keptCall.make [] ()).result.outcome = .ok o := by rw [run]
    obtain ⟨later, found, told⟩ := (regenerate_reports ended).1 generated nofun
    -- Nothing is stored before, so nothing can be stored already.
    rcases told with ⟨written, new⟩ | ⟨m, -, -, before, stored, -⟩
    · exact ⟨o, later, ended, generated, found, written, new⟩
    · exact absurd stored (Option.not_mem_none before)
  · have drafted : Draft.combat? "isle" Proposal.innSpec none (some innMap) none =
        some (innDraft none) := rfl
    obtain ⟨settled, reuse⟩ := settled_innDocument drafted
    have noPainter : innCall.services.paintsBattleMaps = false := rfl
    obtain ⟨o, reused, -, -, -, run⟩ :=
      regenerateCombat_of_settled innCall.config (document?_innRow none) settled (noPainter ▸ reuse)
    have run : innCall.make [innRow none] () = ⟨⟨.ok o, [innRow none]⟩, [], ()⟩ :=
      congrArg (·.run ()) run
    have ended : (innCall.make [innRow none] ()).result.outcome = .ok o := by rw [run]
    obtain ⟨before, later, stored, found, kept, -⟩ := (regenerate_reports ended).2 reused
    exact ⟨o, before, later, ended, reused, stored, found, kept⟩

/-- A map may be reported as generated although nothing new is written, and as reused although a
member of it is dropped. -/
theorem statuses_mislead :
    (∃ o : Outcome Float, o.status = .generated ∧ o.written = false ∧
      (hutCall.make [] ()).result.table = [hutRow] ∧
      (hutCall.make [hutRow] ()).result = ⟨.ok o, [hutRow]⟩) ∧
    ∃ (o : Outcome Float) (later : Fields), o.status = .reused ∧
      (innCall.make [innRow (some " ")] ()).result.outcome = .ok o ∧
      storedFor "isle" innCall.spec [innRow (some " ")] = some blankInn ∧
      storedFor "isle" innCall.spec (innCall.make [innRow (some " ")] ()).result.table =
        some later ∧
      Fields.get? blankInn "backgroundImageUrl" = some (.text " ") ∧
      Fields.get? later "backgroundImageUrl" = none := by
  obtain ⟨_, -, first⟩ := make_hutCall
  obtain ⟨o, generated, unwritten, again⟩ := make_hutCall_again
  obtain ⟨o', later, reused, stored, ended, found, address⟩ := make_innCall_blank
  exact ⟨⟨o, generated, unwritten, congrArg (·.result.table) first, again⟩,
    o', later, reused, ended, stored, found, rfl, address⟩

end BattleMaps
