import BattleMaps.Proofs.Regeneration.Reruns

/-!
# When one call is enough

A call during which every service does what it is asked need not be the last one: a map without a
region does not count as complete, and a picture that is not kept is painted again. Where neither
happens, one call that does not fail is enough, and all later ones reuse what it has left.

## Main definitions

* `Event.Succeeds` — whether a service has done what it was asked
* `Event.Lasts` — whether what came of that counts as there afterwards
* `Made.Finished` — whether making has come to all that the next call looks for

## Main results

* `makeCombat_finishes` — what making comes to if every service succeeds and everything lasts
* `reruns_reuse_of_lasting` — one call is enough
-/

namespace BattleMaps

open Store (Table)

variable {σ κ : Type} {services : Services σ κ} {config : Config κ} {spec : CombatSpec}
  {campaignId : String} {picture : Option Picture} {made : Made κ} {url : Option String}
  {table : Table} {world : σ}

/-! ## Events -/

/-- Whether a service has done what it was asked: it has answered, and if it is a model, its answer
becomes a map. -/
def Event.Succeeds (config : Config κ) (spec : CombatSpec) : Event κ → Prop
  | .completed request answer => ∃ reply m, answer = .ok reply ∧
      judge spec (approach request.picture).encoding config.minWalkable reply.text = .ok m
  | .painted _ answer => answer.isOk
  | .uploaded _ answer => answer.isOk
  | .downloaded _ answer => answer.isOk

/-- Whether what came of an event counts as there afterwards: maps if they have a region, pictures
if there is a place to keep them, and addresses if they are not blank. -/
def Event.Lasts (services : Services σ κ) (config : Config κ) (spec : CombatSpec) : Event κ → Prop
  | .completed request answer => ∀ reply m, answer = .ok reply →
      judge spec (approach request.picture).encoding config.minWalkable reply.text = .ok m →
      m.regions ≠ []
  | .painted .. => services.blobs.isSome
  | .uploaded _ answer => ∀ url, answer = .ok url → (Text.nonBlank? url).isSome
  | .downloaded .. => True

/-- Whether a service has done what it was asked, and for good. -/
structure Event.IsFruitful (services : Services σ κ) (config : Config κ) (spec : CombatSpec)
    (e : Event κ) : Prop where
  succeeds : e.Succeeds config spec
  lasts : e.Lasts services config spec

/-! ## Grids -/

variable [Amount κ]

/-- Whether asking has come to a map with a region, or was not allowed at all. -/
def Answered (attempts : Nat) : Except (Exhausted κ) (Generated κ) → Prop
  | .ok generated => attempts ≠ 0 ∧ generated.map.regions ≠ []
  | .error _ => attempts = 0

omit [Amount κ] in
theorem picture_gridRequest : (gridRequest config spec picture).picture = picture := by
  cases picture <;> rfl

theorem askRepeatedly_answered (left asked : Nat) (cost : κ) (lastError : String) :
    (askRepeatedly services config spec picture left asked cost lastError).Yields
      (Event.IsFruitful services config spec) (Answered left) := by
  -- The first answer becomes a map, so there is no second round.
  cases left with
  | zero =>
    rw [askRepeatedly]
    exact .pure rfl
  | succ left =>
    rw [askRepeatedly]
    refine .bind .ask fun answer fruitful => ?_
    obtain ⟨⟨reply, m, rfl, accepted⟩, lasts⟩ := fruitful
    have regions := lasts reply m rfl accepted
    rw [picture_gridRequest] at accepted
    dsimp only
    rw [accepted]
    exact .pure ⟨left.succ_ne_zero, regions⟩

theorem generate_answered :
    (generate services config spec picture).Yields (Event.IsFruitful services config spec)
      (Answered config.attempts.toNat) :=
  askRepeatedly_answered _ _ _ _

/-- Whether making, unless it has failed, has come to a map with a region, which takes that it was
allowed to ask; and the address of the picture is the given one. -/
structure Made.Bears (config : Config κ) (url : Option String) (made : Made κ) : Prop where
  grid : made.error = none → config.attempts.toNat ≠ 0 ∧ ∃ m ∈ made.grid, m.regions ≠ []
  url_eq : made.url = url

theorem layOut_bears (same : made.url = url) :
    (layOut services config spec made).Yields (Event.IsFruitful services config spec)
      (Made.Bears config url) := by
  refine .bind generate_answered fun answer answered => ?_
  cases answer with
  | ok generated => exact .pure ⟨fun _ => ⟨answered.1, _, rfl, answered.2⟩, same⟩
  | error e => exact .pure ⟨fun absent => (nomatch absent), same⟩

theorem fallBack_bears {setback : Setback κ} (same : made.url = url) :
    (fallBack services config spec made setback).Yields (Event.IsFruitful services config spec)
      (Made.Bears config url) :=
  layOut_bears same

/-- Reading a picture is not given up without failing altogether. -/
theorem readPicture_bears {picture : Picture} (reads : services.readsPictures)
    (fresh : made.setback = none) (same : made.url = url) :
    (readPicture services config spec picture made).Yields (Event.IsFruitful services config spec)
      fun made => made.Bears config url ∧ (made.error = none → made.setback = none) := by
  rw [readPicture, if_pos reads]
  refine .bind generate_answered fun answer answered => ?_
  cases answer with
  | ok generated => exact .pure ⟨⟨fun _ => ⟨answered.1, _, rfl, answered.2⟩, same⟩, fun _ => fresh⟩
  | error e =>
    have paid : (made.payCompletions e.cost).url = url := same
    -- Reading fails only where nothing may be asked, and then prose fails as well.
    refine (fallBack_bears paid).mono fun made bears => ⟨bears, fun unfailed => ?_⟩
    exact absurd answered (bears.grid unfailed).1

theorem readStored_bears (reads : services.readsPictures) (fresh : made.setback = none)
    (same : made.url = url) :
    (readStored services config spec made).Yields (Event.IsFruitful services config spec)
      (Made.Bears config url) := by
  unfold readStored
  split
  · refine .bind .ask fun answer fruitful => ?_
    obtain ⟨bytes, rfl⟩ := exists_eq_ok fruitful.succeeds
    exact (readPicture_bears reads fresh same).mono fun _ bears => bears.1
  · exact fallBack_bears same

/-! ## Pictures -/

/-- Whether making has kept the grid and the reason as they were, and has come to an address that is
not blank. -/
def KeptFor (made : Made κ) (result : Except Breakdown (Made κ)) : Prop :=
  ∀ kept, result = .ok kept → kept.grid = made.grid ∧ kept.error = made.error ∧
    ∃ url, kept.url = some url ∧ (Text.nonBlank? url).isSome

omit [Amount κ] in
theorem keepFor_keeps {mapId : String} {picture : Picture} (place : services.blobs.isSome) :
    (keepFor services config campaignId mapId picture made).Yields
      (Event.IsFruitful services config spec) (KeptFor made) := by
  have keeps : (keepPicture services config campaignId mapId picture).Yields
      (Event.IsFruitful services config spec) fun answer => ∀ url, answer = .ok url →
        ∃ u, url = some u ∧ (Text.nonBlank? u).isSome := by
    unfold keepPicture
    split
    · rename_i nowhere
      rw [nowhere] at place
      contradiction
    · split
      · exact .pure fun _ absent => nomatch absent
      · refine .bind .ask fun answer fruitful => .pure ?_
        obtain ⟨url, rfl⟩ := exists_eq_ok fruitful.succeeds
        rintro _ ⟨⟩
        exact ⟨url, rfl, fruitful.lasts url rfl⟩
  refine .bind keeps fun answer filled => ?_
  cases answer with
  | ok url =>
    refine .pure ?_
    rintro _ ⟨⟩
    exact ⟨rfl, rfl, filled url rfl⟩
  | error fault => exact .pure fun _ absent => nomatch absent

/-! ## Actions -/

/-- Whether making has come to all that the next call looks for: a complete grid is stored or a map
with a region has been made, and a picture, if there is one or if one can be painted, has an address
that is not blank. -/
structure Made.Finished (stored : Option Fields) (paints : Bool) (made : Made κ) : Prop where
  grid : stored.any Document.hasCompleteGrid ∨ ∃ m ∈ made.grid, m.regions ≠ []
  filled : ∀ u ∈ made.url, (Text.nonBlank? u).isSome
  picture : paints → made.url.isSome

/-- Whether what was made, if anything, is finished unless it has failed. -/
def FinishedResult (stored : Option Fields) (paints : Bool) (result : Except Breakdown (Made κ)) :
    Prop :=
  ∀ made, result = .ok made → made.error = none → made.Finished stored paints

variable {stored : Option Fields} {paints : Bool}

omit [Amount κ] in
theorem filled_of_stored {u : String} (there : u ∈ stored.bind Document.pictureUrl?) :
    (Text.nonBlank? u).isSome := by
  obtain ⟨document, -, there⟩ := Option.bind_eq_some_iff.mp there
  exact (pictureUrl?_eq_some_iff.mp there).2

omit [Amount κ] in
theorem finishedResult_of_bears (bears : made.Bears config (stored.bind Document.pictureUrl?))
    (there : paints → (stored.bind Document.pictureUrl?).isSome) :
    FinishedResult stored paints (.ok made) := by
  rintro _ ⟨⟩ unfailed
  refine ⟨.inr (bears.grid unfailed).2, ?_, fun painted => bears.url_eq ▸ there painted⟩
  rw [bears.url_eq]
  exact fun _ => filled_of_stored

omit [Amount κ] in
theorem finishedResult_of_keptFor {result : Except Breakdown (Made κ)} (kept : KeptFor made result)
    (grid : made.error = none →
      stored.any Document.hasCompleteGrid ∨ ∃ m ∈ made.grid, m.regions ≠ []) :
    FinishedResult stored paints result := by
  intro later ok unfailed
  obtain ⟨sameGrid, sameError, u, named, filled⟩ := kept later ok
  refine ⟨sameGrid ▸ grid (sameError ▸ unfailed), ?_, fun _ => ?_⟩
  · rw [named]
    rintro _ ⟨⟩
    exact filled
  · rw [named, Option.isSome_some]

theorem paintAndRead_finishes (reads : services.readsPictures) (fresh : made.setback = none) :
    (paintAndRead services config campaignId spec made).Yields
      (Event.IsFruitful services config spec) (FinishedResult stored paints) := by
  refine paint_yields (fun _ absent => nomatch absent) fun _ answer fruitful => ?_
  obtain ⟨painting, rfl⟩ := exists_eq_ok fruitful.succeeds
  refine .bind (readPicture_bears reads fresh rfl) fun made ⟨bears, fresh⟩ => ?_
  split_ifs with setback
  · -- Where reading was given up, prose has failed too.
    refine .pure ?_
    rintro _ ⟨⟩ unfailed
    rw [fresh unfailed] at setback
    contradiction
  · exact (keepFor_keeps fruitful.lasts).mono fun _ kept =>
      finishedResult_of_keptFor kept fun unfailed => .inr (bears.grid unfailed).2

theorem attachPicture_finishes (complete : stored.any Document.hasCompleteGrid) :
    (attachPicture services config campaignId spec made).Yields
      (Event.IsFruitful services config spec) (FinishedResult stored paints) := by
  refine paint_yields (fun _ absent => nomatch absent) fun _ answer fruitful => ?_
  obtain ⟨painting, rfl⟩ := exists_eq_ok fruitful.succeeds
  exact (keepFor_keeps fruitful.lasts).mono fun _ kept =>
    finishedResult_of_keptFor kept fun _ => .inl complete

/-- If every service does what it is asked, and for good, then all that the next call looks for is
there in the end, unless making fails. -/
theorem makeCombat_finishes (stored : Option Fields) :
    (makeCombat services config campaignId spec (stored.bind Document.pictureUrl?)
      (.plan (.of stored) services.paintsBattleMaps)).Yields
        (Event.IsFruitful services config spec)
        (FinishedResult stored services.paintsBattleMaps) := by
  have planned := CombatAction.isPlanned_of stored services.paintsBattleMaps
  have reads : services.paintsBattleMaps → services.readsPictures :=
    fun painter => (Services.paintsBattleMaps_iff.mp painter).2
  generalize CombatAction.plan (.of stored) services.paintsBattleMaps = action at planned ⊢
  cases planned with
  | reuse grid picture =>
    refine .pure ?_
    rintro _ ⟨⟩ -
    exact ⟨.inl grid, fun _ => filled_of_stored, picture⟩
  | layOut noPainter =>
    refine .bind (layOut_bears rfl) fun _ bears => .pure (finishedResult_of_bears bears ?_)
    simp [noPainter]
  | attachPicture _ grid => exact attachPicture_finishes grid
  | readStored painter _ picture =>
    exact .bind (readStored_bears (reads painter) rfl rfl) fun _ bears =>
      .pure (finishedResult_of_bears bears fun _ => picture)
  | paintAndRead painter => exact paintAndRead_finishes (reads painter) rfl

/-! ## The next call -/

variable {first : Call σ κ} {reruns : List (Call σ κ)} {outcome : Outcome κ}

/-- If a call for a battle map does not fail, every service that it asks does what it is asked, and
what comes of that lasts, then all later calls for the same map, with services that paint only if
the first ones did, ask no service, report that the map is reused, unwritten and for free, and leave
the table exactly as it is. -/
theorem reruns_reuse_of_lasting (combat : first.spec = .combat spec)
    (ended : (first.make table world).result.outcome = .ok outcome)
    (fine : outcome.status ≠ .failed)
    (succeeded : ∀ e ∈ (first.make table world).events, e.Succeeds first.config spec)
    (lasting : ∀ e ∈ (first.make table world).events, e.Lasts first.services first.config spec)
    (same : ∀ call ∈ reruns, call.campaignId = first.campaignId ∧ call.spec = first.spec)
    (noPainter : ∀ call ∈ reruns,
      call.services.paintsBattleMaps → first.services.paintsBattleMaps)
    (later : σ) :
    ∀ done ∈ makeAll reruns (first.make table world).result.table later,
      done.Reuses (first.make table world).result.table := by
  rw [combat] at same
  rw [Call.make, combat, regenerate_combat] at ended succeeded lasting ⊢
  obtain ⟨made, d, document, finished, silent, sound, kept, drafted, found, left⟩ :=
    exists_left_of_regenerateCombat (makeCombat_finishes _)
      (fun e caused => ⟨succeeded e caused, lasting e caused⟩) ended fine
  have finished := finished silent
  -- The draft had a complete grid and all that it needs of a picture, and so has what it left.
  have complete : Document.hasCompleteGrid document := by
    refine left.hasCompleteGrid drafted regular_of_mem_document? (finished.grid.imp_right ?_)
    rintro ⟨m, new, regions⟩
    obtain ⟨encoding, promises⟩ := sound m new
    exact ⟨m, new, promises.length_cells, regions⟩
  have there : Document.pictureUrl? document = made.url :=
    left.pictureUrl?_eq drafted regular_of_mem_document? kept finished.filled
  have settled := left.settled drafted regular_of_mem_document? complete there
  refine makeAll_reuses found settled same (fun call member => ?_) later
  exact plan_eq_reuse complete fun paints => there ▸ finished.picture (noPainter call member paints)

theorem keptInn_settled :
    ∃ o : Outcome Float,
      (keptCall.make [] ()).result = ⟨.ok o, [paintedRow (some "inn.webp")]⟩ ∧
      o.status ≠ .failed ∧
      (∀ e ∈ (keptCall.make [] ()).events, e.Succeeds keptCall.config Proposal.innSpec ∧
        e.Lasts keptCall.services keptCall.config Proposal.innSpec) ∧
      ∀ done ∈ makeAll [keptCall, innCall] [paintedRow (some "inn.webp")] (),
        done.Reuses [paintedRow (some "inn.webp")] := by
  obtain ⟨o, generated, run⟩ := make_keptCall
  have fine : o.status ≠ .failed := by simp [generated]
  have read : judge Proposal.innSpec (approach (some emptyPicture)).encoding
      keptCall.config.minWalkable Proposal.innProposal.write = .ok innReading :=
    judge_innReading
  have fruitful : ∀ e ∈ (keptCall.make [] ()).events,
      e.Succeeds keptCall.config Proposal.innSpec ∧
        e.Lasts keptCall.services keptCall.config Proposal.innSpec := by
    rw [run, paintedEvents]
    simp only [List.cons_append, List.nil_append, List.forall_mem_cons]
    refine ⟨⟨rfl, rfl⟩, ⟨⟨_, _, rfl, read⟩, ?_⟩, ⟨rfl, ?_⟩, fun _ absent => nomatch absent⟩
    · intro reply m answered accepted
      obtain rfl := Except.ok.inj answered
      obtain rfl := Except.ok.inj (accepted.symm.trans read)
      exact List.cons_ne_nil _ _
    · intro url answered
      obtain rfl := Except.ok.inj answered
      decide
  have same : ∀ call ∈ [keptCall, innCall],
      call.campaignId = keptCall.campaignId ∧ call.spec = keptCall.spec := by
    simp [keptCall, paintedCall, innCall]
  have painters : ∀ call ∈ [keptCall, innCall],
      call.services.paintsBattleMaps → keptCall.services.paintsBattleMaps :=
    fun _ _ _ => rfl
  have reused := reruns_reuse_of_lasting rfl (congrArg (·.result.outcome) run) fine
    (fun e caused => (fruitful e caused).1) (fun e caused => (fruitful e caused).2) same painters ()
  rw [run] at reused
  exact ⟨o, congrArg (·.result) run, fine, fruitful, reused⟩

/-! ## Calls that are not enough -/

/-- Whether a call does not fail and every service that it asks does what it is asked, and yet the
same call, made again, does not reuse what the first one has left. -/
structure Call.Repeats (call : Call σ κ) (spec : CombatSpec) (table : Table) (world : σ) :
    Prop where
  combat : call.spec = .combat spec
  ended : ∃ o, (call.make table world).result.outcome = .ok o ∧ o.status ≠ .failed
  succeeded : ∀ e ∈ (call.make table world).events, e.Succeeds call.config spec
  repeated : ¬ (call.make (call.make table world).result.table
    (call.make table world).world).Reuses (call.make table world).result.table

section Asking

variable {action : CombatAction}

/-- A model that may be asked at all is asked. -/
theorem generate_asks (allowed : 0 < config.attempts) :
    (generate services config spec picture).Asks := by
  obtain ⟨left, count⟩ : ∃ left, config.attempts.toNat = left + 1 :=
    ⟨config.attempts.toNat - 1, by omega⟩
  rw [generate, count, askRepeatedly]
  exact Work.asks_ask.bind _

theorem layOut_asks (allowed : 0 < config.attempts) :
    (layOut services config spec made).Asks :=
  (generate_asks allowed).bind _

theorem readStored_asks (allowed : 0 < config.attempts) :
    (readStored services config spec made).Asks := by
  unfold readStored
  split
  · exact Work.asks_ask.bind _
  · exact layOut_asks allowed

omit [Amount κ] in
theorem paint_asks {prompt : String}
    {next : Except Fault (Painting κ) → Work σ κ (Except Breakdown (Made κ))}
    (somebody : services.paint.isSome) : (paint services prompt next).Asks := by
  obtain ⟨painter, asked⟩ := exists_paint_eq somebody
  rw [asked]
  exact Work.asks_ask.bind _

/-- Every action but one asks some service, if pictures are painted wherever it takes that. -/
theorem makeCombat_asks (busy : action ≠ .reuse)
    (painter : action = .paintAndRead ∨ action = .attachPicture → services.paint.isSome)
    (allowed : 0 < config.attempts) :
    (makeCombat services config campaignId spec url action).Asks := by
  cases action with
  | reuse => contradiction
  | readStored => exact (readStored_asks allowed).bind _
  | paintAndRead => exact paint_asks (painter (.inl rfl))
  | attachPicture => exact paint_asks (painter (.inr rfl))
  | layOut => exact (layOut_asks allowed).bind _

/-- A call that finds something to do asks some service, if models may be asked at all. -/
theorem regenerateCombat_asks
    (busy : CombatAction.plan (.of (table.document? (documentId campaignId spec.id)))
      services.paintsBattleMaps ≠ .reuse) (allowed : 0 < config.attempts) :
    (regenerateCombat services config campaignId spec table).Asks := by
  refine (makeCombat_asks busy (fun pictorial => ?_) allowed).bind _
  -- What is planned for pictures is planned only where somebody paints them.
  have planned := CombatAction.isPlanned_of (table.document? (documentId campaignId spec.id))
    services.paintsBattleMaps
  rcases pictorial with paintAndRead | attachPicture
  · rw [paintAndRead] at planned
    cases planned with
    | paintAndRead painter => exact (Services.paintsBattleMaps_iff.mp painter).1
  · rw [attachPicture] at planned
    cases planned with
    | attachPicture painter => exact (Services.paintsBattleMaps_iff.mp painter).1

end Asking

/-- A hut without a place of note. -/
def hutSpec : CombatSpec where
  id := "hut"
  name := "The hut"
  feetPerSquare := 5
  terrain := "interior"
  lighting := "dim"
  layout := "An empty hut."

/-- A proposal for the hut: floor everywhere, and no region. -/
def hutProposal : Json :=
  .object [("tileData", .array (List.replicate 400 (.int 0))), ("regions", .array [])]

def hutMap : BattleMap where
  grid := ⟨List.replicate 400 0, .extended⟩
  regions := []
  confidence := .medium

/-- A call for the hut on the isle; the model answers with the proposal. -/
def hutCall : Call Unit Float where
  services := constantServices hutProposal.write
  config := .standard
  campaignId := "isle"
  spec := .combat hutSpec

def hutDraft : Draft where
  fields :=
    Draft.common "isle" "hut" .combat "The hut"
      ++ [("gridSize", .int gridSize), ("feetPerSquare", .int 5)] ++ Draft.newGrid hutMap

def hutRow : Store.Row := hutDraft.row "isle" "hut" .combat 0

theorem judge_hutProposal :
    judge hutSpec .extended 0.3 hutProposal.write = .ok hutMap :=
  judge_write (by decide +kernel) (by decide +kernel) (by decide +kernel) (by decide +kernel)

theorem make_hutCall :
    ∃ o : Outcome Float, o.status = .generated ∧
      hutCall.make [] () =
        ⟨⟨.ok o, [hutRow]⟩, [.completed (gridRequest .standard hutSpec none)
          (.ok ⟨hutProposal.write, 0⟩)], ()⟩ := by
  simp only [Call.make, hutCall, regenerate_combat]
  exact regenerateCombat_of_first_answer .nil (fun _ => rfl) rfl (by decide) judge_hutProposal rfl
    (by decide +kernel)

/-- A call repeats if it has all succeed and leaves something to do in spite of that. -/
theorem Call.repeats_of_busy {call : Call σ κ} {after : Table} {events : List (Event κ)}
    {o : Outcome κ} {document : Fields} (combat : call.spec = .combat spec)
    (run : call.make table world = ⟨⟨.ok o, after⟩, events, world⟩) (fine : o.status ≠ .failed)
    (succeeded : ∀ e ∈ events, e.Succeeds call.config spec)
    (found : after.document? (BattleMaps.documentId call.campaignId spec.id) = some document)
    (busy : CombatAction.plan (.of (some document)) call.services.paintsBattleMaps ≠ .reuse)
    (allowed : 0 < call.config.attempts) : call.Repeats spec table world := by
  refine ⟨combat, ⟨o, congrArg (·.result.outcome) run, fine⟩, by rwa [run], fun reuses => ?_⟩
  rw [run] at reuses
  have silent := reuses.silent
  rw [Call.make, combat, regenerate_combat] at silent
  exact regenerateCombat_asks (found ▸ busy) allowed _ silent

theorem regular_hutDraft : Json.Regular Json.maxDepth (hutDraft.stamped 0) := by
  decide +kernel

theorem isWritable_hutDraft : (hutDraft.stamped 0).isWritable := by
  decide +kernel

theorem hasCompleteGrid_hutRow :
    Document.hasCompleteGrid (Json.readFields hutRow.payload) = false :=
  (Draft.hasCompleteGrid_readFields_payload regular_hutDraft isWritable_hutDraft).trans
    (by decide +kernel)

theorem pictureUrl?_hutRow : Document.pictureUrl? (Json.readFields hutRow.payload) = none :=
  Draft.pictureUrl?_readFields_payload regular_hutDraft isWritable_hutDraft

/-- The hut is laid out once more, since a map without a region does not count as complete. -/
theorem hutCall_repeats : hutCall.Repeats hutSpec [] () := by
  obtain ⟨o, generated, run⟩ := make_hutCall
  refine Call.repeats_of_busy rfl run (by simp [generated]) ?_ (Table.document?_singleton hutRow)
    ?_ (by decide)
  · rw [List.forall_mem_singleton]
    exact ⟨_, _, rfl, judge_hutProposal⟩
  · rw [Artifacts.of, pictureUrl?_hutRow, hasCompleteGrid_hutRow]
    decide

/-- The inn is painted once more, if its picture got no address that was stored. -/
theorem paintedCall_repeats {blobs : Option (BlobStore Unit)} {url : Option String}
    {uploads : List (Event Float)}
    (kept : (keepPicture (paintingServices blobs) .standard "isle" "inn" emptyPicture).run () =
      ⟨.ok url, uploads, ()⟩)
    (uploaded : ∀ e ∈ uploads, e.Succeeds Config.standard Proposal.innSpec)
    (nowhere : Draft.picture url = []) : (paintedCall blobs).Repeats Proposal.innSpec [] () := by
  have unseen : paintedDraft url = paintedDraft none := by
    rw [paintedDraft, nowhere]
    rfl
  have regular : Json.Regular Json.maxDepth ((paintedDraft url).stamped 0) := by
    rw [unseen]
    decide +kernel
  have writable : ((paintedDraft url).stamped 0).isWritable := by
    rw [unseen]
    decide +kernel
  obtain ⟨o, generated, run⟩ := make_paintedCall kept writable
  refine Call.repeats_of_busy rfl run (by simp [generated]) ?_
    (Table.document?_singleton (paintedRow url)) ?_ (by decide : 0 < Config.standard.attempts)
  · simp only [paintedEvents, List.cons_append, List.nil_append, List.forall_mem_cons]
    exact ⟨rfl, ⟨_, _, rfl, judge_innReading⟩, uploaded⟩
  · have complete : Document.hasCompleteGrid (Json.readFields (paintedRow url).payload) := by
      refine (Draft.hasCompleteGrid_readFields_payload regular writable).trans ?_
      rw [unseen]
      decide +kernel
    have noPicture : Document.pictureUrl? (Json.readFields (paintedRow url).payload) = none := by
      refine (Draft.pictureUrl?_readFields_payload regular writable).trans ?_
      rw [unseen]
      rfl
    rw [Artifacts.of, noPicture, complete]
    exact (by decide : CombatAction.plan .gridOnly true ≠ .reuse)

/-- One call is not enough, although all goes well, for a map without a region, for a picture that
there is no place for, and for a picture that gets a blank address. -/
theorem calls_repeat :
    hutCall.Repeats hutSpec [] () ∧ (paintedCall none).Repeats Proposal.innSpec [] () ∧
      (paintedCall (some (blobsAt ""))).Repeats Proposal.innSpec [] () := by
  refine ⟨hutCall_repeats, paintedCall_repeats rfl (fun _ absent => nomatch absent) rfl, ?_⟩
  refine paintedCall_repeats (keepPicture_blobsAt "") ?_ rfl
  rw [List.forall_mem_singleton]
  rfl

end BattleMaps
