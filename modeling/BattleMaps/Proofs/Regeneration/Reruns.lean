import BattleMaps.Proofs.Regeneration.Settled

/-!
# Calls that are made again

Once a battle map has both its picture and a complete grid, calls for it have nothing left to do.
The call that has just ended left a settled document behind, and a call on a settled document asks
no service and leaves the table as it was, so that the next one finds the same document again,
however many follow and with whatever services and settings.

## Main definitions

* `Done.Reuses` — whether a call has found all there already
* `makeAll` — what calls come to one after another

## Main results

* `makeAll_reuses` — calls for a settled document reuse it
* `reruns_reuse` — calls for a battle map that has its two artifacts reuse them
-/

namespace BattleMaps

open Store (Table)

variable {σ κ : Type} [Amount κ] {services : Services σ κ} {config : Config κ}
  {campaignId url : String} {spec : CombatSpec} {document : Fields} {table : Table}
  {first : Call σ κ} {reruns : List (Call σ κ)} {world : σ} {outcome : Outcome κ}
  {event : Event κ → Prop}

/-- Whether a call has found all there already: it has asked no service, has left the table exactly
as it was, and says so. -/
structure Done.Reuses (table : Table) (done : Done σ κ (Regenerated κ)) : Prop where
  silent : done.events = []
  table_eq : done.result.table = table
  reported : ∃ o, done.result.outcome = .ok o ∧ o.status = .reused ∧ o.written = false ∧
    o.completionCost = 0 ∧ o.imageCost = 0

/-- What calls come to when they are made one after another, with what each of them reports. -/
def makeAll : List (Call σ κ) → Table → σ → List (Done σ κ (Regenerated κ))
  | [], _, _ => []
  | call :: calls, table, world =>
    let done := call.make table world
    done :: makeAll calls done.result.table done.world

/-- The steps of a history are what the calls come to, without the reports. -/
theorem history_eq_zipWith_makeAll (calls : List (Call σ κ)) (table : Table) (world : σ) :
    history calls table world =
      calls.zipWith (fun call done => ⟨call, done.events, done.result.table⟩)
        (makeAll calls table world) := by
  induction calls generalizing table world with
  | nil => rfl
  | cons call calls ih => rw [history, makeAll, List.zipWith_cons_cons, ih]

/-! ## Settled documents -/

/-- A call on a settled document for which nothing is to be done reuses it. -/
theorem make_reuses {call : Call σ κ} (combat : call.spec = .combat spec)
    (found : table.document? (documentId call.campaignId spec.id) = some document)
    (settled : Settled call.campaignId spec document)
    (idle : CombatAction.plan (.of (some document)) call.services.paintsBattleMaps = .reuse)
    (world : σ) : (call.make table world).Reuses table := by
  obtain ⟨o, reused, unwritten, completions, pictures, run⟩ :=
    regenerateCombat_of_settled call.config found settled idle
  rw [Call.make, combat, regenerate_combat, run]
  exact ⟨rfl, rfl, o, rfl, reused, unwritten, completions, pictures⟩

/-- Calls that reuse a table one by one reuse it one after the other. -/
theorem makeAll_of_each (each : ∀ call ∈ reruns, ∀ world, (call.make table world).Reuses table)
    (world : σ) : ∀ done ∈ makeAll reruns table world, done.Reuses table := by
  induction reruns generalizing world with
  | nil => exact fun _ absent => nomatch absent
  | cons call calls ih =>
    rw [List.forall_mem_cons] at each
    have reuses := each.1 world
    rw [makeAll, List.forall_mem_cons]
    refine ⟨reuses, ?_⟩
    -- The first call has left the table as it was, so the others start from it too.
    rw [reuses.table_eq]
    exact ih each.2 _

/-- Calls on a settled document for which nothing is to be done reuse it, one after the other. -/
theorem makeAll_reuses
    (found : table.document? (documentId campaignId spec.id) = some document)
    (settled : Settled campaignId spec document)
    (same : ∀ call ∈ reruns, call.campaignId = campaignId ∧ call.spec = .combat spec)
    (idle : ∀ call ∈ reruns,
      CombatAction.plan (.of (some document)) call.services.paintsBattleMaps = .reuse)
    (world : σ) : ∀ done ∈ makeAll reruns table world, done.Reuses table := by
  refine makeAll_of_each (fun call rerun => ?_) world
  obtain ⟨rfl, combat⟩ := same call rerun
  exact make_reuses combat found settled (idle call rerun)

/-! ## The call before -/

/-- Whatever the services answer, a new grid is sound and a stored picture is kept. -/
theorem makeCombat_keeps (stored : Option Fields) (paints : Bool) :
    (makeCombat services config campaignId spec (stored.bind Document.pictureUrl?)
      (.plan (.of stored) paints)).Yields event fun result => ∀ made, result = .ok made →
        SoundGrid config spec made.grid ∧ KeepsPicture stored made.url := by
  refine .mono (.of_ensures (makeCombat_ensures _ _)) fun result promised made ok => ?_
  obtain ⟨sound, kept⟩ := promised made ok
  exact ⟨sound, keepsPicture_of_hasPicture kept⟩

/-- A call that ends without a failure leaves a document under the id of its map, by a draft of what
was made. -/
theorem exists_left_of_regenerateCombat {post : Made κ → Prop}
    (making : (makeCombat services config campaignId spec
      ((table.document? (documentId campaignId spec.id)).bind Document.pictureUrl?)
      (.plan (.of (table.document? (documentId campaignId spec.id)))
        services.paintsBattleMaps)).Yields event fun result => ∀ made, result = .ok made →
          post made)
    (caused : ∀ e ∈ ((regenerateCombat services config campaignId spec table).run world).events,
      event e)
    (ended : ((regenerateCombat services config campaignId spec table).run world).result.outcome =
      .ok outcome)
    (fine : outcome.status ≠ .failed) :
    ∃ made d document, post made ∧ made.error = none ∧ SoundGrid config spec made.grid ∧
      KeepsPicture (table.document? (documentId campaignId spec.id)) made.url ∧
      Draft.combat? campaignId spec (table.document? (documentId campaignId spec.id)) made.grid
        made.url = some d ∧
      ((regenerateCombat services config campaignId spec table).run
        world).result.table.document? (documentId campaignId spec.id) = some document ∧
      Left (table.document? (documentId campaignId spec.id)) d document := by
  have both := (making.and (makeCombat_keeps _ _)).mono fun _ promised made ok =>
    show post made ∧ SoundGrid config spec made.grid ∧
      KeepsPicture (table.document? (documentId campaignId spec.id)) made.url from
      ⟨promised.1 made ok, promised.2 made ok⟩
  have ends := regenerateCombat_ends both world caused
  obtain ⟨d, document, ⟨made, ⟨promised, sound, kept⟩, silent, drafted⟩, found, left⟩ :=
    ends.exists_left ended fine
  exact ⟨made, d, document, promised, silent, sound, kept, drafted, found, left⟩

/-- If a call for a battle map does not fail, and leaves a document with a picture and a complete
grid, then all later calls for the same map, as many as there are and with whatever services and
settings, ask no service, report that the map is reused, unwritten and for free, and leave the
table exactly as it is. -/
theorem reruns_reuse (combat : first.spec = .combat spec)
    (ended : (first.make table world).result.outcome = .ok outcome)
    (fine : outcome.status ≠ .failed)
    (found : (first.make table world).result.table.document? first.documentId = some document)
    (picture : Fields.value document "backgroundImageUrl" = .text url)
    (filled : (Text.nonBlank? url).isSome) (complete : Document.hasCompleteGrid document)
    (same : ∀ call ∈ reruns, call.campaignId = first.campaignId ∧ call.spec = first.spec)
    (later : σ) :
    ∀ done ∈ makeAll reruns (first.make table world).result.table later,
      done.Reuses (first.make table world).result.table := by
  have there : Document.pictureUrl? document = some url :=
    pictureUrl?_eq_some_iff.mpr ⟨picture, filled⟩
  rw [combat] at same
  rw [Call.documentId, combat] at found
  rw [Call.make, combat, regenerate_combat] at ended found ⊢
  obtain ⟨made, d, _, -, -, -, kept, drafted, foundLeft, left⟩ :=
    exists_left_of_regenerateCombat (fun _ _ _ _ => trivial) (fun _ _ => trivial) ended fine
  obtain rfl := Option.some.inj (found.symm.trans foundLeft)
  -- The draft had the picture that is found now, so another draft of the document has it too.
  have drawn := left.pictureUrl_eq drafted regular_of_mem_document? kept there
  have settled := left.settled drafted regular_of_mem_document? complete (there.trans drawn.symm)
  refine makeAll_reuses found settled same (fun call _ => ?_) later
  exact plan_eq_reuse complete fun _ => by rw [there, Option.isSome_some]

/-- The document of the inn. -/
def innDocument : Fields := Json.readFields (innRow none).payload

theorem value_innDocument (key : String) :
    Fields.value innDocument key = (Fields.value ((innDraft none).document 0) key).sorted :=
  Draft.value_readFields_payload (by decide +kernel) (by decide +kernel)

/-- The document of the inn is settled for every map that gets the same draft, and without a painter
there is nothing to do for it. -/
theorem settled_innDocument
    (drafted : Draft.combat? campaignId spec none (some innMap) none = some (innDraft none)) :
    Settled campaignId spec innDocument ∧
      CombatAction.plan (.of (some innDocument)) false = .reuse := by
  have regular : Json.Regular Json.maxDepth ((innDraft none).stamped 0) := by decide +kernel
  have writable : ((innDraft none).stamped 0).isWritable := by decide +kernel
  have complete : Document.hasCompleteGrid innDocument :=
    (Draft.hasCompleteGrid_readFields_payload regular writable).trans (by decide +kernel)
  have noPicture : Document.pictureUrl? innDocument = none :=
    Draft.pictureUrl?_readFields_payload regular writable
  have left : Left none (innDraft none) innDocument := .written writable
  refine ⟨left.settled drafted (by rintro _ ⟨⟩) complete noPicture, ?_⟩
  exact plan_eq_reuse complete (by rintro ⟨⟩)

theorem value_paintedRow {url : Option String} {key : String}
    (regular : Json.Regular Json.maxDepth ((paintedDraft url).stamped 0))
    (writable : ((paintedDraft url).stamped 0).isWritable) :
    Fields.value (Json.readFields (paintedRow url).payload) key =
      (Fields.value ((paintedDraft url).document 0) key).sorted :=
  Draft.value_readFields_payload regular writable

theorem keptInn_reused :
    ∃ (o : Outcome Float) (document : Fields),
      (keptCall.make [] ()).result = ⟨.ok o, [paintedRow (some "inn.webp")]⟩ ∧
      o.status ≠ .failed ∧
      Table.document? [paintedRow (some "inn.webp")] "isle_inn" = some document ∧
      Fields.value document "backgroundImageUrl" = .text "inn.webp" ∧
      Document.hasCompleteGrid document ∧
      ∀ done ∈ makeAll [innCall, paintedCall none] [paintedRow (some "inn.webp")] (),
        done.Reuses [paintedRow (some "inn.webp")] := by
  have value (key : String) :
      Fields.value (Json.readFields (paintedRow (some "inn.webp")).payload) key =
        (Fields.value ((paintedDraft (some "inn.webp")).document 0) key).sorted :=
    value_paintedRow (by decide +kernel) (by decide +kernel)
  obtain ⟨o, generated, run⟩ := make_keptCall
  have fine : o.status ≠ .failed := by simp [generated]
  have complete : Document.hasCompleteGrid
      (Json.readFields (paintedRow (some "inn.webp")).payload) := by
    rw [Document.hasCompleteGrid, value, value]
    decide +kernel
  have same : ∀ call ∈ [innCall, paintedCall none],
      call.campaignId = keptCall.campaignId ∧ call.spec = keptCall.spec := by
    simp [keptCall, paintedCall, innCall]
  have reused := reruns_reuse rfl (congrArg (·.result.outcome) run) fine
    ((congrArg (·.result.table.document? "isle_inn") run).trans (Table.document?_singleton _))
    (value "backgroundImageUrl") (by decide) complete same ()
  rw [run] at reused
  exact ⟨o, _, congrArg (·.result) run, fine, Table.document?_singleton _,
    value "backgroundImageUrl", complete, reused⟩

end BattleMaps
