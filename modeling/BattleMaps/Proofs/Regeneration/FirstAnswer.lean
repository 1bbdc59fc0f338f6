import BattleMaps.Proofs.Proposal.Replies
import BattleMaps.Proofs.Regeneration.Decisions

/-!
# The first answer

A model that answers with nothing but an acceptable object is understood, and is not asked again;
for a map that is new, the map that it proposes is what is stored.

## Main results

* `judge_write` — an answer that is an acceptable object is accepted
* `generate_eq_ok` — a model whose first answer is accepted is asked once
* `regenerateCombat_of_first_answer`, `regenerateCombat_of_first_picture` — what comes of a call for
  a new map, without pictures and with them
-/

namespace BattleMaps

open Json (Regular)

variable {σ κ : Type} [Amount κ] {services : Services σ κ} {config : Config κ} {spec : CombatSpec}
  {campaignId reply : String} {cost : κ} {m : BattleMap} {d : Draft} {world : σ}
  {table : Store.Table}

/-- An answer that is nothing but an acceptable object is accepted. -/
theorem judge_write {encoding : Encoding} {floor : Float} {v : Json}
    (regular : Regular Json.maxDepth v) (writable : v.isWritable)
    (plain : '\x60' ∉ Json.writeChars v)
    (accepted : v.sorted.fields?.bind (fun fields =>
      (Proposal.accept spec encoding floor fields).toOption) = some m) :
    judge spec encoding floor v.write = .ok m := by
  obtain ⟨fields, isObject, accepted⟩ := Option.bind_eq_some_iff.mp accepted
  have isObject : v.sorted = .object fields := by
    cases sorted : v.sorted <;> simp_all [Json.fields?]
  cases read : Proposal.accept spec encoding floor fields with
  | error e => simp [read, Except.toOption] at accepted
  | ok found =>
    simp only [read, Except.toOption, Option.some.injEq] at accepted
    rw [judge, Reply.read_write regular writable (Reply.fenced?_eq_none plain) isObject]
    simp only [read, accepted]
    rfl

/-- A model whose first answer is accepted is not asked again. -/
theorem generate_eq_ok (picture : Option Picture)
    (answers : ∀ request, services.complete request world = (.ok ⟨reply, cost⟩, world))
    (allowed : 0 < config.attempts)
    (accepted : judge spec (approach picture).encoding config.minWalkable reply = .ok m) :
    (generate services config spec picture).run world =
      ⟨.ok ⟨m, 0 + cost, approach picture, 1⟩,
        [.completed (gridRequest config spec picture) (.ok ⟨reply, cost⟩)], world⟩ := by
  obtain ⟨left, count⟩ : ∃ left, config.attempts.toNat = left + 1 :=
    ⟨config.attempts.toNat - 1, by omega⟩
  rw [generate, count, askRepeatedly]
  simp only [Work.run_bind, Work.run_ask, answers, accepted, Work.run_pure, List.append_nil]

/-- Whether a table has no row of a map, neither under the id of its document nor for the map. -/
structure Store.Table.Lacks (t : Store.Table) (campaignId mapId : String) : Prop where
  row : t.row? (documentId campaignId mapId) = none
  map : ∀ r ∈ t, ¬ (r.campaignId = campaignId ∧ r.mapId = mapId)

theorem Store.Table.Lacks.nil {mapId : String} : Lacks [] campaignId mapId :=
  ⟨rfl, fun _ absent => nomatch absent⟩

/-- The first row of a map is added. -/
theorem Store.Table.Lacks.put_eq_ok {row : Store.Row}
    (lacks : table.Lacks row.campaignId row.mapId) (known : Store.isMapType row.mapType)
    (id : row.id = documentId row.campaignId row.mapId) : table.put row = .ok (table ++ [row]) := by
  have single : (table.any fun r => r.campaignId == row.campaignId && r.mapId == row.mapId) =
      false := by
    simpa using lacks.map
  simp [Store.Table.put, Store.Table.insert, known, single, id, lacks.row]

omit [Amount κ] in
/-- A draft that can be written is added to a table that has no row of its map. -/
theorem run_conclude_of_lacks {url : Option String} {o : Outcome κ}
    (lacks : table.Lacks campaignId o.mapId)
    (writable : (d.stamped (services.now world)).isWritable) :
    (conclude services campaignId none d url o table).run world =
      ⟨⟨.ok { o with confidence := d.fields.value "confidence", pictureUrl := url,
                     written := true },
        table ++ [d.row campaignId o.mapId o.mapType (services.now world)]⟩, [], world⟩ := by
  have known : Store.isMapType o.mapType.name := by cases o.mapType <;> rfl
  exact run_conclude_of_put rfl writable (lacks.put_eq_ok known rfl)

/-- The first acceptable answer for a map that is new is stored. -/
theorem regenerateCombat_of_first_answer (lacks : table.Lacks campaignId spec.id)
    (answers : ∀ request, services.complete request world = (.ok ⟨reply, cost⟩, world))
    (noPainter : services.paintsBattleMaps = false) (allowed : 0 < config.attempts)
    (accepted : judge spec .extended config.minWalkable reply = .ok m)
    (drafted : Draft.combat? campaignId spec none (some m) none = some d)
    (writable : (d.stamped (services.now world)).isWritable) :
    ∃ o : Outcome κ, o.status = .generated ∧
      (regenerateCombat services config campaignId spec table).run world =
        ⟨⟨.ok o, table ++ [d.row campaignId spec.id .combat (services.now world)]⟩,
          [.completed (gridRequest config spec none) (.ok ⟨reply, cost⟩)], world⟩ := by
  have stored : table.document? (documentId campaignId spec.id) = none := by
    rw [Store.Table.document?, lacks.row, Option.map_none]
  have generated := generate_eq_ok none answers allowed accepted
  -- Nothing is stored and nobody paints, so the plan is to lay a grid out from prose, at once.
  refine ⟨{ (Made.start .generated CombatAction.layOut.name none : Made κ).outcome spec.id .combat
    with completionCost := 0 + (0 + cost), confidence := d.fields.value "confidence",
         written := true }, rfl, ?_⟩
  simp only [regenerateCombat, stored, noPainter, Artifacts.of, CombatAction.plan, makeCombat,
    layOut, Work.run_bind, generated, Work.run_pure, Made.payCompletions, Made.start, Made.outcome,
    Option.isSome_none, Bool.false_eq_true, if_false, drafted, Option.bind_none]
  rw [run_conclude_of_lacks lacks writable]
  simp only [List.append_nil]

/-- The first picture for the first map of a store is stored, with the first grid that is read off
it. -/
theorem regenerateCombat_of_first_picture {painting : Painting κ}
    {painter : Service σ PaintRequest (Painting κ)} {url : Option String} {uploads : List (Event κ)}
    (there : services.paint = some painter)
    (paints : ∀ request, painter request world = (.ok painting, world))
    (reads : services.readsPictures)
    (answers : ∀ request, services.complete request world = (.ok ⟨reply, cost⟩, world))
    (allowed : 0 < config.attempts)
    (accepted : judge spec .legacy config.minWalkable reply = .ok m)
    (kept : (keepPicture services config campaignId spec.id painting.picture).run world =
      ⟨.ok url, uploads, world⟩)
    (drafted : Draft.combat? campaignId spec none (some m) url = some d)
    (writable : (d.stamped (services.now world)).isWritable) :
    ∃ o : Outcome κ, o.status = .generated ∧
      (regenerateCombat services config campaignId spec []).run world =
        ⟨⟨.ok o, [d.row campaignId spec.id .combat (services.now world)]⟩,
          .painted ⟨Prompt.combatPicture spec, Prompt.unwanted⟩ (.ok painting) ::
            .completed (gridRequest config spec (some painting.picture)) (.ok ⟨reply, cost⟩) ::
            uploads, world⟩ := by
  have stored : Store.Table.document? [] (documentId campaignId spec.id) = none := rfl
  have generated := generate_eq_ok (some painting.picture) answers allowed accepted
  refine ⟨{ (Made.start .generated CombatAction.paintAndRead.name url : Made κ).outcome spec.id
    .combat with completionCost := 0 + (0 + cost), imageCost := 0 + painting.cost,
                 confidence := d.fields.value "confidence", pictureUrl := url,
                 written := true }, rfl, ?_⟩
  simp only [regenerateCombat, stored, Services.paintsBattleMaps, there, reads, Artifacts.of,
    CombatAction.plan, makeCombat, paintAndRead, paint, readPicture, keepFor, paints, kept,
    Work.run_bind, Work.run_ask, generated, Work.run_pure, Made.payCompletions, Made.payPicture,
    Made.start, Made.outcome, Option.isSome_none, Option.isSome_some, Bool.and_self, if_true,
    Bool.false_eq_true, if_false, drafted, run_conclude_of_lacks Store.Table.Lacks.nil writable,
    Option.bind_none,
    List.append_nil, List.cons_append, List.nil_append]

/-! ## An inn on an isle -/

/-- The map that the loosely spelled proposal for the inn becomes. -/
def innMap : BattleMap where
  grid := ⟨List.replicate 350 4 ++ List.replicate 49 1 ++ [0], .extended⟩
  regions :=
    [{ id := "hall", name := "Region 1", kind := .tavern, cells := [5, 0, 7, 399] },
     { id := "region_1", name := "Region 2", kind := .custom, cells := List.range 40 }]
  confidence := .high

/-- Services whose model always answers with the same text, and which neither paint nor keep
pictures. -/
def constantServices (reply : String) : Services Unit Float where
  complete _ world := (.ok ⟨reply, 0⟩, world)
  readsPictures := false
  paint := none
  blobs := none
  now _ := 0

/-- A call for the inn on the isle; the model answers with the loosely spelled proposal. -/
def innCall : Call Unit Float where
  services := constantServices Proposal.innProposal.write
  config := .standard
  campaignId := "isle"
  spec := .combat Proposal.innSpec

/-- The draft of the inn, with a picture or without. -/
def innDraft (url : Option String) : Draft where
  fields :=
    Draft.common "isle" "inn" .combat "The inn"
      ++ [("gridSize", .int gridSize), ("feetPerSquare", .int 5)]
      ++ Draft.newGrid innMap ++ Draft.picture url

/-- The row of the inn. -/
def innRow (url : Option String) : Store.Row := (innDraft url).row "isle" "inn" .combat 0

/-- The text of the proposal is read as the proposal. -/
theorem judge_write_innProposal {encoding : Encoding} {m : BattleMap}
    (accepted : Proposal.innProposal.sorted.fields?.bind (fun fields =>
      (Proposal.accept Proposal.innSpec encoding 0.3 fields).toOption) = some m) :
    judge Proposal.innSpec encoding 0.3 Proposal.innProposal.write = .ok m :=
  judge_write (by decide +kernel) (by decide +kernel) (by decide +kernel) accepted

theorem judge_innProposal :
    judge Proposal.innSpec .extended 0.3 Proposal.innProposal.write = .ok innMap :=
  judge_write_innProposal (by decide +kernel)

theorem make_innCall :
    ∃ o : Outcome Float, o.status = .generated ∧
      innCall.make [] () =
        ⟨⟨.ok o, [innRow none]⟩, [.completed (gridRequest .standard Proposal.innSpec none)
          (.ok ⟨Proposal.innProposal.write, 0⟩)], ()⟩ := by
  simp only [Call.make, innCall, regenerate_combat]
  exact regenerateCombat_of_first_answer .nil (fun _ => rfl) rfl (by decide)
    judge_innProposal rfl (by decide +kernel)

theorem table_innCall : (innCall.make [] ()).result.table = [innRow none] := by
  obtain ⟨o, -, run⟩ := make_innCall
  rw [run]

theorem document?_innRow (url : Option String) :
    Store.Table.document? [innRow url] (documentId "isle" "inn") =
      some (Json.readFields (innRow url).payload) :=
  Store.Table.document?_singleton (innRow url)

/-! ## The inn with a picture -/

/-- The map that the loosely spelled proposal becomes where only three kinds of tiles are known. -/
def innReading : BattleMap :=
  { innMap with grid := ⟨List.replicate 350 0 ++ List.replicate 49 1 ++ [0], .legacy⟩ }

/-- A picture with nothing to see. -/
def emptyPicture : Picture := ⟨[], "image/webp"⟩

/-- Services that always paint the same picture, read the same map off every picture, and keep
pictures at a place, if there is one. -/
def paintingServices (blobs : Option (BlobStore Unit)) : Services Unit Float :=
  { constantServices Proposal.innProposal.write with
    readsPictures := true
    paint := some fun _ world => (.ok ⟨emptyPicture, 0⟩, world)
    blobs := blobs }

/-- A place for pictures that gives every one of them the same address. -/
def blobsAt (url : String) : BlobStore Unit where
  upload _ world := (.ok url, world)
  download _ world := (.ok [], world)

/-- A call for the inn on the isle with services that paint. -/
def paintedCall (blobs : Option (BlobStore Unit)) : Call Unit Float :=
  { innCall with services := paintingServices blobs }

/-- A call for the inn on the isle with services that paint and keep pictures. -/
def keptCall : Call Unit Float := paintedCall (some (blobsAt "inn.webp"))

/-- The draft of the inn with the map that was read off the picture. -/
def paintedDraft (url : Option String) : Draft where
  fields :=
    Draft.common "isle" "inn" .combat "The inn"
      ++ [("gridSize", .int gridSize), ("feetPerSquare", .int 5)]
      ++ Draft.newGrid innReading ++ Draft.picture url

def paintedRow (url : Option String) : Store.Row := (paintedDraft url).row "isle" "inn" .combat 0

/-- What is asked of the services for the inn with a picture, before the picture is kept. -/
def paintedEvents : List (Event Float) :=
  [.painted ⟨Prompt.combatPicture Proposal.innSpec, Prompt.unwanted⟩ (.ok ⟨emptyPicture, 0⟩),
   .completed (gridRequest .standard Proposal.innSpec (some emptyPicture))
    (.ok ⟨Proposal.innProposal.write, 0⟩)]

theorem judge_innReading :
    judge Proposal.innSpec .legacy 0.3 Proposal.innProposal.write = .ok innReading :=
  judge_write_innProposal (by decide +kernel)

theorem make_paintedCall {blobs : Option (BlobStore Unit)} {url : Option String}
    {uploads : List (Event Float)}
    (kept : (keepPicture (paintingServices blobs) .standard "isle" "inn" emptyPicture).run () =
      ⟨.ok url, uploads, ()⟩)
    (writable : ((paintedDraft url).stamped 0).isWritable) :
    ∃ o : Outcome Float, o.status = .generated ∧
      (paintedCall blobs).make [] () =
        ⟨⟨.ok o, [paintedRow url]⟩, paintedEvents ++ uploads, ()⟩ := by
  simp only [Call.make, paintedCall, innCall, regenerate_combat]
  exact regenerateCombat_of_first_picture rfl (fun _ => rfl) rfl (fun _ => rfl) (by decide)
    judge_innReading kept rfl writable

/-- The place for pictures answers with its address. -/
theorem keepPicture_blobsAt (url : String) :
    (keepPicture (paintingServices (some (blobsAt url))) .standard "isle" "inn" emptyPicture).run
      () = ⟨.ok (some url), [.uploaded ⟨"campaign-maps/isle/inn.webp", emptyPicture⟩ (.ok url)],
        ()⟩ := by
  have path : PathPattern.expand Config.standard.pathPattern "isle" "inn" =
      .ok "campaign-maps/isle/inn.webp" := by decide +kernel
  simp only [keepPicture, paintingServices, path]
  rfl

theorem make_keptCall :
    ∃ o : Outcome Float, o.status = .generated ∧
      keptCall.make [] () =
        ⟨⟨.ok o, [paintedRow (some "inn.webp")]⟩, paintedEvents ++
          [.uploaded ⟨"campaign-maps/isle/inn.webp", emptyPicture⟩ (.ok "inn.webp")], ()⟩ :=
  make_paintedCall (keepPicture_blobsAt "inn.webp") (by decide +kernel)

end BattleMaps
