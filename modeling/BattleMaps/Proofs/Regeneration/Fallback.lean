import BattleMaps.Proofs.Regeneration.FirstAnswer

/-!
# Falling back on prose

When the way over a picture fails before a grid has been read, the call goes on as if nobody had
ever painted: it asks what a call without pictures would ask from there on, stores what that would
store, and reports what that would report, but for the name of the way and the costs. This holds
wherever the way fails, and whether or not prose fails as well.

## Main definitions

* `GivesUp` — the ways in which the way over a picture fails, with what was asked until then
* `Outcome.overFallback` — an outcome with the name of the fallback, at other costs

## Main results

* `exists_givesUp_iff` — the way over a picture is given up in exactly these ways
* `regenerateCombat_of_givesUp` — a call that falls back is a call without pictures
-/

namespace BattleMaps

open Store (Table)

variable {σ κ : Type} [Amount κ] {services prose : Services σ κ} {config : Config κ}
  {spec : CombatSpec} {campaignId : String} {table : Table} {world after : σ}
  {events : List (Event κ)} {url : Option String} {made made' : Made κ}

/-! ## Giving up -/

/-- How the way over a picture can fail before a grid has been read, given the address of the stored
picture, if there is one: the events until then, and the world after them. -/
inductive GivesUp (services : Services σ κ) (config : Config κ) (spec : CombatSpec) (world : σ) :
    Option String → List (Event κ) → σ → Prop where
  -- There is no place to fetch the stored picture from.
  | noBlobStore {url : String} (nowhere : services.blobs = none) :
      GivesUp services config spec world (some url) [] world
  | fetching {url : String} {blobs : BlobStore σ} {fault : Fault} {after : σ}
      (place : services.blobs = some blobs)
      (refused : blobs.download url world = (.error fault, after)) :
      GivesUp services config spec world (some url) [.downloaded url (.error fault)] after
  -- No grid can be read off the stored picture.
  | readingStored {url : String} {blobs : BlobStore σ} {bytes : Bytes} {between after : σ}
      {asked : List (Event κ)} {e : Exhausted κ} (place : services.blobs = some blobs)
      (fetched : blobs.download url world = (.ok bytes, between))
      (exhausted : (generate services config spec (some ⟨bytes, config.pictureType⟩)).run between =
        ⟨.error e, asked, after⟩) :
      GivesUp services config spec world (some url) (.downloaded url (.ok bytes) :: asked) after
  | painting {painter : Service σ PaintRequest (Painting κ)} {fault : Fault} {after : σ}
      (somebody : services.paint = some painter)
      (refused : painter ⟨Prompt.combatPicture spec, Prompt.unwanted⟩ world =
        (.error fault, after)) :
      GivesUp services config spec world none
        [.painted ⟨Prompt.combatPicture spec, Prompt.unwanted⟩ (.error fault)] after
  -- No grid can be read off the new picture.
  | readingPainted {painter : Service σ PaintRequest (Painting κ)} {painting : Painting κ}
      {between after : σ} {asked : List (Event κ)} {e : Exhausted κ}
      (somebody : services.paint = some painter)
      (painted : painter ⟨Prompt.combatPicture spec, Prompt.unwanted⟩ world =
        (.ok painting, between))
      (exhausted : (generate services config spec (some painting.picture)).run between =
        ⟨.error e, asked, after⟩) :
      GivesUp services config spec world none
        (.painted ⟨Prompt.combatPicture spec, Prompt.unwanted⟩ (.ok painting) :: asked) after

/-- The action that goes over a picture: the stored one, if there is one, or else a new one. -/
def overPicture : Option String → CombatAction
  | some _ => .readStored
  | none => .paintAndRead

omit [Amount κ] in
/-- What is planned for a map without a complete grid. -/
theorem plan_of_incomplete {stored : Option Fields}
    (incomplete : stored.any Document.hasCompleteGrid = false) (paints : Bool) :
    CombatAction.plan (.of stored) paints =
      if paints then overPicture (stored.bind Document.pictureUrl?) else .layOut := by
  cases stored with
  | none => cases paints <;> rfl
  | some document =>
    rw [Option.any_some] at incomplete
    rw [Artifacts.of, incomplete, Option.bind_some]
    cases Document.pictureUrl? document <;> cases paints <;> rfl

/-- Whether making has given up the way over a picture, and has come to nothing so far. -/
structure Made.Stranded (url : Option String) (made : Made κ) : Prop where
  status_eq : made.status = .generated
  path_eq : made.path = fallbackPath
  gaveUp : made.setback.isSome
  grid_eq : made.grid = none
  url_eq : made.url = url
  error_eq : made.error = none

/-- Making that gives up the way over a picture. -/
def Made.giveUp (setback : Setback κ) (made : Made κ) : Made κ :=
  { made with path := fallbackPath, setback := some setback }

theorem fallBack_eq (setback : Setback κ) :
    fallBack services config spec made setback =
      layOut services config spec (made.giveUp setback) := rfl

/-- What making comes to when the answer to a request for a grid is in. -/
def Made.laidOut (made : Made κ) : Except (Exhausted κ) (Generated κ) → Made κ
  | .ok generated => { made.payCompletions generated.cost with grid := some generated.map }
  | .error e => (made.payCompletions e.cost).fail e.message

theorem run_layOut (world : σ) :
    (layOut services config spec made).run world =
      ⟨made.laidOut ((generate services config spec none).run world).result,
        ((generate services config spec none).run world).events,
        ((generate services config spec none).run world).world⟩ := by
  rw [layOut, Work.run_bind]
  cases ((generate services config spec none).run world).result <;>
    simp only [Work.run_pure, List.append_nil, Made.laidOut]

theorem Made.setback_laidOut (answer : Except (Exhausted κ) (Generated κ)) :
    (made.laidOut answer).setback = made.setback := by
  cases answer <;> rfl

theorem Made.path_laidOut {path : String} (h : made.path = path)
    (answer : Except (Exhausted κ) (Generated κ)) : (made.laidOut answer).path = path := by
  cases answer <;> exact h

/-- Once the way over a picture has been given up, the grid is laid out from prose. -/
theorem GivesUp.run_makeCombat (h : GivesUp services config spec world url events after)
    (reads : services.readsPictures) (campaignId : String) {action : CombatAction}
    (planned : action = overPicture url) :
    ∃ made : Made κ, made.Stranded url ∧
      (makeCombat services config campaignId spec url action).run world =
        let answer := (generate services config spec none).run after
        ⟨.ok (made.laidOut answer.result), events ++ answer.events, answer.world⟩ := by
  subst planned
  cases h with
  | @noBlobStore url nowhere =>
    refine ⟨(Made.start .generated CombatAction.readStored.name (some url)).giveUp .noBlobStore,
      ⟨rfl, rfl, rfl, rfl, rfl, rfl⟩, ?_⟩
    simp only [overPicture, makeCombat, readStored, nowhere, fallBack_eq, run_layOut, Work.run_bind,
      Work.run_pure, List.append_nil, List.nil_append]
  | @fetching url _ fault _ place refused =>
    refine ⟨(Made.start .generated CombatAction.readStored.name (some url)).giveUp
      (.fetching fault), ⟨rfl, rfl, rfl, rfl, rfl, rfl⟩, ?_⟩
    simp only [overPicture, makeCombat, readStored, place, Made.start, fallBack_eq, run_layOut,
      Work.run_bind, Work.run_ask, refused, Work.run_pure, List.append_nil]
  | @readingStored url _ _ _ _ _ e place fetched exhausted =>
    refine ⟨((Made.start .generated CombatAction.readStored.name (some url)).payCompletions
      e.cost).giveUp (.reading e), ⟨rfl, rfl, rfl, rfl, rfl, rfl⟩, ?_⟩
    simp only [overPicture, makeCombat, readStored, place, Made.start, readPicture, reads, if_true,
      fallBack_eq, run_layOut, Work.run_bind, Work.run_ask, fetched, exhausted, Work.run_pure,
      List.append_nil, List.cons_append, List.nil_append]
  | @painting _ fault _ somebody refused =>
    refine ⟨(Made.start .generated CombatAction.paintAndRead.name none).giveUp (.painting fault),
      ⟨rfl, rfl, rfl, rfl, rfl, rfl⟩, ?_⟩
    simp only [overPicture, makeCombat, paintAndRead, paint, somebody, fallBack_eq, run_layOut,
      Work.run_bind, Work.run_ask, refused, Work.run_pure, List.append_nil]
  | @readingPainted _ painting _ _ _ e somebody painted exhausted =>
    refine ⟨(((Made.start .generated CombatAction.paintAndRead.name none).payPicture
      painting.cost).payCompletions e.cost).giveUp (.reading e),
      ⟨rfl, rfl, rfl, rfl, rfl, rfl⟩, ?_⟩
    -- The picture is not kept, because the setback is still noted after the grid was laid out.
    simp only [overPicture, makeCombat, paintAndRead, paint, somebody, readPicture, reads, if_true,
      fallBack_eq, run_layOut, Work.run_bind, Work.run_ask, painted, exhausted,
      Made.setback_laidOut, Made.giveUp, Option.isSome_some, Work.run_pure, List.append_nil,
      List.cons_append, List.nil_append]

omit [Amount κ] in
theorem keepFor_setback {mapId : String} {picture : Picture} :
    (keepFor services config campaignId mapId picture made).Yields (fun _ => True)
      fun result => ∀ kept, result = .ok kept → kept.setback = made.setback := by
  refine .bind .any fun answer _ => ?_
  cases answer with
  | ok url =>
    refine .pure ?_
    rintro _ ⟨⟩
    rfl
  | error fault => exact .pure fun _ absent => nomatch absent

/-- The way over a picture is given up in exactly these ways. -/
theorem exists_givesUp_iff (reads : services.readsPictures) :
    (∃ events after, GivesUp services config spec world url events after) ↔
      ∃ made, ((makeCombat services config campaignId spec url (overPicture url)).run
        world).result = .ok made ∧ made.setback.isSome := by
  constructor
  · rintro ⟨events, after, givesUp⟩
    obtain ⟨made, stranded, ran⟩ := givesUp.run_makeCombat reads campaignId rfl
    refine ⟨_, congrArg (·.result) ran, ?_⟩
    rw [Made.setback_laidOut]
    exact stranded.gaveUp
  rintro ⟨made, ran, gaveUp⟩
  cases url with
  | some url =>
    cases place : services.blobs with
    | none => exact ⟨_, _, .noBlobStore place⟩
    | some blobs =>
      rcases fetched : blobs.download url world with ⟨fault | bytes, between⟩
      · exact ⟨_, _, .fetching place fetched⟩
      · rcases read : (generate services config spec (some ⟨bytes, config.pictureType⟩)).run
          between with ⟨e | generated, asked, after⟩
        · exact ⟨_, _, .readingStored place fetched read⟩
        · -- A grid that was read leaves no setback.
          simp only [overPicture, makeCombat, readStored, place, Made.start, readPicture, reads,
            if_true, Work.run_bind, Work.run_ask, fetched, read, Work.run_pure] at ran
          obtain rfl := Except.ok.inj ran
          contradiction
  | none =>
    cases somebody : services.paint with
    | none =>
      simp only [overPicture, makeCombat, paintAndRead, paint, somebody, Work.run_pure] at ran
      contradiction
    | some painter =>
      rcases painted : painter ⟨Prompt.combatPicture spec, Prompt.unwanted⟩ world with
        ⟨fault | painting, between⟩
      · exact ⟨_, _, .painting somebody painted⟩
      · rcases read : (generate services config spec (some painting.picture)).run between with
          ⟨e | generated, asked, after⟩
        · exact ⟨_, _, .readingPainted somebody painted read⟩
        · simp only [overPicture, makeCombat, paintAndRead, paint, somebody, Made.start,
            Made.payPicture, Made.payCompletions, readPicture, reads, if_true, Work.run_bind,
            Work.run_ask, painted, read, Work.run_pure, Option.isSome_none, Bool.false_eq_true,
            if_false] at ran
          have kept := keepFor_setback _ (fun _ _ => trivial) made ran
          rw [kept] at gaveUp
          contradiction

/-! ## Without pictures -/

theorem askRepeatedly_congr (sameModel : prose.complete = services.complete)
    (picture : Option Picture) (left asked : Nat) (cost : κ) (lastError : String) :
    askRepeatedly prose config spec picture left asked cost lastError =
      askRepeatedly services config spec picture left asked cost lastError := by
  induction left generalizing asked cost lastError with
  | zero => rfl
  | succ left ih => simp only [askRepeatedly, sameModel, ih]

/-- Asking for a grid depends on the services only in what the model answers. -/
theorem generate_congr (sameModel : prose.complete = services.complete)
    (picture : Option Picture) :
    generate prose config spec picture = generate services config spec picture :=
  askRepeatedly_congr sameModel _ _ _ _ _

theorem run_makeCombat_of_layOut {action : CombatAction} (planned : action = .layOut)
    (services : Services σ κ) (config : Config κ) (spec : CombatSpec) (campaignId : String)
    (url : Option String) (world : σ) :
    (makeCombat services config campaignId spec url action).run world =
      let answer := (generate services config spec none).run world
      ⟨.ok ((Made.start .generated CombatAction.layOut.name url).laidOut answer.result),
        answer.events, answer.world⟩ := by
  subst planned
  simp only [makeCombat, Work.run_bind, run_layOut, Work.run_pure, List.append_nil]

/-- Whether two ways have come to the same, but for their names and the costs. -/
structure Made.Matches (made made' : Made κ) : Prop where
  status_eq : made.status = made'.status
  grid_eq : made.grid = made'.grid
  url_eq : made.url = made'.url
  error_eq : made.error = made'.error

theorem Made.Matches.laidOut (h : made.Matches made')
    (answer : Except (Exhausted κ) (Generated κ)) :
    (made.laidOut answer).Matches (made'.laidOut answer) := by
  cases answer with
  | ok generated => exact ⟨h.status_eq, rfl, h.url_eq, h.error_eq⟩
  | error e => exact ⟨rfl, h.grid_eq, h.url_eq, rfl⟩

/-- An outcome with the name of the fallback, at other costs. -/
def Outcome.overFallback (completionCost imageCost : κ) (o : Outcome κ) : Outcome κ :=
  { o with path := some fallbackPath, completionCost := completionCost, imageCost := imageCost }

/-- Whatever is reported of a way, the fallback reports the same under its own name. -/
def Regenerated.overFallback (completionCost imageCost : κ) (r : Regenerated κ) : Regenerated κ :=
  ⟨r.outcome.map (Outcome.overFallback completionCost imageCost), r.table⟩

omit [Amount κ] in
theorem conclude_overFallback {stored : Option Fields} {d : Draft} {o : Outcome κ}
    (completionCost imageCost : κ) (sameClock : prose.now = services.now) (world : σ) :
    (conclude services campaignId stored d url (o.overFallback completionCost imageCost) table).run
        world =
      let done := (conclude prose campaignId stored d url o table).run world
      ⟨done.result.overFallback completionCost imageCost, done.events, done.world⟩ := by
  unfold conclude
  dsimp only
  split_ifs
  · rfl
  · rw [Work.run_bind, Work.run_bind, Work.run_peek, Work.run_peek, sameClock]
    dsimp only
    split_ifs
    · -- Both go by the campaign and the map alone, so they are stored or refused together.
      dsimp only [Outcome.overFallback]
      rcases Store.save table (d.row campaignId o.mapId o.mapType (services.now world)) with
        ⟨refused | ⟨⟩, later⟩ <;> rfl
    · rfl

/-- What becomes of a battle map once its making has ended. -/
def finishCombat (services : Services σ κ) (campaignId : String) (spec : CombatSpec)
    (table : Table) (made : Made κ) : Work σ κ (Regenerated κ) :=
  if made.error.isSome then pure ⟨.ok (made.outcome spec.id .combat), table⟩
  else
    match Draft.combat? campaignId spec (table.document? (documentId campaignId spec.id)) made.grid
      made.url with
    | none => pure ⟨.error (.noGrid spec.id), table⟩
    | some draft =>
      conclude services campaignId (table.document? (documentId campaignId spec.id)) draft made.url
        (made.outcome spec.id .combat) table

theorem run_regenerateCombat
    (ran : (makeCombat services config campaignId spec
      ((table.document? (documentId campaignId spec.id)).bind Document.pictureUrl?)
      (.plan (.of (table.document? (documentId campaignId spec.id)))
        services.paintsBattleMaps)).run world = ⟨.ok made, events, after⟩) :
    (regenerateCombat services config campaignId spec table).run world =
      let done := (finishCombat services campaignId spec table made).run after
      ⟨done.result, events ++ done.events, done.world⟩ := by
  rw [regenerateCombat, Work.run_bind, ran]
  rfl

omit [Amount κ] in
theorem finishCombat_overFallback (sameClock : prose.now = services.now)
    (same : made.Matches made') (byFallback : made.path = fallbackPath) (world : σ) :
    (finishCombat services campaignId spec table made).run world =
      let done := (finishCombat prose campaignId spec table made').run world
      ⟨done.result.overFallback made.completionCost made.imageCost, done.events, done.world⟩ := by
  have outcome : made.outcome spec.id .combat =
      (made'.outcome spec.id .combat).overFallback made.completionCost made.imageCost := by
    rw [Made.outcome, Made.outcome, Outcome.overFallback, same.status_eq, byFallback, same.error_eq]
  rw [finishCombat, finishCombat, outcome, same.error_eq, same.grid_eq, same.url_eq]
  split_ifs
  · rfl
  · split
    · rfl
    · exact conclude_overFallback _ _ sameClock world

/-- Wherever the way over a picture fails before a grid has been read, a call for a map without a
complete grid does, from there on, what a call without pictures does from there, and comes to the
same: the same table, and the same breakdown or the same outcome but for the name of the way and
the costs. -/
theorem regenerateCombat_of_givesUp (paints : services.paintsBattleMaps)
    (plain : prose.paintsBattleMaps = false) (sameModel : prose.complete = services.complete)
    (sameClock : prose.now = services.now)
    (incomplete : (table.document? (documentId campaignId spec.id)).any Document.hasCompleteGrid =
      false)
    (givesUp : GivesUp services config spec world
      ((table.document? (documentId campaignId spec.id)).bind Document.pictureUrl?) events after) :
    ∃ completionCost imageCost,
      (regenerateCombat services config campaignId spec table).run world =
        let done := (regenerateCombat prose config campaignId spec table).run after
        ⟨done.result.overFallback completionCost imageCost, events ++ done.events, done.world⟩ := by
  -- What is planned is the way over a picture with painters, and prose at once without.
  have planned := plan_of_incomplete incomplete services.paintsBattleMaps
  have plannedProse := plan_of_incomplete incomplete prose.paintsBattleMaps
  rw [paints, if_pos rfl, ← paints] at planned
  rw [plain, if_neg Bool.false_ne_true, ← plain] at plannedProse
  obtain ⟨made, stranded, ran⟩ :=
    givesUp.run_makeCombat (Bool.and_eq_true_iff.mp paints).2 campaignId planned
  have proseRan := run_makeCombat_of_layOut plannedProse prose config spec campaignId
    ((table.document? (documentId campaignId spec.id)).bind Document.pictureUrl?) after
  -- From there on both ask the same model from the same world, and so they get the same answer.
  rw [generate_congr sameModel] at proseRan
  rw [run_regenerateCombat ran, run_regenerateCombat proseRan]
  generalize (generate services config spec none).run after = answer
  have same : (made.laidOut answer.result).Matches ((Made.start .generated CombatAction.layOut.name
      ((table.document? (documentId campaignId spec.id)).bind Document.pictureUrl?)).laidOut
        answer.result) :=
    Made.Matches.laidOut
      ⟨stranded.status_eq, stranded.grid_eq, stranded.url_eq, stranded.error_eq⟩ _
  refine ⟨(made.laidOut answer.result).completionCost, (made.laidOut answer.result).imageCost, ?_⟩
  dsimp only
  rw [finishCombat_overFallback sameClock same (Made.path_laidOut stranded.path_eq _),
    List.append_assoc]

/-- Services without pictures whose model gives prepared answers, one after the other. -/
def preparedServices : Services (List String) Float where
  complete
    | _, [] => (.error ⟨"Exhausted", "no answer"⟩, [])
    | _, answer :: answers => (.ok ⟨answer, 0⟩, answers)
  readsPictures := false
  paint := none
  blobs := none
  now _ := 0

/-- The same with a painter, and with a model that reads pictures. -/
def preparedPainters : Services (List String) Float :=
  { preparedServices with
    readsPictures := true
    paint := some fun _ answers => (.ok ⟨emptyPicture, 0⟩, answers) }

/-- Settings that allow to ask once only. -/
def onlyOnce : Config Float := { Config.standard with retries := 0 }

/-- The first answer is no map that could be read off the picture, and so the second one is laid out
from prose. -/
theorem inn_falls_back :
    ∃ asked completionCost imageCost,
      (regenerateCombat preparedPainters onlyOnce "isle" Proposal.innSpec []).run
          ["a picture of an inn", Proposal.innProposal.write] =
        let done := (regenerateCombat preparedServices onlyOnce "isle" Proposal.innSpec []).run
          [Proposal.innProposal.write]
        ⟨done.result.overFallback completionCost imageCost, asked ++ done.events, done.world⟩ := by
  have rejected : (judge Proposal.innSpec .legacy 0.3 "a picture of an inn").isOk = false := by
    decide +kernel
  cases judged : judge Proposal.innSpec .legacy 0.3 "a picture of an inn" with
  | ok m =>
    rw [judged] at rejected
    contradiction
  | error why =>
    have exhausted : (generate preparedPainters onlyOnce Proposal.innSpec (some emptyPicture)).run
        ["a picture of an inn", Proposal.innProposal.write] =
        ⟨.error ⟨"image_to_grid", 1, why, 0 + 0⟩,
          [.completed (gridRequest onlyOnce Proposal.innSpec (some emptyPicture))
            (.ok ⟨"a picture of an inn", 0⟩)], [Proposal.innProposal.write]⟩ := by
      have count : onlyOnce.attempts.toNat = 1 := by decide
      have judged : judge Proposal.innSpec (approach (some emptyPicture)).encoding
          onlyOnce.minWalkable "a picture of an inn" = .error why := judged
      rw [generate, count, askRepeatedly]
      simp only [Work.run_bind, Work.run_ask, preparedPainters, preparedServices, judged,
        askRepeatedly, Work.run_pure, List.append_nil]
      rfl
    exact ⟨_, regenerateCombat_of_givesUp rfl rfl rfl rfl rfl (.readingPainted rfl rfl exhausted)⟩

end BattleMaps
