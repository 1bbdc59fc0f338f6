import BattleMaps.Proofs.Regeneration.Convergence
import BattleMaps.Proofs.Regeneration.Decisions
import BattleMaps.Proofs.Regeneration.Isolation
import BattleMaps.Proofs.Regeneration.Overviews
import BattleMaps.Proofs.Run.Spending

/-!
# What a run is expected to cost

A preview estimates what a run will cost where nothing is stored yet, every service charges what is
expected of it, and the first answer for every battle map becomes a map. Each map then has a price
that follows from the services at hand, and a run is charged exactly the prices of its maps.

The estimate adds up the same prices but for one kind of services: where pictures are painted and
nobody reads them, an overview is painted all the same, and the estimate counts it as free.

## Main definitions

* `Event.AsExpected` — whether a service has done what it was asked, at the cost that is expected
* `Work.Spends` — a contract about what work costs if everything goes as expected
* `Spec.price` — what a map costs that nothing is stored for
* `unforeseen`, `unasked` — what an estimate misses, and what it expects in vain

## Main results

* `Spec.make_spends` — a map is charged its price
* `totalCharges_makeEach` — so are maps that are made one after the other
* `run_costs_estimate` — a run costs what its preview estimates, up to what the estimate misses
* `overviewOnly_costs_more` — a run that costs more than its preview has estimated
-/

namespace BattleMaps

open Work (Traces)
open Store (Table)

variable {σ α β ρ : Type}

/-! ## Expectations -/

/-- What an answer is expected to cost. -/
def Config.answerCost (config : Config ℚ) : Approach → ℚ
  | .layout => config.layoutCost
  | .reading => config.readingCost

/-- What a service is expected to charge. -/
def Event.expectedCharge (config : Config ℚ) : Event ℚ → ℚ
  | .completed request _ => config.answerCost (approach request.picture)
  | .painted .. => config.paintingCost
  | _ => 0

/-- Whether a service has charged what is expected of it, and for a battle map has also done what it
was asked. -/
structure Event.AsExpected (config : Config ℚ) (spec : Spec) (e : Event ℚ) : Prop where
  charge : totalCharges [e] = e.expectedCharge config
  succeeds : ∀ map, spec = .combat map → e.Succeeds config map

namespace Work

variable {event : Event ℚ → Prop} {amount rest : ℚ} {post : α → Prop} {last : β → Prop}
  {work : Work σ ℚ α} {next : α → Work σ ℚ β}

/-- Whether a piece of work costs an amount and has a result of a kind, from whatever state of the
world, if all events that it causes are of a kind. -/
def Spends (work : Work σ ℚ α) (event : Event ℚ → Prop) (amount : ℚ) (post : α → Prop) : Prop :=
  work.Traces fun a events => (∀ e ∈ events, event e) → totalCharges events = amount ∧ post a

namespace Spends

theorem pure {a : α} (h : post a) : Spends (Pure.pure a : Work σ ℚ α) event 0 post :=
  fun _ _ => ⟨totalCharges_nil, h⟩

/-- One piece of work after another costs what both cost. -/
theorem bind (first : work.Spends event amount post)
    (second : ∀ a, post a → (next a).Spends event rest last) :
    (work >>= next).Spends event (amount + rest) last := by
  refine Traces.bind first fun a before spent world all => ?_
  obtain ⟨early, late⟩ := List.forall_mem_append.mp all
  obtain ⟨costs, holds⟩ := spent early
  obtain ⟨costs', holds'⟩ := second a holds world late
  rw [totalCharges_append, costs, costs']
  exact ⟨rfl, holds'⟩

theorem ask {service : Service σ ρ α} {note : ρ → Except Fault α → Event ℚ} {request : ρ}
    (charge : ∀ answer, event (note request answer) →
      totalCharges [note request answer] = amount) :
    (Work.ask service note request).Spends event amount fun answer =>
      event (note request answer) := by
  refine Traces.ask.mono fun answer events noted all => ?_
  subst noted
  have asked := all _ (List.mem_singleton_self _)
  exact ⟨charge answer asked, asked⟩

theorem of_eq (h : work.Spends event amount post) (same : amount = rest) :
    work.Spends event rest post := same ▸ h

/-- What costs nothing adds nothing to what was done before. -/
theorem bind_free (first : work.Spends event amount post)
    (second : ∀ a, post a → (next a).Spends event 0 last) :
    (work >>= next).Spends event amount last :=
  (first.bind second).of_eq (add_zero amount)

end Spends

end Work

/-! ## Maps that nothing is stored for -/

variable {services : Services σ ℚ} {config : Config ℚ} {campaignId mapId : String}
  {spec : CombatSpec} {picture : Option Picture} {made : Made ℚ}

/-- What it costs to ask for a grid: one answer, unless nothing may be asked at all. -/
def Config.askingCost (config : Config ℚ) (a : Approach) : ℚ :=
  if 0 < config.attempts then config.answerCost a else 0

theorem generate_costs :
    (generate services config spec picture).Spends (Event.AsExpected config (.combat spec))
      (config.askingCost (approach picture)) fun result => result.isOk ↔ 0 < config.attempts := by
  rw [generate, Config.askingCost]
  cases count : config.attempts.toNat with
  | zero =>
    have never : ¬ 0 < config.attempts := by omega
    rw [askRepeatedly, if_neg never]
    exact .pure (by simp [never, Except.isOk, Except.toBool])
  | succ left =>
    -- The first answer becomes a map, so there is no second round.
    have may : 0 < config.attempts := by omega
    rw [askRepeatedly, if_pos may]
    have first : ∀ answer, Event.AsExpected config (.combat spec)
        (.completed (gridRequest config spec picture) answer) →
          totalCharges [.completed (gridRequest config spec picture) answer] =
            config.answerCost (approach picture) := by
      intro answer expected
      rw [expected.charge, Event.expectedCharge, picture_gridRequest]
    refine .bind_free (.ask first) fun answer expected => ?_
    obtain ⟨reply, m, rfl, accepted⟩ := expected.succeeds spec rfl
    rw [picture_gridRequest] at accepted
    dsimp only
    rw [accepted]
    exact .pure (by simp [may, Except.isOk, Except.toBool])

theorem layOut_costs :
    (layOut services config spec made).Spends (Event.AsExpected config (.combat spec))
      (config.askingCost .layout) fun _ => True := by
  refine .bind_free generate_costs fun answer _ => ?_
  cases answer <;> exact .pure trivial

theorem readPicture_costs {picture : Picture} (reads : services.readsPictures) :
    (readPicture services config spec picture made).Spends (Event.AsExpected config (.combat spec))
      (config.askingCost .reading) fun _ => True := by
  rw [readPicture, if_pos reads]
  refine .bind_free generate_costs fun answer answered => ?_
  cases answer with
  | ok generated => exact .pure trivial
  | error e =>
    -- Reading fails only where nothing may be asked, and then prose costs nothing either.
    have never : ¬ 0 < config.attempts := by
      intro may
      exact absurd (answered.mpr may) Bool.false_ne_true
    exact layOut_costs.of_eq (if_neg never)

theorem keepFor_costs {picture : Picture} {spec : Spec} :
    (keepFor services config campaignId mapId picture made).Spends (Event.AsExpected config spec) 0
      fun _ => True := by
  have kept : (keepPicture services config campaignId mapId picture).Spends
      (Event.AsExpected config spec) 0 fun _ => True := by
    unfold keepPicture
    split
    · exact .pure trivial
    · split
      · exact .pure trivial
      · exact .bind_free (.ask fun _ expected => expected.charge) fun _ _ => .pure trivial
  refine .bind_free kept fun answer _ => ?_
  cases answer <;> exact .pure trivial

/-- A picture is charged as soon as it is painted. -/
theorem paint_costs {spec : Spec} {prompt : String} {rest : ℚ}
    {next : Except Fault (Painting ℚ) → Work σ ℚ (Except Breakdown (Made ℚ))}
    (paints : services.paint.isSome)
    (after : ∀ request answer, Event.AsExpected config spec (.painted request answer) →
      (next answer).Spends (Event.AsExpected config spec) rest fun _ => True) :
    (paint services prompt next).Spends (Event.AsExpected config spec) (config.paintingCost + rest)
      fun _ => True := by
  obtain ⟨painter, asked⟩ := exists_paint_eq paints
  rw [asked]
  exact .bind (.ask fun answer expected => expected.charge) fun answer expected =>
    after _ answer expected

theorem paintAndRead_costs (paints : services.paintsBattleMaps) :
    (paintAndRead services config campaignId spec made).Spends
      (Event.AsExpected config (.combat spec))
      (config.paintingCost + config.askingCost .reading) fun _ => True := by
  obtain ⟨there, reads⟩ := Services.paintsBattleMaps_iff.mp paints
  refine paint_costs there fun request answer expected => ?_
  cases answer with
  | error fault => exact absurd (expected.succeeds spec rfl) Bool.false_ne_true
  | ok painting =>
    refine .bind_free (readPicture_costs reads) fun read _ => ?_
    split_ifs
    · exact .pure trivial
    · exact keepFor_costs

/-- What a map costs that nothing is stored for, if everything goes as expected. -/
def Spec.price (services : Services σ ℚ) (config : Config ℚ) : Spec → ℚ
  | .combat _ =>
    if services.paintsBattleMaps then config.paintingCost + config.askingCost .reading
    else config.askingCost .layout
  | .exploration _ => if services.paintsOverviews then config.paintingCost else 0

/-- A map that nothing is stored for costs its price. -/
theorem Spec.make_spends (spec : Spec) :
    (spec.make services config campaignId none).Spends (Event.AsExpected config spec)
      (spec.price services config) fun _ => True := by
  cases spec with
  | combat spec =>
    rw [Spec.make, Spec.price]
    by_cases paints : services.paintsBattleMaps
    · rw [paints, if_pos rfl]
      exact paintAndRead_costs paints
    · rw [Bool.eq_false_iff.mpr paints, if_neg Bool.false_ne_true]
      exact .bind_free layOut_costs fun made _ => .pure trivial
  | exploration places =>
    rw [Spec.make, Spec.price]
    by_cases paints : services.paintsOverviews
    · rw [paints, if_pos rfl]
      refine (paint_costs paints fun request answer _ => ?_).of_eq (add_zero _)
      cases answer with
      | error fault => exact .pure trivial
      | ok painting => exact keepFor_costs
    · rw [Bool.eq_false_iff.mpr paints, if_neg Bool.false_ne_true]
      exact .pure trivial

/-! ## One map after the other -/

/-- Whether everything goes as expected for a map. -/
def Done.AsExpected (config : Config ℚ) (spec : Spec) (done : Done σ ℚ α) : Prop :=
  ∀ e ∈ done.events, e.AsExpected config spec

/-- Maps that nothing is stored for cost their prices, one after the other. -/
theorem totalCharges_makeEach {specs : List Spec} {table : Table} {world : σ}
    (distinct : (specs.map Spec.id).Nodup)
    (fresh : ∀ spec ∈ specs, storedFor campaignId spec table = none)
    (expected : specs.Forall₂ (Done.AsExpected config)
      (makeEach (regenerate services config campaignId) specs table world)) :
    totalCharges ((makeEach (regenerate services config campaignId) specs table world).flatMap
      (·.events)) = (specs.map (Spec.price services config)).sum := by
  induction specs generalizing table world with
  | nil => exact totalCharges_nil
  | cons spec specs ih =>
    obtain ⟨alone, distinct⟩ := List.nodup_cons.mp distinct
    obtain ⟨nothing, fresh⟩ := List.forall_mem_cons.mp fresh
    rw [makeEach, List.forall₂_cons] at expected
    -- The first call leaves nothing under the ids of the other maps.
    have later : ∀ other ∈ specs, storedFor campaignId other
        ((regenerate services config campaignId spec table).run world).result.table = none := by
      intro other found
      rw [storedFor, document?_regenerate_of_ne]
      · exact fresh other found
      · intro same
        exact alone (documentId_inj.mp same ▸ List.mem_map_of_mem found)
    have spends : (spec.make services config campaignId none).Spends _ _ fun _ => True :=
      Spec.make_spends spec
    have first := expected.1
    rw [Done.AsExpected, events_regenerate, nothing] at first
    rw [makeEach, List.flatMap_cons, totalCharges_append, ih distinct later expected.2,
      events_regenerate, nothing, (spends world first).1, List.map_cons, List.sum_cons]

/-! ## Estimates -/

/-- What an estimate misses: overviews that are painted although battle maps cannot be. -/
def unforeseen (services : Services σ ℚ) (config : Config ℚ) (s : Selection) : ℚ :=
  if services.paintsOverviews && !services.paintsBattleMaps then
    config.paintingCost * s.exploration.length
  else 0

/-- What an estimate expects in vain: answers, where nothing may be asked. -/
def unasked (services : Services σ ℚ) (config : Config ℚ) (s : Selection) : ℚ :=
  if 0 < config.attempts then 0
  else config.answerCost (if services.paintsBattleMaps then .reading else .layout) *
    s.combat.length

theorem sum_map_const_eq (c : ℚ) (l : List β) : (l.map fun _ => c).sum = c * l.length := by
  rw [List.map_const', List.sum_replicate, nsmul_eq_mul, mul_comm]

theorem paintsOverviews_of_paintsBattleMaps (paints : services.paintsBattleMaps) :
    services.paintsOverviews :=
  (Services.paintsBattleMaps_iff.mp paints).1

/-- The estimate counts overviews where battle maps are painted. -/
theorem sum_price_exploration (services : Services σ ℚ) (config : Config ℚ) (s : Selection) :
    (s.exploration.map (Spec.price services config ∘ Spec.exploration)).sum =
      (if services.paintsBattleMaps then config.paintingCost else 0) * s.exploration.length +
        unforeseen services config s := by
  have sum : (s.exploration.map (Spec.price services config ∘ Spec.exploration)).sum =
      (if services.paintsOverviews then config.paintingCost else 0) * s.exploration.length :=
    sum_map_const_eq ..
  rw [sum, unforeseen]
  by_cases paints : services.paintsBattleMaps
  · simp [paints, paintsOverviews_of_paintsBattleMaps paints]
  · by_cases there : services.paintsOverviews
    · simp [paints, there]
    · simp [paints, there]

/-- The estimate counts a battle map with one answer, and with a picture where it is painted. -/
theorem sum_price_combat (services : Services σ ℚ) (config : Config ℚ) (s : Selection) :
    (s.combat.map (Spec.price services config ∘ Spec.combat)).sum + unasked services config s =
      (if services.paintsBattleMaps then config.paintingCost + config.readingCost
        else config.layoutCost) * s.combat.length := by
  have sum : (s.combat.map (Spec.price services config ∘ Spec.combat)).sum =
      (if services.paintsBattleMaps then config.paintingCost + config.askingCost .reading
        else config.askingCost .layout) * s.combat.length :=
    sum_map_const_eq ..
  rw [sum, unasked, Config.askingCost, Config.askingCost]
  by_cases may : 0 < config.attempts
  · simp only [may, if_true, add_zero, Config.answerCost]
  · by_cases paints : services.paintsBattleMaps
    · simp only [may, paints, if_true, if_false, add_zero, Config.answerCost, add_mul]
    · simp [may, paints, Config.answerCost]

/-- The prices of maps are what an estimate adds up, up to what it misses and expects in vain. -/
theorem sum_price_add_unasked (services : Services σ ℚ) (config : Config ℚ) (s : Selection) :
    (s.specs.map (Spec.price services config)).sum + unasked services config s =
      estimate config services.paintsBattleMaps s + unforeseen services config s := by
  rw [Selection.specs, List.map_append, List.sum_append, List.map_map, List.map_map, add_assoc,
    sum_price_combat, sum_price_exploration]
  exact add_right_comm _ _ _

/-! ## Runs -/

variable {campaign : Campaign} {mapId : Option String}

theorem run_preview {s : Selection} (selects : campaign.select mapId = .ok s)
    (services : Services σ ℚ) (config : Config ℚ) (table : Table) (world : σ) :
    ((run (some services) config none campaign mapId true table).run world).result =
      (.ok (planned config services.paintsBattleMaps campaign true s), table) := by
  unfold run runWith
  rw [selects]
  rfl

/-- If the ids of a campaign's maps are distinct, nothing is stored, and everything goes as
expected, then what a run costs, with what it charges for maps that break down, is what its preview
has estimated; but the estimate misses overviews that are painted where battle maps cannot be, and
where nothing may be asked, it expects answers in vain. So a run without breakdowns, over settings
that allow a question, costs what was estimated exactly if the estimate misses nothing. -/
theorem run_costs_estimate {s : Selection} (selects : campaign.select mapId = .ok s)
    (distinct : (campaign.specs.map Spec.id).Nodup) (services : Services σ ℚ) (config : Config ℚ)
    (world : σ)
    (expected : s.specs.Forall₂ (Done.AsExpected config)
      (makeEach (regenerate services config campaign.id) s.specs [] world)) :
    ∃ report preview : Report ℚ,
      ((run (some services) config none campaign mapId false []).run world).result.1 = .ok report ∧
      ((run (some services) config none campaign mapId true []).run world).result.1 = .ok preview ∧
      report.totalCost +
          lostCharges (makeEach (regenerate services config campaign.id) s.specs [] world) +
          unasked services config s =
        preview.estimatedCost + unforeseen services config s ∧
      ((∀ done ∈ makeEach (regenerate services config campaign.id) s.specs [] world,
          done.result.outcome.isOk) → 0 < config.attempts →
        (report.totalCost = preview.estimatedCost ↔ unforeseen services config s = 0)) := by
  have distinct := nodup_of_select_eq_ok selects distinct
  have charges := totalCharges_makeEach distinct (fun _ _ => rfl) expected
  have prices := sum_price_add_unasked services config s
  obtain ⟨report, ran, accounts, lasting⟩ := run_accounts selects services config none [] world
  have events : ((run (some services) config none campaign mapId false []).run world).events =
      (makeEach (regenerate services config campaign.id) s.specs [] world).flatMap (·.events) := by
    rw [run, Option.map_some, run_runWith selects]
  rw [events, charges] at accounts lasting
  have preview := congrArg Prod.fst (run_preview selects services config [] world)
  refine ⟨report, _, ran, preview, ?_, fun lasts may => ?_⟩
  · rw [accounts, prices]
    rfl
  · rw [unasked, if_pos may, add_zero] at prices
    rw [lasting lasts, prices]
    exact add_eq_left

/-! ## Pictures that nobody reads -/

/-- Services that paint pictures, which nobody reads or keeps, and whose model lays out the inn. -/
def unreadServices : Services Unit ℚ :=
  { silentServices with
    complete := fun _ world => (.ok ⟨Proposal.innProposal.write, 1 / 25⟩, world)
    readsPictures := false }

/-- The overview of the isle. -/
def isleOverview : ExplorationSpec := { id := "map", name := "The isle" }

/-- The row of the overview, without an address of its picture. -/
def overviewRow : Store.Row :=
  (Draft.exploration "isle" isleOverview none).row "isle" "map" .exploration 0

/-- The overview is painted. -/
def overviewPainted : Event ℚ :=
  .painted ⟨Prompt.explorationPicture isleOverview, Prompt.unwanted⟩
    (.ok ⟨⟨[], "image/webp"⟩, 3 / 100⟩)

/-- The model is asked for the inn. -/
def innAnswered : Event ℚ :=
  .completed (gridRequest twoAttempts Proposal.innSpec none)
    (.ok ⟨Proposal.innProposal.write, 1 / 25⟩)

theorem make_overview :
    ∃ o : Outcome ℚ,
      (regenerate unreadServices twoAttempts "isle" (.exploration isleOverview) []).run () =
        ⟨⟨.ok o, [overviewRow]⟩, [overviewPainted], ()⟩ := by
  have writable : ((Draft.exploration "isle" isleOverview none).stamped
    (unreadServices.now ())).isWritable := by decide +kernel
  have there : unreadServices.paint =
    some fun _ world => (.ok ⟨⟨[], "image/webp"⟩, 3 / 100⟩, world) := rfl
  obtain ⟨o, -, run⟩ := regenerateExploration_of_first_picture there (fun _ => rfl) rfl writable
  exact ⟨o, run⟩

theorem make_inn :
    ∃ (o : Outcome ℚ) (table : Table),
      (regenerate unreadServices twoAttempts "isle" (.combat Proposal.innSpec) [overviewRow]).run
        () = ⟨⟨.ok o, table⟩, [innAnswered], ()⟩ := by
  have lacks : Table.Lacks [overviewRow] "isle" "inn" := by
    constructor
    · decide +kernel
    · simp [overviewRow, Draft.row]
  have writable : ((innDraft none).stamped (unreadServices.now ())).isWritable := by decide +kernel
  have accepted : judge Proposal.innSpec .extended twoAttempts.minWalkable
    Proposal.innProposal.write = .ok innMap := judge_innProposal
  obtain ⟨o, -, run⟩ := regenerateCombat_of_first_answer lacks (fun _ => rfl) rfl (by decide)
    accepted rfl writable
  exact ⟨o, _, run⟩

/-- The overview is painted at the cost that is expected of a picture. -/
theorem asExpected_overview :
    overviewPainted.AsExpected twoAttempts (.exploration isleOverview) where
  charge := by
    simp [overviewPainted, totalCharges, Event.completionCharge, Event.pictureCharge,
      Event.expectedCharge, twoAttempts]
  succeeds := fun _ absent => nomatch absent

/-- The first answer for the inn becomes a map, at the cost that is expected of a layout. -/
theorem asExpected_inn : innAnswered.AsExpected twoAttempts (.combat Proposal.innSpec) where
  charge := by
    simp [innAnswered, totalCharges, Event.completionCharge, Event.pictureCharge,
      Event.expectedCharge, picture_gridRequest, approach, Config.answerCost, twoAttempts]
  succeeds := by
    rintro _ ⟨⟩
    exact ⟨_, innMap, rfl, judge_innProposal⟩

/-- The isle with its overview and its inn costs a picture and an answer, of which the estimate
counts the answer only. -/
theorem isle_costs_more :
    ∃ report preview : Report ℚ,
      ((run (some unreadServices) twoAttempts none isle none false []).run ()).result.1 =
        .ok report ∧
      ((run (some unreadServices) twoAttempts none isle none true []).run ()).result.1 =
        .ok preview ∧
      preview.estimatedCost = 1 / 25 ∧ report.totalCost = 1 / 25 + 3 / 100 := by
  have selects : isle.select none = .ok isle.maps := rfl
  have distinct : (isle.specs.map Spec.id).Nodup := by decide
  have maps : isle.maps.specs = [.exploration isleOverview, .combat Proposal.innSpec] := rfl
  obtain ⟨o, overview⟩ := make_overview
  obtain ⟨o', table, inn⟩ := make_inn
  have each : makeEach (regenerate unreadServices twoAttempts isle.id) isle.maps.specs [] () =
      [⟨⟨.ok o, [overviewRow]⟩, [overviewPainted], ()⟩, ⟨⟨.ok o', table⟩, [innAnswered], ()⟩] := by
    have isleId : isle.id = "isle" := rfl
    rw [maps, isleId]
    simp only [makeEach, overview, inn]
  have expected : isle.maps.specs.Forall₂ (Done.AsExpected twoAttempts)
      (makeEach (regenerate unreadServices twoAttempts isle.id) isle.maps.specs [] ()) := by
    rw [each, maps]
    simp [Done.AsExpected, asExpected_overview, asExpected_inn]
  obtain ⟨report, preview, ran, previewed, costs, -⟩ :=
    run_costs_estimate selects distinct unreadServices twoAttempts () expected
  have estimated : preview.estimatedCost = 1 / 25 := by
    rw [run_preview selects] at previewed
    obtain rfl := Except.ok.inj previewed
    decide +kernel
  have missed : unforeseen unreadServices twoAttempts isle.maps = 3 / 100 := by decide +kernel
  have nothing : unasked unreadServices twoAttempts isle.maps = 0 := if_pos (by decide)
  refine ⟨report, preview, ran, previewed, estimated, ?_⟩
  simpa [each, lostCharges, Except.isOk, Except.toBool, estimated, missed, nothing] using costs

/-- The isle without its inn. -/
def overviewOnly : Campaign := { isle with combat := [] }

/-- An overview that is painted at the expected cost, and a run that nothing goes wrong in: its
preview has estimated that it costs nothing. -/
theorem overviewOnly_costs_more :
    (overviewOnly.specs.map Spec.id).Nodup ∧ 0 < twoAttempts.attempts ∧
      overviewOnly.maps.specs.Forall₂ (Done.AsExpected twoAttempts)
        (makeEach (regenerate unreadServices twoAttempts "isle") overviewOnly.maps.specs [] ()) ∧
      (∀ done ∈ makeEach (regenerate unreadServices twoAttempts "isle") overviewOnly.maps.specs []
        (), done.result.outcome.isOk) ∧
      ∃ report preview : Report ℚ,
        ((run (some unreadServices) twoAttempts none overviewOnly none false []).run
          ()).result.1 = .ok report ∧
        ((run (some unreadServices) twoAttempts none overviewOnly none true []).run
          ()).result.1 = .ok preview ∧
        report.totalCost = 3 / 100 ∧ preview.estimatedCost = 0 := by
  have maps : overviewOnly.maps.specs = [.exploration isleOverview] := rfl
  obtain ⟨o, overview⟩ := make_overview
  have each : makeEach (regenerate unreadServices twoAttempts "isle") overviewOnly.maps.specs []
      () = [⟨⟨.ok o, [overviewRow]⟩, [overviewPainted], ()⟩] := by
    rw [maps]
    simp only [makeEach, overview]
  rw [each, maps]
  refine ⟨by decide, by decide, ?_, ?_, ?_⟩
  · simp [Done.AsExpected, asExpected_overview]
  · simp [Except.isOk, Except.toBool]
  · have total : ((run (some unreadServices) twoAttempts none overviewOnly none false []).run
        ()).result.1.map Report.totalCost = .ok (3 / 100) := by decide +kernel
    have estimated : ((run (some unreadServices) twoAttempts none overviewOnly none true []).run
        ()).result.1.map Report.estimatedCost = .ok 0 := by decide +kernel
    obtain ⟨report, ran, costs⟩ := map_eq_ok.mp total
    obtain ⟨preview, previewed, expects⟩ := map_eq_ok.mp estimated
    exact ⟨report, preview, ran, previewed, costs, expects⟩

end BattleMaps
