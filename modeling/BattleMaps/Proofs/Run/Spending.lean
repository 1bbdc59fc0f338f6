import BattleMaps.Proofs.Regeneration.Charges
import BattleMaps.Proofs.Run.Coverage

/-!
# What a run spends

A run reports what its maps cost, as far as they have an outcome. A map that breaks down has none:
it is reported as failed and as free, whatever was charged for it before. So the total of a run
falls short of the charges by exactly those of the maps that broke down, and is right if none of
them did.

## Main definitions

* `totalCharges` — what events cost
* `lostCharges` — what was charged for maps that broke down

## Main results

* `Report.totalCost_eq_sum` — the total of a report is the sum over all of its outcomes
* `run_accounts` — what a run reports, and what it loses, are its charges
* `mistypedIsle_underreports` — a picture that was paid for and is not reported
-/

namespace BattleMaps

open Store (Table)

variable {σ : Type}

/-- What events cost. -/
def totalCharges (events : List (Event ℚ)) : ℚ := completionCharges events + pictureCharges events

/-- What was charged for the maps that broke down. -/
def lostCharges (dones : List (Done σ ℚ (Regenerated ℚ))) : ℚ :=
  ((dones.filter fun done => !done.result.outcome.isOk).map fun done =>
    totalCharges done.events).sum

/-! ## Totals -/

theorem amountSum_eq_sum (amounts : List ℚ) : Amount.sum amounts = amounts.sum :=
  List.sum_eq_foldl.symm

theorem Phase.cost_eq_sum (p : Phase ℚ) :
    p.completionCost + p.imageCost = (p.outcomes.map Outcome.totalCost).sum := by
  rw [Phase.completionCost, Phase.imageCost, amountSum_eq_sum, amountSum_eq_sum]
  exact List.sum_map_add.symm

/-- The total of a report is the sum over all of its outcomes, whatever their phases. -/
theorem Report.totalCost_eq_sum (r : Report ℚ) :
    r.totalCost = ((r.phases.flatMap (·.outcomes)).map Outcome.totalCost).sum := by
  rw [Report.totalCost, amountSum_eq_sum]
  induction r.phases with
  | nil => rfl
  | cons p rest ih =>
    rw [List.map_cons, List.sum_cons, ih, List.flatMap_cons, List.map_append, List.sum_append]
    exact congrArg (· + _) p.cost_eq_sum

@[simp] theorem totalCharges_nil : totalCharges [] = 0 := add_zero 0

theorem totalCharges_append (events later : List (Event ℚ)) :
    totalCharges (events ++ later) = totalCharges events + totalCharges later := by
  simp only [totalCharges, completionCharges_append, pictureCharges_append]
  exact add_add_add_comm _ _ _ _

/-! ## Maps and their charges -/

variable {campaign : Campaign} {mapId : Option String} {spec : Spec}
  {done : Done σ ℚ (Regenerated ℚ)}

/-- What is reported of a map is what was charged for it, unless it broke down. -/
theorem totalCost_reported (bears : ∀ o, done.result.outcome = .ok o → o.Bears done.events) :
    (done.result.reported spec).totalCost =
      if done.result.outcome.isOk then totalCharges done.events else 0 := by
  rw [Regenerated.reported]
  cases ended : done.result.outcome with
  | ok o =>
    have charges := bears o ended
    simp [Outcome.totalCost, totalCharges, charges.completionCost, charges.imageCost, Except.isOk,
      Except.toBool]
  | error b => exact add_zero (0 : ℚ)

/-- What is reported of maps that are regenerated one after the other, and what was charged for
those that broke down, are together what was charged for all of them. -/
theorem sum_reports_add_lostCharges (services : Services σ ℚ) (config : Config ℚ)
    (campaignId : String) (specs : List Spec) (table : Table) (world : σ) :
    ((reports specs (makeEach (regenerate services config campaignId) specs table world)).map
        Outcome.totalCost).sum +
      lostCharges (makeEach (regenerate services config campaignId) specs table world) =
      totalCharges ((makeEach (regenerate services config campaignId) specs table world).flatMap
        (·.events)) := by
  induction specs generalizing table world with
  | nil => rfl
  | cons spec specs ih =>
    rw [makeEach]
    generalize first : (regenerate services config campaignId spec table).run world = done
    have bears : ∀ o, done.result.outcome = .ok o → o.Bears done.events := by
      rw [← first]
      exact regenerate_charged world
    have rest := ih done.result.table done.world
    rw [List.flatMap_cons, totalCharges_append, ← rest]
    simp only [reports, lostCharges, List.zipWith_cons_cons, List.map_cons, List.sum_cons,
      List.filter_cons, totalCost_reported bears]
    cases done.result.outcome.isOk <;> simp [add_assoc, add_left_comm]

/-! ## Runs -/

/-- Whatever is stored, whatever the services answer and whichever maps break down: the total that a
run reports falls short of the charges of its events by exactly those of the maps that broke down.
Without such maps, or if they had cost nothing, the run accounts for all that it spent. -/
theorem run_accounts {s : Selection} (selects : campaign.select mapId = .ok s)
    (services : Services σ ℚ) (config : Config ℚ) (pictures : Option Bool) (table : Table)
    (world : σ) :
    ∃ report : Report ℚ,
      ((run (some services) config pictures campaign mapId false table).run world).result.1 =
        .ok report ∧
      report.totalCost +
          lostCharges (makeEach (regenerate services config campaign.id) s.specs table world) =
        totalCharges
          ((run (some services) config pictures campaign mapId false table).run world).events ∧
      ((∀ done ∈ makeEach (regenerate services config campaign.id) s.specs table world,
          done.result.outcome.isOk) →
        report.totalCost = totalCharges
          ((run (some services) config pictures campaign mapId false table).run world).events) := by
  have ran := run_runWith selects (regenerate services config campaign.id) config
    (pictures.getD ((some services).any Services.paintsBattleMaps)) table world
  have accounts := sum_reports_add_lostCharges services config campaign.id s.specs table world
  rw [run, Option.map_some, ran]
  refine ⟨_, rfl, ?_, fun lasting => ?_⟩
  · rw [Report.totalCost_eq_sum, flatMap_phases]
    exact accounts
  · have nothing : lostCharges (makeEach (regenerate services config campaign.id) s.specs table
        world) = 0 := by
      rw [lostCharges, List.filter_eq_nil_iff.mpr]
      · rfl
      · intro done found
        simp [lasting done found]
    rw [Report.totalCost_eq_sum, flatMap_phases, ← accounts, nothing, add_zero]

/-! ## An isle with an inn -/

/-- An isle with an overview and an inn. -/
def isle : Campaign where
  id := "isle"
  title := "The isle"
  exploration := [{ id := "map", name := "The isle" }]
  combat := [Proposal.innSpec]

/-- What is reported of the isle if nothing breaks down: two pictures and four answers, though the
inn has failed. -/
theorem isle_accounts :
    ∃ report : Report ℚ,
      ((run (some silentServices) twoAttempts none isle none false []).run ()).result.1 =
        .ok report ∧ report.totalCost = 10 / 100 := by
  have selects : isle.select none = .ok isle.maps := rfl
  obtain ⟨report, ran, -, accounts⟩ := run_accounts selects silentServices twoAttempts none [] ()
  refine ⟨report, ran, (accounts ?_).trans ?_⟩
  · decide +kernel
  · decide +kernel

/-- Services that charge for pictures and for answers of no use, and keep pictures at a place. -/
def keepingServices : Services Unit ℚ :=
  { silentServices with blobs := some (blobsAt "isle.webp") }

/-- Settings whose pattern of paths names something unknown. -/
def mistyped : Config ℚ := { twoAttempts with pathPattern := "maps/\x7bslug\x7d.webp" }

/-- The overview of the isle is painted and paid for, and breaks down when it is to be kept; the run
reports what the inn cost and nothing of the overview. -/
theorem mistypedIsle_underreports :
    ∃ report : Report ℚ,
      ((run (some keepingServices) mistyped none isle none false []).run ()).result.1 =
        .ok report ∧
      report.totalCost = 7 / 100 ∧
      totalCharges ((run (some keepingServices) mistyped none isle none false []).run ()).events =
        10 / 100 := by
  have total : ((run (some keepingServices) mistyped none isle none false []).run ()).result.1.map
      Report.totalCost = .ok (7 / 100) := by decide +kernel
  obtain ⟨report, ran, costs⟩ := map_eq_ok.mp total
  refine ⟨report, ran, costs, ?_⟩
  decide +kernel

end BattleMaps
