import Mathlib.Algebra.BigOperators.Group.List.Basic
import Mathlib.Algebra.Ring.Rat
import BattleMaps.Proofs.Proposal.Acceptance
import BattleMaps.Proofs.Regeneration.Endings

/-!
# Charges

A service charges for every answer that it gives, also for one that is of no use. The charges can be
read off the events of a call, so it can be asked whether the outcome of the call bears all of them,
each once. The costs are exact fractions here, so that a sum does not depend on its order.

## Main definitions

* `completionCharges`, `pictureCharges` — what events cost
* `Made.Billed` — whether what has been made was billed for exactly the charges of events

## Main results

* `askRepeatedly_spends` — asking adds up the charges of all attempts, whatever they come to
* `makeCombat_billed`, `makeExploration_billed` — nothing is forgotten and nothing billed twice on
  the way, whichever way is taken
* `regenerate_bears_charges` — the outcome of a call bears the charges of all its events
-/

namespace BattleMaps

open Work (Traces)
open Store (Table)

/-- Costs as exact fractions. -/
instance amountRat : Amount ℚ where
  times x n := x * n

/-! ## What events cost -/

/-- What a prompt cost: nothing if the service failed, and its price otherwise, whatever the answer
is worth. -/
def Event.completionCharge : Event ℚ → ℚ
  | .completed _ (.ok reply) => reply.cost
  | _ => 0

/-- What a picture cost, if one was painted. -/
def Event.pictureCharge : Event ℚ → ℚ
  | .painted _ (.ok painting) => painting.cost
  | _ => 0

/-- What all prompts among some events cost. -/
def completionCharges (events : List (Event ℚ)) : ℚ := (events.map Event.completionCharge).sum

/-- What all pictures among some events cost. -/
def pictureCharges (events : List (Event ℚ)) : ℚ := (events.map Event.pictureCharge).sum

variable {events later : List (Event ℚ)} {e : Event ℚ}

@[simp] theorem completionCharges_nil : completionCharges [] = 0 := rfl

@[simp] theorem pictureCharges_nil : pictureCharges [] = 0 := rfl

@[simp] theorem completionCharges_cons :
    completionCharges (e :: events) = e.completionCharge + completionCharges events :=
  List.sum_cons

@[simp] theorem pictureCharges_cons :
    pictureCharges (e :: events) = e.pictureCharge + pictureCharges events :=
  List.sum_cons

@[simp] theorem completionCharges_append :
    completionCharges (events ++ later) = completionCharges events + completionCharges later := by
  simp [completionCharges]

@[simp] theorem pictureCharges_append :
    pictureCharges (events ++ later) = pictureCharges events + pictureCharges later := by
  simp [pictureCharges]

variable {σ : Type} {services : Services σ ℚ} {config : Config ℚ} {spec : CombatSpec}
  {places : ExplorationSpec} {campaignId mapId prompt : String} {picture : Option Picture}
  {table : Table} {made read after : Made ℚ} {setback : Setback ℚ} {url : Option String}

/-! ## Asking for a grid -/

/-- What all attempts cost, whether or not the last of them led to a map. -/
def spent : Except (Exhausted ℚ) (Generated ℚ) → ℚ
  | .ok generated => generated.cost
  | .error e => e.cost

/-- Asking adds the charges of all further attempts to what the earlier ones cost. -/
theorem askRepeatedly_spends (left asked : Nat) (cost : ℚ) (lastError : String) :
    (askRepeatedly services config spec picture left asked cost lastError).Traces
      fun result events => spent result = cost + completionCharges events ∧
        pictureCharges events = 0 := by
  induction left generalizing asked cost lastError with
  | zero =>
    rw [askRepeatedly]
    exact .pure ⟨(add_zero cost).symm, rfl⟩
  | succ left ih =>
    rw [askRepeatedly]
    refine .bind .ask fun answer before noted => ?_
    subst noted
    cases answer with
    | error fault =>
      -- a failed attempt is free
      refine (ih _ _ _).mono fun result events ⟨costs, pictures⟩ => ?_
      simp [costs, pictures, Event.completionCharge, Event.pictureCharge]
    | ok reply =>
      dsimp only
      split
      · refine .pure ⟨?_, ?_⟩
        · simp [spent, Event.completionCharge]
        · simp [Event.pictureCharge]
      · -- an answer that is of no use is paid for before the next attempt
        refine (ih _ _ _).mono fun result events ⟨costs, pictures⟩ => ?_
        simp [costs, pictures, Event.completionCharge, Event.pictureCharge, add_assoc]

theorem generate_spends :
    (generate services config spec picture).Traces fun result events =>
      spent result = completionCharges events ∧ pictureCharges events = 0 := by
  refine (askRepeatedly_spends _ _ _ _).mono fun result events ⟨costs, pictures⟩ => ⟨?_, pictures⟩
  rw [costs]
  exact zero_add _

/-! ## Bills -/

/-- Whether what was billed before and after some events differs by exactly their charges. -/
structure Made.Billed (before : Made ℚ) (events : List (Event ℚ)) (after : Made ℚ) : Prop where
  completionCost : after.completionCost = before.completionCost + completionCharges events
  imageCost : after.imageCost = before.imageCost + pictureCharges events

namespace Made.Billed

/-- Whatever else changes, no events cost nothing. -/
theorem of_eq (completions : after.completionCost = made.completionCost)
    (images : after.imageCost = made.imageCost) : made.Billed [] after where
  completionCost := by simp [completions]
  imageCost := by simp [images]

theorem trans (first : made.Billed events read) (second : read.Billed later after) :
    made.Billed (events ++ later) after where
  completionCost := by
    rw [second.completionCost, first.completionCost, completionCharges_append, add_assoc]
  imageCost := by rw [second.imageCost, first.imageCost, pictureCharges_append, add_assoc]

/-- What comes of what was made without a further event is billed for the same. -/
theorem and_then (first : made.Billed events read)
    (completions : after.completionCost = read.completionCost)
    (images : after.imageCost = read.imageCost) : made.Billed events after := by
  have both := first.trans (.of_eq completions images)
  rwa [List.append_nil] at both

/-- Attempts at a grid are billed when they are over. -/
theorem payCompletions {result : Except (Exhausted ℚ) (Generated ℚ)}
    (spends : spent result = completionCharges events ∧ pictureCharges events = 0) :
    made.Billed events (made.payCompletions (spent result)) where
  completionCost := by rw [← spends.1]; rfl
  imageCost := by rw [spends.2, add_zero]; rfl

/-- A picture is billed as soon as it is painted. -/
theorem payPicture {request : PaintRequest} {painting : Painting ℚ} :
    made.Billed [.painted request (.ok painting)] (made.payPicture painting.cost) where
  completionCost := by simp [Made.payPicture, Event.completionCharge]
  imageCost := by simp [Made.payPicture, Event.pictureCharge]

/-- A question that no charge follows from changes no bill. -/
theorem free (completions : e.completionCharge = 0) (pictures : e.pictureCharge = 0) :
    made.Billed [e] made where
  completionCost := by simp [completions]
  imageCost := by simp [pictures]

end Made.Billed

/-- Whether what was made, if anything, was billed for exactly the charges of events. -/
def BilledResult (made : Made ℚ) (result : Except Breakdown (Made ℚ))
    (events : List (Event ℚ)) : Prop :=
  ∀ after, result = .ok after → made.Billed events after

theorem billedResult_ok (h : made.Billed events after) : BilledResult made (.ok after) events := by
  intro _ same
  rwa [← Except.ok.inj same]

theorem billedResult_error (b : Breakdown) : BilledResult made (.error b) events := by
  intro _ absent
  contradiction

/-! ## Making -/

theorem layOut_billed :
    (layOut services config spec made).Traces fun after events => made.Billed events after := by
  refine .bind_pure generate_spends fun answer events spends => ?_
  have paid : made.Billed events (made.payCompletions (spent answer)) := .payCompletions spends
  cases answer <;> exact ⟨_, rfl, paid.and_then rfl rfl⟩

theorem fallBack_billed :
    (fallBack services config spec made setback).Traces fun after events =>
      made.Billed events after := by
  refine layOut_billed.mono fun after events billed => ?_
  exact ⟨billed.completionCost, billed.imageCost⟩

/-- What reading a picture cost stays on the bill when the grid is laid out from prose after all. -/
theorem readPicture_billed {picture : Picture} :
    (readPicture services config spec picture made).Traces fun after events =>
      made.Billed events after := by
  unfold readPicture
  split_ifs
  · refine .bind generate_spends fun answer before spends => ?_
    have paid : made.Billed before (made.payCompletions (spent answer)) := .payCompletions spends
    cases answer with
    | ok generated => exact .pure ((List.append_nil before).symm ▸ paid.and_then rfl rfl)
    | error e => exact fallBack_billed.mono fun _ _ billed => paid.trans billed
  · exact fallBack_billed

theorem readStored_billed :
    (readStored services config spec made).Traces fun after events =>
      made.Billed events after := by
  unfold readStored
  split
  · refine .bind .ask fun answer before noted => ?_
    subst noted
    cases answer with
    | ok bytes =>
      exact readPicture_billed.mono fun _ _ billed => (Made.Billed.free rfl rfl).trans billed
    | error fault =>
      exact fallBack_billed.mono fun _ _ billed => (Made.Billed.free rfl rfl).trans billed
  · exact fallBack_billed

theorem keepFor_billed {picture : Picture} :
    (keepFor services config campaignId mapId picture made).Traces (BilledResult made) := by
  have kept : (keepPicture services config campaignId mapId picture).Traces fun _ events =>
      made.Billed events made := by
    unfold keepPicture
    split
    · exact .pure (.of_eq rfl rfl)
    · split
      · exact .pure (.of_eq rfl rfl)
      · refine .bind .ask fun answer before noted => .pure ?_
        subst noted
        exact .free rfl rfl
  refine .bind_pure kept fun answer events billed => ?_
  cases answer with
  | ok url => exact ⟨_, rfl, billedResult_ok (billed.and_then rfl rfl)⟩
  | error fault => exact ⟨_, rfl, billedResult_error _⟩

theorem paintAndRead_billed :
    (paintAndRead services config campaignId spec made).Traces (BilledResult made) := by
  refine paint_traces (billedResult_error _) fun request answer => ?_
  cases answer with
  | error fault =>
    refine .bind_pure fallBack_billed fun after events billed => ⟨_, rfl, ?_⟩
    exact billedResult_ok ((Made.Billed.free rfl rfl).trans billed)
  | ok painting =>
    refine .bind readPicture_billed fun read events billed => ?_
    have painted : made.Billed [.painted request (.ok painting)] (made.payPicture painting.cost) :=
      .payPicture
    have paid := painted.trans billed
    split_ifs with given
    · refine .pure ?_
      rw [List.append_nil]
      exact billedResult_ok paid
    · refine keepFor_billed.mono fun result uploads kept after same => ?_
      exact paid.trans (kept after same)

theorem attachPicture_billed :
    (attachPicture services config campaignId spec made).Traces (BilledResult made) := by
  refine paint_traces (billedResult_error _) fun request answer => ?_
  cases answer with
  | error fault => exact .pure (billedResult_ok ((Made.Billed.free rfl rfl).and_then rfl rfl))
  | ok painting =>
    refine keepFor_billed.mono fun result uploads kept after same => ?_
    exact Made.Billed.payPicture.trans (kept after same)

/-- Whatever is done for a battle map, everything is billed that was charged. -/
theorem makeCombat_billed (action : CombatAction) :
    (makeCombat services config campaignId spec url action).Traces
      (BilledResult (.start .generated action.name url)) := by
  cases action with
  | reuse => exact .pure (billedResult_ok (.of_eq rfl rfl))
  | readStored =>
    exact .bind_pure readStored_billed fun _ _ billed => ⟨_, rfl, billedResult_ok billed⟩
  | paintAndRead => exact paintAndRead_billed
  | attachPicture => exact attachPicture_billed
  | layOut => exact .bind_pure layOut_billed fun _ _ billed => ⟨_, rfl, billedResult_ok billed⟩

/-- Whatever is done for an overview, everything is billed that was charged. -/
theorem makeExploration_billed (action : ExplorationAction) :
    (makeExploration services config campaignId places url action).Traces
      (BilledResult (.start .generated action.name url)) := by
  cases action with
  | reuse => exact .pure (billedResult_ok (.of_eq rfl rfl))
  | unavailable => exact .pure (billedResult_ok (.of_eq rfl rfl))
  | paint =>
    refine paint_traces (billedResult_error _) fun request answer => ?_
    cases answer with
    | error fault => exact .pure (billedResult_ok ((Made.Billed.free rfl rfl).and_then rfl rfl))
    | ok painting =>
      refine keepFor_billed.mono fun result uploads kept after same => ?_
      exact Made.Billed.payPicture.trans (kept after same)

/-! ## Calls -/

theorem Delivery.bears_costs {mapType : MapType} {stored : Option Fields}
    {drafts : Made ℚ → Draft → Prop} {answer : Except Breakdown (Made ℚ)} {r : Regenerated ℚ}
    {o : Outcome ℚ} (h : Delivery campaignId mapId mapType stored drafts table answer r)
    (ended : r.outcome = .ok o) :
    ∃ made, answer = .ok made ∧ o.completionCost = made.completionCost ∧
      o.imageCost = made.imageCost := by
  cases h with
  | @failed made _ given =>
    obtain rfl := Except.ok.inj ended
    exact ⟨made, rfl, rfl, rfl⟩
  | @concluded made _ _ silent drafted conclusion =>
    cases conclusion with
    | refused => contradiction
    | _ =>
      obtain rfl := Except.ok.inj ended
      exact ⟨made, rfl, rfl, rfl⟩
  | _ => contradiction

/-- Whether the costs of an outcome are the charges of events. -/
structure Outcome.Bears (o : Outcome ℚ) (events : List (Event ℚ)) : Prop where
  completionCost : o.completionCost = completionCharges events
  imageCost : o.imageCost = pictureCharges events

theorem Delivery.bears_charges {mapType : MapType} {stored : Option Fields}
    {drafts : Made ℚ → Draft → Prop} {answer : Except Breakdown (Made ℚ)} {r : Regenerated ℚ}
    {o : Outcome ℚ} {status : Status} {path : String}
    (h : Delivery campaignId mapId mapType stored drafts table answer r)
    (billed : BilledResult (.start status path url) answer events)
    (ended : r.outcome = .ok o) : o.Bears events := by
  obtain ⟨made, rfl, completions, images⟩ := h.bears_costs ended
  have total := billed made rfl
  constructor
  · rw [completions, total.completionCost]
    exact zero_add _
  · rw [images, total.imageCost]
    exact zero_add _

/-- A call that has an outcome has billed for all of its events, after whichever plan. -/
theorem regenerate_charged {spec : Spec} :
    (regenerate services config campaignId spec table).Traces fun r events =>
      ∀ o, r.outcome = .ok o → o.Bears events := by
  cases spec with
  | combat spec =>
    refine (regenerateCombat_delivers (makeCombat_billed _)).mono ?_
    intro r events ⟨answer, billed, delivery⟩ o ended
    exact delivery.bears_charges billed ended
  | exploration places =>
    refine (regenerateExploration_delivers (makeExploration_billed _)).mono ?_
    intro r events ⟨answer, billed, delivery⟩ o ended
    exact delivery.bears_charges billed ended

/-- Whatever is stored and whatever the services answer, an outcome costs what was charged during
its call, whatever its status: each answer of the model is paid for once, whether or not it became a
map, and so is each picture that was painted. -/
theorem regenerate_bears_charges (services : Services σ ℚ) (config : Config ℚ) (campaignId : String)
    (spec : Spec) (table : Table) (world : σ) {o : Outcome ℚ}
    (ended : ((regenerate services config campaignId spec table).run world).result.outcome = .ok o) :
    o.completionCost =
        completionCharges ((regenerate services config campaignId spec table).run world).events ∧
      o.imageCost =
        pictureCharges ((regenerate services config campaignId spec table).run world).events := by
  have charged : (regenerate services config campaignId spec table).Traces _ := regenerate_charged
  have bears := charged world o ended
  exact ⟨bears.completionCost, bears.imageCost⟩

/-- Services whose model says nothing, neither to a picture nor to prose, and charges for it. -/
def silentServices : Services Unit ℚ where
  complete _ world := (.ok ⟨"", 1 / 100⟩, world)
  readsPictures := true
  paint := some fun _ world => (.ok ⟨⟨[], "image/webp"⟩, 3 / 100⟩, world)
  blobs := none
  now _ := 0

/-- Settings with two attempts at each way. -/
def twoAttempts : Config ℚ where
  retries := 1
  paintingCost := 3 / 100
  readingCost := 3 / 100
  layoutCost := 1 / 25

/-- The inn fails for good after two answers to a picture and two to prose; all of it is paid
for. -/
theorem silentInn_bears_charges :
    ∃ o : Outcome ℚ,
      ((regenerate silentServices twoAttempts "isle" (.combat Proposal.innSpec) []).run
        ()).result.outcome = .ok o ∧
      o.status = .failed ∧ o.completionCost = 4 / 100 ∧ o.imageCost = 3 / 100 := by
  have fails : ((regenerate silentServices twoAttempts "isle" (.combat Proposal.innSpec) []).run
      ()).result.outcome.map Outcome.status = .ok .failed := by decide +kernel
  obtain ⟨o, ended, failed⟩ := map_eq_ok.mp fails
  obtain ⟨completions, pictures⟩ :=
    regenerate_bears_charges silentServices twoAttempts "isle" _ [] () ended
  refine ⟨o, ended, failed, ?_, ?_⟩
  · rw [completions]
    decide +kernel
  · rw [pictures]
    decide +kernel

end BattleMaps
