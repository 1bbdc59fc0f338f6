import BattleMaps.Proofs.Regeneration.Decisions

/-!
# Services that answer the same

Where the answers of the services depend on the requests only, and the clock stands still, the
world has no part in what is made of a map. What a call decides then follows from the
specification, the settings and what is stored under the id of the map.

## Main definitions

* `Services.Stateless` — whether answers depend on the requests only
* `Spec.decision` — what a call decides, from a table and a world

## Main results

* `Spec.make_steady` — what is made does not depend on the world
* `result_regenerate` — a call enacts its decision
* `Spec.decision_eq` — the decision depends on what is stored under the id only
-/

namespace BattleMaps

open Store (Table)
open Work (Steady)

variable {σ κ : Type}

/-- Whether the answers of services depend on the requests only, and their clock stands still. -/
structure Services.Stateless (services : Services σ κ) : Prop where
  completes : ∀ request world world',
    (services.complete request world).1 = (services.complete request world').1
  paints : ∀ painter ∈ services.paint, ∀ request world world',
    (painter request world).1 = (painter request world').1
  keeps : ∀ blobs ∈ services.blobs, ∀ request world world',
    (blobs.upload request world).1 = (blobs.upload request world').1
  fetches : ∀ blobs ∈ services.blobs, ∀ url world world',
    (blobs.download url world).1 = (blobs.download url world').1
  stands : ∀ world world', services.now world = services.now world'

variable {services : Services σ κ} {config : Config κ} {campaignId mapId : String}
  {spec : CombatSpec} {made : Made κ} {picture : Picture}

/-! ## What is made -/

theorem keepPicture_steady (stateless : services.Stateless) :
    (keepPicture services config campaignId mapId picture).Steady := by
  unfold keepPicture
  split
  · exact .pure _
  · rename_i blobs there
    split
    · exact .pure _
    · exact .bind (.ask (stateless.keeps blobs there _)) fun _ => .pure _

theorem keepFor_steady (stateless : services.Stateless) :
    (keepFor services config campaignId mapId picture made).Steady :=
  .bind (keepPicture_steady stateless) fun answer => by cases answer <;> exact .pure _

theorem paint_steady {prompt : String}
    {next : Except Fault (Painting κ) → Work σ κ (Except Breakdown (Made κ))}
    (stateless : services.Stateless) (after : ∀ answer, (next answer).Steady) :
    (paint services prompt next).Steady := by
  unfold paint
  split
  · exact .pure _
  · rename_i painter there
    exact .bind (.ask (stateless.paints painter there _)) after

variable [Amount κ]

theorem askRepeatedly_steady {picture : Option Picture} (stateless : services.Stateless)
    (left asked : Nat) (cost : κ) (lastError : String) :
    (askRepeatedly services config spec picture left asked cost lastError).Steady := by
  induction left generalizing asked cost lastError with
  | zero =>
    rw [askRepeatedly]
    exact .pure _
  | succ left ih =>
    rw [askRepeatedly]
    refine .bind (.ask (stateless.completes _)) fun answer => ?_
    cases answer with
    | error fault => exact ih _ _ _
    | ok reply =>
      dsimp only
      split
      · exact .pure _
      · exact ih _ _ _

theorem layOut_steady (stateless : services.Stateless) :
    (layOut services config spec made).Steady :=
  .bind (askRepeatedly_steady stateless _ _ _ _) fun answer => by cases answer <;> exact .pure _

theorem readPicture_steady (stateless : services.Stateless) :
    (readPicture services config spec picture made).Steady := by
  unfold readPicture
  split_ifs
  · refine .bind (askRepeatedly_steady stateless _ _ _ _) fun answer => ?_
    cases answer with
    | ok generated => exact .pure _
    | error e => exact layOut_steady stateless
  · exact layOut_steady stateless

theorem readStored_steady (stateless : services.Stateless) :
    (readStored services config spec made).Steady := by
  unfold readStored
  split
  · rename_i blobs url there _
    refine .bind (.ask (stateless.fetches blobs there _)) fun answer => ?_
    cases answer with
    | ok bytes => exact readPicture_steady stateless
    | error fault => exact layOut_steady stateless
  · exact layOut_steady stateless

theorem paintAndRead_steady (stateless : services.Stateless) :
    (paintAndRead services config campaignId spec made).Steady := by
  refine paint_steady stateless fun answer => ?_
  cases answer with
  | error fault => exact .bind (layOut_steady stateless) fun _ => .pure _
  | ok painting =>
    refine .bind (readPicture_steady stateless) fun read => ?_
    split_ifs
    · exact .pure _
    · exact keepFor_steady stateless

/-- What is made of a map, whatever is stored for it, does not depend on the world. -/
theorem Spec.make_steady (stateless : services.Stateless) (spec : Spec) (stored : Option Fields) :
    (spec.make services config campaignId stored).Steady := by
  cases spec with
  | combat spec =>
    rw [Spec.make]
    generalize CombatAction.plan (.of stored) services.paintsBattleMaps = action
    cases action with
    | reuse => exact .pure _
    | readStored => exact .bind (readStored_steady stateless) fun _ => .pure _
    | paintAndRead => exact paintAndRead_steady stateless
    | attachPicture =>
      refine paint_steady stateless fun answer => ?_
      cases answer with
      | error fault => exact .pure _
      | ok painting => exact keepFor_steady stateless
    | layOut => exact .bind (layOut_steady stateless) fun _ => .pure _
  | exploration places =>
    rw [Spec.make]
    generalize ExplorationAction.plan (.of stored) services.paintsOverviews = action
    cases action with
    | reuse => exact .pure _
    | unavailable => exact .pure _
    | paint =>
      refine paint_steady stateless fun answer => ?_
      cases answer with
      | error fault => exact .pure _
      | ok painting => exact keepFor_steady stateless

/-! ## What is decided -/

/-- What a call decides, from a table and a world. -/
def Spec.decision (services : Services σ κ) (config : Config κ) (campaignId : String)
    (table : Table) (world : σ) (spec : Spec) : Decision κ :=
  let done := (spec.make services config campaignId (storedFor campaignId spec table)).run world
  spec.decide campaignId (storedFor campaignId spec table) done.result (services.now done.world)

/-- A call enacts its decision. -/
theorem result_regenerate (spec : Spec) (table : Table) (world : σ) :
    ((regenerate services config campaignId spec table).run world).result =
      (spec.decision services config campaignId table world).apply table := by
  rw [run_regenerate rfl]
  rfl

/-- With services that answer the same, a call decides the same wherever the same is stored for its
map. -/
theorem Spec.decision_eq {spec : Spec} {table table' : Table} (stateless : services.Stateless)
    (same : storedFor campaignId spec table = storedFor campaignId spec table') (world world' : σ) :
    spec.decision services config campaignId table world =
      spec.decision services config campaignId table' world' := by
  have made : (spec.make services config campaignId (storedFor campaignId spec table')).Steady :=
    Spec.make_steady stateless spec _
  specialize made world world'
  rw [decision, decision, same, made]
  exact congrArg _ (stateless.stands _ _)

end BattleMaps
