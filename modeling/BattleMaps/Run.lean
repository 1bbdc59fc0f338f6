import BattleMaps.Regeneration
import BattleMaps.Report
import BattleMaps.Selection

/-!
# Runs

A run takes the selected maps of a campaign one at a time, overviews first, then battle maps. A map
that breaks down is reported as failed, and the run goes on. A preview selects and estimates only.

## Main definitions

* `estimate`: what a run is expected to cost
* `Regenerator`: a way to regenerate maps
* `runPhase`: the maps of one phase, one after the other
* `runWith`, `run`: a run of a campaign, in some way or with the services at hand
-/

namespace BattleMaps

inductive RunError where
  | selection (e : SelectionError)
  -- A run that is no preview needs services.
  | noServices
deriving DecidableEq, Repr

variable {σ κ : Type} [Amount κ]

/-- What a run is expected to cost, over pictures or without them: every map is made at the first
attempt, and without pictures overviews are not made at all. -/
def estimate (config : Config κ) (pictures : Bool) (s : Selection) : κ :=
  let perCombat := if pictures then config.paintingCost + config.readingCost else config.layoutCost
  let perExploration := if pictures then config.paintingCost else 0
  Amount.times perExploration s.exploration.length + Amount.times perCombat s.combat.length

/-- The outcome of a map that broke down. -/
def brokenDown (spec : Spec) (b : Breakdown) : Outcome κ where
  mapId := spec.id
  mapType := spec.mapType
  status := .failed
  completionCost := 0
  imageCost := 0
  error := some b.message

/-- What a run reports of a map, whether or not it broke down. -/
def Regenerated.reported (spec : Spec) (r : Regenerated κ) : Outcome κ :=
  match r.outcome with
  | .ok outcome => outcome
  | .error b => brokenDown spec b

/-- A way to regenerate maps. -/
abbrev Regenerator (σ κ : Type) := Spec → Store.Table → Work σ κ (Regenerated κ)

/-- Regenerates maps one after the other: their outcomes, and the table afterwards. -/
def runPhase (make : Regenerator σ κ) :
    List Spec → Store.Table → Work σ κ (List (Outcome κ) × Store.Table)
  | [], table => pure ([], table)
  | spec :: specs, table => do
    let regenerated ← make spec table
    let (outcomes, table) ← runPhase make specs regenerated.table
    pure (regenerated.reported spec :: outcomes, table)

/-- The phase of some maps; there is none without maps. -/
def phase (make : Regenerator σ κ) (name : String) (specs : List Spec) (table : Store.Table) :
    Work σ κ (List (Phase κ) × Store.Table) :=
  if specs.isEmpty then pure ([], table)
  else do
    let (outcomes, table) ← runPhase make specs table
    pure ([⟨name, outcomes⟩], table)

/-- The report of a run before it has started. -/
def planned (config : Config κ) (pictures : Bool) (campaign : Campaign) (isPreview : Bool)
    (s : Selection) : Report κ where
  campaignId := campaign.id
  isPreview := isPreview
  plannedIds := s.ids
  estimatedCost := estimate config pictures s

/-- The phases of a run, and the table afterwards. -/
def runSelection (make : Regenerator σ κ) (s : Selection) (table : Store.Table) :
    Work σ κ (List (Phase κ) × Store.Table) := do
  let (overviews, table) ←
    phase make MapType.exploration.name (s.exploration.map .exploration) table
  let (battleMaps, table) ← phase make MapType.combat.name (s.combat.map .combat) table
  pure (overviews ++ battleMaps, table)

/-- A run of a campaign, with a way to regenerate maps if there is one: its report, and the table
afterwards. The estimate is for a run over pictures or without. -/
def runWith (make : Option (Regenerator σ κ)) (config : Config κ) (pictures : Bool)
    (campaign : Campaign) (mapId : Option String) (isPreview : Bool) (table : Store.Table) :
    Work σ κ (Except RunError (Report κ) × Store.Table) :=
  match campaign.select mapId, make with
  | .error e, _ => pure (.error (.selection e), table)
  | .ok selection, make =>
    let report := planned config pictures campaign isPreview selection
    if isPreview then pure (.ok report, table)
    else
      match make with
      | none => pure (.error .noServices, table)
      | some make => do
        let (phases, table) ← runSelection make selection table
        pure (.ok { report with phases := phases }, table)

/-- A run of a campaign, with the services at hand if there are any: its report, and the table
afterwards. The estimate is for a run over pictures or without, as told, or else as the services
allow. -/
def run (services : Option (Services σ κ)) (config : Config κ) (pictures : Option Bool)
    (campaign : Campaign) (mapId : Option String) (isPreview : Bool) (table : Store.Table) :
    Work σ κ (Except RunError (Report κ) × Store.Table) :=
  runWith (services.map fun services => regenerate services config campaign.id) config
    (pictures.getD (services.any Services.paintsBattleMaps)) campaign mapId isPreview table

end BattleMaps
