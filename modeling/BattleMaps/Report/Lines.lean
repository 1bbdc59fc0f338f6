import BattleMaps.Decimal.Fixed
import BattleMaps.Report
import BattleMaps.Selection

/-!
# Plans and reports as lines

The plan of a run lists the selected maps before the run; the report lists what came of them.
Single costs have four places, an estimate has two.

## Main definitions

* `Selection.lines`: the plan of a run
* `Report.lines`: the report of a run
-/

namespace BattleMaps

/-! ## Plans -/

def ExplorationSpec.lines (spec : ExplorationSpec) : List String :=
  let names := ", ".intercalate (spec.points.map (·.name))
  [s!"  {spec.id}",
   s!"    Name: {spec.name}",
   s!"    POIs: {spec.points.length} ({names})",
   ""]

def CombatSpec.lines (spec : CombatSpec) : List String :=
  let names := ", ".intercalate (spec.regions.map (·.name))
  [s!"  {spec.id}",
   s!"    Name: {spec.name}",
   s!"    Terrain: {spec.terrain}, Lighting: {spec.lighting}, " ++
     s!"Scale: {spec.feetPerSquare}ft/sq",
   s!"    Regions: {spec.regions.length} ({names})",
   ""]

/-- Lines under a title, if there are any. -/
def titled (title : String) (lines : List String) : List String :=
  if lines.isEmpty then [] else title :: lines

/-- How grids are made, over pictures or without. -/
def pipelineName (pictures : Bool) : String :=
  if pictures then "image-first (image generation -> vision grid)" else "text-to-grid"

/-- The plan of a run over selected maps of a campaign. -/
def Selection.lines (s : Selection) (campaign : Campaign) (pictures isPreview : Bool) :
    List String :=
  let total := campaign.exploration.length + campaign.combat.length
  let exploration := s.exploration.length
  let combat := s.combat.length
  ["── Campaign Map Generation ──",
   s!"Campaign: {campaign.title} ({campaign.id})",
   s!"Maps to generate: {exploration + combat}/{total} " ++
     s!"({exploration} exploration, {combat} combat)",
   s!"Pipeline: {pipelineName pictures}"]
    ++ (if isPreview then ["Mode: DRY RUN (no API calls, no store writes)"] else [])
    ++ [""]
    ++ titled "  ── Exploration Maps ──" (s.exploration.flatMap ExplorationSpec.lines)
    ++ titled "  ── Combat Maps ──" (s.combat.flatMap CombatSpec.lines)

/-! ## Reports -/

/-- What came of a map, in a few words: why it failed, or else what happened and by which way. -/
def Outcome.detail {κ : Type} (o : Outcome κ) : String :=
  let way := s!"{o.status.name} via {o.path.getD Json.null.shown}"
  match o.error with
  | some e => if e.isEmpty then way else e
  | none => way

def Outcome.line (phase : String) (o : Outcome Float) : String :=
  s!"  [{phase}] {o.mapId}: {o.detail} (${Decimal.fixed 4 o.totalCost})"

def Report.lines (r : Report Float) : List String :=
  if r.isPreview then
    [s!"Dry run complete. {r.plannedIds.length} maps would be generated.",
     s!"Estimated cost: ${Decimal.fixed 2 r.estimatedCost}"]
  else
    ["── Summary ──"]
      ++ r.phases.flatMap (fun p => p.outcomes.map (Outcome.line p.name))
      ++ [s!"  Generated: {r.successes}/{r.plannedIds.length}"]
      ++ (if r.failures = 0 then [] else [s!"  Failed: {r.failures}"])
      ++ [s!"  Completion cost: ${Decimal.fixed 4 r.completionCost}",
          s!"  Image cost: ${Decimal.fixed 4 r.imageCost}",
          s!"  Total cost: ${Decimal.fixed 4 r.totalCost}"]

end BattleMaps
