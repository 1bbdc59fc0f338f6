import BattleMaps.Draft
import BattleMaps.Making

/-!
# Regenerating a map

To regenerate a map is to look up its document, make what is missing, and store the document if it
says something new. What failed is not stored.

## Main definitions

* `Regenerated`: what came of a map, and the table afterwards
* `regenerate`: the whole way for one map
-/

namespace BattleMaps

structure Regenerated (κ : Type) where
  outcome : Except Breakdown (Outcome κ)
  table : Store.Table

/-- The outcome that making leads to, before anything is stored. -/
def Made.outcome {κ : Type} (mapId : String) (mapType : MapType) (made : Made κ) : Outcome κ where
  mapId := mapId
  mapType := mapType
  status := made.status
  path := some made.path
  completionCost := made.completionCost
  imageCost := made.imageCost
  error := made.error

variable {σ κ : Type} [Amount κ]

/-- Stores a draft if it says something new, and completes the outcome. -/
def conclude (services : Services σ κ) (campaignId : String) (stored : Option Fields)
    (draft : Draft) (url : Option String) (outcome : Outcome κ) (table : Store.Table) :
    Work σ κ (Regenerated κ) := do
  let outcome := { outcome with
    confidence := draft.fields.value "confidence", pictureUrl := url }
  if stored.any fun document => draft.isUnchanged document then
    pure ⟨.ok outcome, table⟩
  else
    let now ← Work.peek services.now
    -- A document that cannot be written as a text never gets as far as the table.
    if (draft.stamped now).isWritable then
      match Store.save table (draft.row campaignId outcome.mapId outcome.mapType now) with
      | (.ok (), table) => pure ⟨.ok { outcome with written := true }, table⟩
      | (.error c, table) => pure ⟨.error (.conflict c), table⟩
    else pure ⟨.error (.conflict .longInteger), table⟩

def regenerateCombat (services : Services σ κ) (config : Config κ) (campaignId : String)
    (spec : CombatSpec) (table : Store.Table) : Work σ κ (Regenerated κ) := do
  let stored := table.document? (documentId campaignId spec.id)
  let action := CombatAction.plan (Artifacts.of stored) services.paintsBattleMaps
  match ← makeCombat services config campaignId spec (stored.bind Document.pictureUrl?) action with
  | .error breakdown => pure ⟨.error breakdown, table⟩
  | .ok made =>
    let outcome := made.outcome spec.id .combat
    -- what failed has an outcome, but leaves the table as it is
    if made.error.isSome then pure ⟨.ok outcome, table⟩
    else
      match Draft.combat? campaignId spec stored made.grid made.url with
      | none => pure ⟨.error (.noGrid spec.id), table⟩
      | some draft => conclude services campaignId stored draft made.url outcome table

def regenerateExploration (services : Services σ κ) (config : Config κ) (campaignId : String)
    (spec : ExplorationSpec) (table : Store.Table) : Work σ κ (Regenerated κ) := do
  let stored := table.document? (documentId campaignId spec.id)
  let action := ExplorationAction.plan (Artifacts.of stored) services.paintsOverviews
  match ← makeExploration services config campaignId spec (stored.bind Document.pictureUrl?)
    action with
  | .error breakdown => pure ⟨.error breakdown, table⟩
  | .ok made =>
    let outcome := made.outcome spec.id .exploration
    if made.error.isSome then pure ⟨.ok outcome, table⟩
    else
      conclude services campaignId stored (Draft.exploration campaignId spec made.url) made.url
        outcome table

def regenerate (services : Services σ κ) (config : Config κ) (campaignId : String) :
    Spec → Store.Table → Work σ κ (Regenerated κ)
  | .combat spec => regenerateCombat services config campaignId spec
  | .exploration spec => regenerateExploration services config campaignId spec

end BattleMaps
