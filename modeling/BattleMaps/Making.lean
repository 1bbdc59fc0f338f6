import BattleMaps.Document
import BattleMaps.Generation
import BattleMaps.Outcome

/-!
# Making what is missing

A map's missing artifacts are made with the services at hand. For a battle map the way over a
picture comes first where it is open: paint one, or fetch the stored one, and read the grid off
it. When that way fails, the grid is laid out from prose instead; what was spent stays on the bill.
Keeping a new picture is tried once and may fail without harm.

## Main definitions

* `Made`: what making has come to
* `Setback`: why the way over a picture was given up
* `makeCombat`, `makeExploration`: carrying out an action
-/

namespace BattleMaps

/-- Why the way over a picture was given up. -/
inductive Setback (κ : Type) where
  -- The stored picture cannot be fetched from anywhere.
  | noBlobStore
  | fetching (fault : Fault)
  | painting (fault : Fault)
  | noReader
  -- No grid could be read off the picture.
  | reading (e : Exhausted κ)

/-- What making has come to. -/
structure Made (κ : Type) where
  status : Status
  -- The way that was taken.
  path : String
  completionCost : κ
  imageCost : κ
  -- Why the way over a picture was given up, if it was.
  setback : Option (Setback κ) := none
  grid : Option BattleMap := none
  url : Option String
  error : Option String := none

variable {σ κ : Type} [Amount κ]

/-- Making before anything has been done. -/
def Made.start (status : Status) (path : String) (url : Option String) : Made κ :=
  { status := status, path := path, completionCost := 0, imageCost := 0, url := url }

def Made.fail (made : Made κ) (error : String) : Made κ :=
  { made with status := .failed, error := some error }

def Made.payCompletions (made : Made κ) (cost : κ) : Made κ :=
  { made with completionCost := made.completionCost + cost }

def Made.payPicture (made : Made κ) (cost : κ) : Made κ :=
  { made with imageCost := made.imageCost + cost }

/-- The name of the way through prose after the way over a picture was given up. -/
def fallbackPath : String := "text_fallback"

/-! ## Grids -/

def layOut (services : Services σ κ) (config : Config κ) (spec : CombatSpec) (made : Made κ) :
    Work σ κ (Made κ) := do
  match ← generate services config spec none with
  | .ok generated =>
    pure { made.payCompletions generated.cost with grid := some generated.map }
  | .error e => pure ((made.payCompletions e.cost).fail e.message)

/-- Gives up the way over a picture and lays the grid out from prose. -/
def fallBack (services : Services σ κ) (config : Config κ) (spec : CombatSpec) (made : Made κ)
    (setback : Setback κ) : Work σ κ (Made κ) :=
  layOut services config spec { made with path := fallbackPath, setback := some setback }

def readPicture (services : Services σ κ) (config : Config κ) (spec : CombatSpec)
    (picture : Picture) (made : Made κ) : Work σ κ (Made κ) :=
  if services.readsPictures then do
    match ← generate services config spec (some picture) with
    | .ok generated =>
      pure { made.payCompletions generated.cost with grid := some generated.map }
    | .error e => fallBack services config spec (made.payCompletions e.cost) (.reading e)
  else fallBack services config spec made .noReader

/-- Fetches the stored picture and reads a grid off it. -/
def readStored (services : Services σ κ) (config : Config κ) (spec : CombatSpec)
    (made : Made κ) : Work σ κ (Made κ) :=
  match services.blobs, made.url with
  | some blobs, some url => do
    match ← Work.ask blobs.download .downloaded url with
    | .ok bytes => readPicture services config spec ⟨bytes, config.pictureType⟩ made
    | .error fault => fallBack services config spec made (.fetching fault)
  -- without an address there is nothing to fetch, and without a place nothing to fetch it from
  | _, _ => fallBack services config spec made .noBlobStore

/-! ## Pictures -/

/-- Keeps a new picture, and answers with its address if that worked. -/
def keepPicture (services : Services σ κ) (config : Config κ) (campaignId mapId : String)
    (picture : Picture) : Work σ κ (Except PathPattern.Fault (Option String)) :=
  match services.blobs with
  | none => pure (.ok none)
  | some blobs =>
    match PathPattern.expand config.pathPattern campaignId mapId with
    | .error fault => pure (.error fault)
    | .ok path => do
      let answer ← Work.ask blobs.upload .uploaded ⟨path, picture⟩
      pure (.ok answer.toOption)

/-- Keeps a new picture and notes its address. -/
def keepFor (services : Services σ κ) (config : Config κ) (campaignId mapId : String)
    (picture : Picture) (made : Made κ) : Work σ κ (Except Breakdown (Made κ)) := do
  match ← keepPicture services config campaignId mapId picture with
  | .ok url => pure (.ok { made with url := url })
  | .error fault => pure (.error (.badPattern fault))

/-- Paints a picture; the rest of the work depends on whether that worked. -/
def paint (services : Services σ κ) (prompt : String)
    (next : Except Fault (Painting κ) → Work σ κ (Except Breakdown (Made κ))) :
    Work σ κ (Except Breakdown (Made κ)) :=
  match services.paint with
  | none => pure (.error .noPainter)
  | some painter => do
    let answer ← Work.ask painter .painted ⟨prompt, Prompt.unwanted⟩
    next answer

/-- Paints a picture, reads a grid off it and keeps it. -/
def paintAndRead (services : Services σ κ) (config : Config κ) (campaignId : String)
    (spec : CombatSpec) (made : Made κ) : Work σ κ (Except Breakdown (Made κ)) :=
  paint services (Prompt.combatPicture spec) fun
    | .error fault => do
      let made ← fallBack services config spec made (.painting fault)
      pure (.ok made)
    | .ok painting => do
      let made ← readPicture services config spec painting.picture
        (made.payPicture painting.cost)
      -- A picture that no grid could be read off is not kept.
      if made.setback.isSome then pure (.ok made)
      else keepFor services config campaignId spec.id painting.picture made

/-- Paints a picture for a stored grid and keeps it; without one the stored grid is reused. -/
def attachPicture (services : Services σ κ) (config : Config κ) (campaignId : String)
    (spec : CombatSpec) (made : Made κ) : Work σ κ (Except Breakdown (Made κ)) :=
  paint services (Prompt.combatPicture spec) fun
    -- the grid is there already, so a map without a picture is no failure
    | .error _ =>
      pure (.ok { made with status := .reused, path := CombatAction.reuse.name, url := none })
    | .ok painting =>
      keepFor services config campaignId spec.id painting.picture
        (made.payPicture painting.cost)

/-! ## Actions -/

/-- Carries out an action for a battle map whose picture, if any, has an address. -/
def makeCombat (services : Services σ κ) (config : Config κ) (campaignId : String)
    (spec : CombatSpec) (url : Option String) (action : CombatAction) :
    Work σ κ (Except Breakdown (Made κ)) :=
  let made := Made.start .generated action.name url
  match action with
  | .reuse => pure (.ok { made with status := .reused })
  | .readStored => do
    let made ← readStored services config spec made
    pure (.ok made)
  | .paintAndRead => paintAndRead services config campaignId spec made
  | .attachPicture => attachPicture services config campaignId spec made
  | .layOut => do
    let made ← layOut services config spec made
    pure (.ok made)

/-- Carries out an action for an overview whose picture, if any, has an address. -/
def makeExploration (services : Services σ κ) (config : Config κ) (campaignId : String)
    (spec : ExplorationSpec) (url : Option String) (action : ExplorationAction) :
    Work σ κ (Except Breakdown (Made κ)) :=
  let made := Made.start .generated action.name url
  match action with
  | .reuse => pure (.ok { made with status := .reused })
  | .unavailable =>
    pure (.ok (made.fail
      "No image pipeline available; exploration maps require image generation"))
  | .paint =>
    paint services (Prompt.explorationPicture spec) fun
      | .error fault => pure (.ok (made.fail s!"Image generation failed: {fault.message}"))
      | .ok painting =>
        keepFor services config campaignId spec.id painting.picture
          (made.payPicture painting.cost)

end BattleMaps
