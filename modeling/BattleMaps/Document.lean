import BattleMaps.BattleMap
import BattleMaps.Json.Basic
import BattleMaps.Spec

/-!
# Stored documents and what they still need

The document of a map says which of its two artifacts are there: a picture, known by its address,
and for battle maps a complete grid. What a run does follows from the two alone: an artifact that
is there is never made again, and one that is missing is made if the services for it are at hand.

## Main definitions

* `Document.pictureUrl?`, `Document.hasCompleteGrid`: the two artifacts
* `Artifacts.of`: which of them are there
* `CombatAction.plan`, `ExplorationAction.plan`: what is to be done
* `documentId`: the key of a map's document
-/

namespace BattleMaps

/-- The key of a map's document. -/
def documentId (campaignId mapId : String) : String := s!"{campaignId}_{mapId}"

namespace Document

/-- The address of the picture, if there is one; a blank address is none. -/
def pictureUrl? (document : Fields) : Option String :=
  match document.value "backgroundImageUrl" with
  | .text url => if (Text.nonBlank? url).isSome then some url else none
  | _ => none

/-- Whether the grid is complete: all four hundred tiles and at least one region. -/
def hasCompleteGrid (document : Fields) : Bool :=
  match document.value "tileData", document.value "regions" with
  | .array tiles, .array regions => tiles.length == cellCount && !regions.isEmpty
  | _, _ => false

end Document

/-- Which artifacts are there. -/
inductive Artifacts where
  | neither
  | gridOnly
  | pictureOnly
  | both
deriving DecidableEq, Repr

namespace Artifacts

def all : List Artifacts := [neither, gridOnly, pictureOnly, both]

/-- The artifacts in a stored document, if there is one. -/
def of : Option Fields → Artifacts
  | none => neither
  | some document =>
    match (Document.pictureUrl? document).isSome, Document.hasCompleteGrid document with
    | true, true => both
    | true, false => pictureOnly
    | false, true => gridOnly
    | false, false => neither

def name : Artifacts → String
  | .neither => "no_artifact"
  | .gridOnly => "grid_only"
  | .pictureOnly => "image_only"
  | .both => "image_and_grid"

def hasPicture : Artifacts → Bool
  | .pictureOnly | .both => true
  | .neither | .gridOnly => false

end Artifacts

/-- What is to be done for a battle map. -/
inductive CombatAction where
  | reuse
  -- A grid is to be read off the stored picture.
  | readStored
  -- A picture is to be painted and a grid read off it.
  | paintAndRead
  -- A picture is to be painted for the stored grid.
  | attachPicture
  -- A grid is to be laid out from prose.
  | layOut
deriving DecidableEq, Repr

namespace CombatAction

def all : List CombatAction := [reuse, readStored, paintAndRead, attachPicture, layOut]

/-- What is to be done, given the artifacts and whether maps can be painted and read. -/
def plan (artifacts : Artifacts) (paints : Bool) : CombatAction :=
  match artifacts, paints with
  | .both, _ => reuse
  | .pictureOnly, true => readStored
  | .pictureOnly, false => layOut
  | .gridOnly, true => attachPicture
  | .gridOnly, false => reuse
  | .neither, true => paintAndRead
  | .neither, false => layOut

def name : CombatAction → String
  | .reuse => "reuse"
  | .readStored => "vision_backfill"
  | .paintAndRead => "image_then_vision"
  | .attachPicture => "attach_image"
  | .layOut => "text_to_grid"

end CombatAction

/-- What is to be done for an overview map. -/
inductive ExplorationAction where
  | reuse
  | paint
  -- A picture is missing and nobody paints.
  | unavailable
deriving DecidableEq, Repr

namespace ExplorationAction

def all : List ExplorationAction := [reuse, paint, unavailable]

/-- What is to be done, given the artifacts and whether overviews can be painted. -/
def plan (artifacts : Artifacts) (paints : Bool) : ExplorationAction :=
  if artifacts.hasPicture then reuse else if paints then paint else unavailable

def name : ExplorationAction → String
  | .reuse => "reuse"
  | .paint => "generate_image"
  | .unavailable => "unavailable"

end ExplorationAction

end BattleMaps
