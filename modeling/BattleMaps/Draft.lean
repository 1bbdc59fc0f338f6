import BattleMaps.BattleMap
import BattleMaps.Document
import BattleMaps.Store.UnitOfWork

/-!
# Drafts of documents

Before a document is stored it is drafted from the specification, from what is stored already, and
from what has been made. A complete stored grid always wins over a new one. The draft is compared
with the stored document, and only if they differ is it stored, with a time stamp; the time stamp
itself takes no part in the comparison.

## Main definitions

* `Draft`: a document before it is stored
* `Draft.combat?`, `Draft.exploration`: the drafts for the two kinds of maps
* `Draft.isUnchanged`: whether a draft says what is stored
-/

namespace BattleMaps

/-- A document before it is stored, without a time stamp. -/
structure Draft where
  fields : Fields
  -- Whether some part of it counts as new wherever it comes up.
  isElusive : Bool := false

def timeStampKey : String := "generatedAt"

namespace Draft

/-- Whether a member says what a document says under its key. -/
def agreesAt (stored : Fields) (member : String × Json) : Bool :=
  match stored.get? member.1 with
  | some v => member.2.agrees v
  | none => false

/-- Whether a draft says what the stored document says, time stamps aside. -/
def isUnchanged (stored : Fields) (d : Draft) : Bool :=
  !d.isElusive && (stored.erase timeStampKey).length == d.fields.length
    && d.fields.all (agreesAt stored)

/-- The document with a time stamp. -/
def stamped (now : Int) (d : Draft) : Json := .object (d.fields ++ [(timeStampKey, .int now)])

/-! ## Members -/

/-- The members that every document has. -/
def common (campaignId mapId : String) (mapType : MapType) (name : String) : Fields :=
  [("campaignId", .text campaignId), ("mapSpecId", .text mapId), ("mapType", .text mapType.name),
   ("name", .text name)]

/-- The address of the picture, if there is one and it is not empty. -/
def picture (url : Option String) : Fields := Fields.optionalText "backgroundImageUrl" url

/-- The value of a document under a key if it counts as given, and a default otherwise. -/
def givenOr (stored : Fields) (key default : String) : Json :=
  if (stored.value key).isFilled then stored.value key else .text default

def storedGrid (stored : Fields) : Fields :=
  [("tileData", stored.value "tileData"), ("regions", stored.value "regions"),
   ("tileEncoding", givenOr stored "tileEncoding" Encoding.legacy.name),
   ("confidence", givenOr stored "confidence" Confidence.medium.name)]

def newGrid (m : BattleMap) : Fields :=
  [("tileData", .array (m.grid.cells.map fun c : Nat => .int c)),
   ("regions", .array (m.regions.map Region.toJson)),
   ("tileEncoding", .text m.grid.encoding.name),
   ("confidence", .text m.confidence.name)]

/-- The members of the grid that is to be stored: the stored one if it is complete, and otherwise
the new one, if there is one. -/
def grid? (stored : Option Fields) (made : Option BattleMap) : Option Fields :=
  -- A complete grid in the store wins, even over one that has just been made.
  match stored.filter Document.hasCompleteGrid with
  | some document => some (storedGrid document)
  | none => made.map newGrid

/-! ## Drafts -/

/-- The draft of a battle map's document, if there is a grid. -/
def combat? (campaignId : String) (spec : CombatSpec) (stored : Option Fields)
    (made : Option BattleMap) (url : Option String) : Option Draft :=
  (grid? stored made).map fun grid =>
    { fields :=
        common campaignId spec.id .combat spec.name
          ++ [("gridSize", .int gridSize), ("feetPerSquare", .int spec.feetPerSquare)]
          ++ grid ++ picture url }

def exploration (campaignId : String) (spec : ExplorationSpec) (url : Option String) : Draft where
  fields :=
    common campaignId spec.id .exploration spec.name
      ++ [("feetPerSquare", .int spec.feetPerSquare),
          ("pointsOfInterest", .array (spec.points.map PointOfInterest.toJson))]
      ++ picture url
  isElusive := spec.points.any PointOfInterest.isElusive

/-- The row of a draft, under the key of its map. -/
def row (campaignId mapId : String) (mapType : MapType) (now : Int) (d : Draft) : Store.Row where
  id := documentId campaignId mapId
  campaignId := campaignId
  mapId := mapId
  mapType := mapType.name
  payload := (d.stamped now).write

end Draft

end BattleMaps
