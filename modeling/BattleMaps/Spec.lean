import BattleMaps.Region

/-!
# What a campaign asks for

A campaign lists the maps it needs. A combat map is described in prose, with the regions that must
appear on it; an exploration map shows points of interest on an overview.

## Main definitions

* `RequiredRegion`, `CombatSpec`: a battle map to be made
* `PointOfInterest`, `ExplorationSpec`: an overview map to be made
* `Spec`: either
* `Campaign`: all the maps of a campaign
-/

namespace BattleMaps

/-- A region that must appear on a combat map. -/
structure RequiredRegion where
  -- The id that the map must use.
  id : String
  name : String
  -- The kind of place, as the campaign words it.
  kind : String
  size : String
  position : Option String := none
  dmNote : Option String := none
deriving DecidableEq, Repr

structure CombatSpec where
  -- The id, unique in its campaign.
  id : String
  name : String
  feetPerSquare : Int
  terrain : String
  lighting : String
  layout : String
  regions : List RequiredRegion := []
  atmosphere : Option String := none
deriving DecidableEq, Repr

/-- A coordinate of a place, in percent of the map. -/
inductive Coordinate where
  -- A number, which may be not-a-number if it was given as such.
  | number (x : Float)
  -- A text that spells not-a-number; it counts as a new value wherever it comes up.
  | spelledNaN

/-- The number that a coordinate is stored as. -/
def Coordinate.toFloat : Coordinate → Float
  | .number x => x
  | .spelledNaN => 0 / 0

/-- A place marked on an exploration map. -/
structure PointOfInterest where
  id : String
  -- The number shown on the map.
  number : Int
  name : String
  description : String
  -- Whether players must not learn of it.
  isHidden : Bool := false
  combatMap : Option String := none
  -- The distance from the left edge.
  x : Coordinate := .number 50
  -- The distance from the top edge.
  y : Coordinate := .number 50
  -- The acts in which it matters.
  acts : List Int := []
  tags : List String := []
  -- The characters found there by default.
  npcs : List String := []

def PointOfInterest.toJson (p : PointOfInterest) : Json :=
  .object <|
    [("id", .text p.id), ("number", .int p.number), ("name", .text p.name),
     ("description", .text p.description),
     ("position", .object [("x", .real p.x.toFloat), ("y", .real p.y.toFloat)]),
     ("combatMapSpecId", .text (p.combatMap.getD "")), ("isHidden", .bool p.isHidden),
     ("actNumbers", .array (p.acts.map .int)), ("locationTags", .array (p.tags.map .text))]
    ++ Fields.optionalTexts "defaultNPCSlugs" (some p.npcs)

/-- Whether a place counts as new wherever it comes up. -/
def PointOfInterest.isElusive (p : PointOfInterest) : Bool :=
  match p.x, p.y with
  | .number _, .number _ => false
  | _, _ => true

structure ExplorationSpec where
  -- The id, unique in its campaign.
  id : String
  name : String
  points : List PointOfInterest := []
  feetPerSquare : Int := 100
  description : Option String := none

inductive MapType where
  | combat
  | exploration
deriving DecidableEq, Repr

def MapType.name : MapType → String
  | .combat => "combat"
  | .exploration => "exploration"

inductive Spec where
  | combat (spec : CombatSpec)
  | exploration (spec : ExplorationSpec)

namespace Spec

def id : Spec → String
  | .combat s => s.id
  | .exploration s => s.id

def mapType : Spec → MapType
  | .combat _ => .combat
  | .exploration _ => .exploration

end Spec

/-- The maps that a campaign needs. -/
structure Campaign where
  id : String
  title : String
  exploration : List ExplorationSpec := []
  combat : List CombatSpec := []
  -- Whether the campaign came in the older form, one flat list of battle maps.
  isLegacy : Bool := false

end BattleMaps
