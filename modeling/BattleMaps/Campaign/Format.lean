import BattleMaps.Spec
import BattleMaps.Text.Quoted

/-!
# What a campaign file may get wrong

Campaign files are written by hand. Each rule that a file can break has its own cause, which names
the place where it is broken.

## Main definitions

* `Campaign.Place`: where something is missing
* `Campaign.FormatError`: the broken rules
-/

namespace BattleMaps.Campaign

/-- A part of a campaign file. -/
inductive Place where
  | campaign
  -- A map whose id is not known yet.
  | anyMap (mapType : MapType)
  | map (mapType : MapType) (id : String)
deriving DecidableEq, Repr

def Place.text : Place → String
  | .campaign => "campaign"
  | .anyMap t => s!"{t.name} map spec"
  | .map t id => s!"{t.name} map spec {Text.quote id}"

/-- A rule that a campaign file breaks. -/
inductive FormatError where
  -- A required text is missing, blank or no text.
  | missingField (place : Place) (key : String)
  | mapsNotLists (campaignId : String)
  | mapNotAnObject (mapType : MapType)
  | regionsNotAList (mapId : String)
  | regionNotAnObject (mapId : String)
  | repeatedRegion (mapId regionId : String)
  | pointsNotAList (mapId : String)
  | pointNotAnObject (mapId : String)
  | positionNotNumeric (mapId : String)
deriving DecidableEq, Repr

def FormatError.message : FormatError → String
  | .missingField place key => s!"{place.text} is missing required field {Text.quote key}"
  | .mapsNotLists id => s!"Campaign {Text.quote id} map spec fields must be lists"
  | .mapNotAnObject .combat => "Combat map specs must be objects"
  | .mapNotAnObject .exploration => "Exploration map specs must be objects"
  | .regionsNotAList id => (Place.map .combat id).text ++ " regions must be a list"
  | .regionNotAnObject id => (Place.map .combat id).text ++ " region entries must be objects"
  | .repeatedRegion id region =>
    (Place.map .combat id).text ++ s!" declares region {Text.quote region} twice"
  | .pointsNotAList id => (Place.map .exploration id).text ++ " pointsOfInterest must be a list"
  | .pointNotAnObject id =>
    (Place.map .exploration id).text ++ " point of interest entries must be objects"
  | .positionNotNumeric id =>
    (Place.map .exploration id).text ++ " has a non-numeric point of interest position"

/-- Why a campaign cannot be read from a value. -/
inductive ReadError where
  | notAnObject
  | format (e : FormatError)
  -- A coordinate is an integer beyond all doubles.
  | hugeCoordinate
deriving DecidableEq, Repr

end BattleMaps.Campaign
