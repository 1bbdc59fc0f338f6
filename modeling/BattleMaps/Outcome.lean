import BattleMaps.PathPattern
import BattleMaps.Service.Work
import BattleMaps.Store.Table

/-!
# Outcomes

What came of a map: whether it was reused, made or failed, by which way, at what cost, and whether
the store was written. A map can also break down without an outcome, when something is wrong that
no other way to make the map could mend.

## Main definitions

* `Outcome`: what came of a map
* `Breakdown`: why a map has no outcome
-/

namespace BattleMaps

/-- What happened to a map. -/
inductive Status where
  | reused
  | generated
  | failed
  -- Something that has its own name in a report from elsewhere.
  | other (name : String)
deriving DecidableEq, Repr

namespace Status

def name : Status → String
  | .reused => "reused"
  | .generated => "generated"
  | .failed => "failed"
  | .other name => name

def ofName (s : String) : Status :=
  ([reused, generated, failed].find? (·.name == s)).getD (.other s)

end Status

/-- What came of a map. -/
structure Outcome (κ : Type) where
  mapId : String
  mapType : MapType
  status : Status
  -- The way that was taken.
  path : Option String := none
  completionCost : κ
  imageCost : κ
  -- How sure the source of the grid was, as stored.
  confidence : Json := .null
  pictureUrl : Option String := none
  written : Bool := false
  error : Option String := none

namespace Outcome

variable {κ : Type}

def isOk (o : Outcome κ) : Bool := o.status != .failed

def totalCost [Add κ] (o : Outcome κ) : κ := o.completionCost + o.imageCost

end Outcome

/-- Why a map has no outcome. -/
inductive Breakdown where
  -- A picture was to be painted, and nobody paints.
  | noPainter
  -- There is neither a stored nor a new grid.
  | noGrid (mapId : String)
  | badPattern (fault : PathPattern.Fault)
  | conflict (c : Store.Conflict)
deriving DecidableEq, Repr

def Breakdown.message : Breakdown → String
  | .noPainter => "No image generator"
  | .noGrid mapId => s!"No grid available for combat map {mapId}"
  | .badPattern fault => fault.message
  | .conflict c => c.message

end BattleMaps
