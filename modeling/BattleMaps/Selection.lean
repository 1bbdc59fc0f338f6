import BattleMaps.Spec

/-!
# Selecting maps of a campaign

A run covers all maps of a campaign, or those of one id. Overviews and battle maps are selected
apart; an id may occur in both.

## Main definitions

* `Selection`: the selected maps
* `Campaign.select`: the maps of a campaign that a run covers
-/

namespace BattleMaps

structure Selection where
  exploration : List ExplorationSpec
  combat : List CombatSpec

namespace Selection

/-- The ids of the selected maps, overviews first. -/
def ids (s : Selection) : List String := s.exploration.map (·.id) ++ s.combat.map (·.id)

def isEmpty (s : Selection) : Bool := s.exploration.isEmpty && s.combat.isEmpty

def only (s : Selection) (mapId : String) : Selection where
  exploration := s.exploration.filter fun spec => spec.id == mapId
  combat := s.combat.filter fun spec => spec.id == mapId

end Selection

inductive SelectionError where
  | emptyCampaign (title : String)
  -- No map has the id; the ids of the maps there are follow.
  | unknownMap (mapId : String) (available : List String)
deriving DecidableEq, Repr

/-- Names in a message, or a word for there being none. -/
def namesOrNone (names : List String) : String :=
  let joined := ", ".intercalate names
  if joined.isEmpty then "none" else joined

def SelectionError.message : SelectionError → String
  | .emptyCampaign title => s!"Campaign \"{title}\" has no map specs defined."
  | .unknownMap mapId available =>
    s!"Map spec \"{mapId}\" not found in campaign. Available specs: {namesOrNone available}"

namespace Campaign

def maps (c : Campaign) : Selection := ⟨c.exploration, c.combat⟩

/-- The maps of a campaign that a run covers: all of them, or those of one id. -/
def select (c : Campaign) (mapId : Option String) : Except SelectionError Selection :=
  if c.maps.isEmpty then .error (.emptyCampaign c.title)
  else
    match mapId with
    | none => .ok c.maps
    | some id =>
      let selected := c.maps.only id
      if selected.isEmpty then .error (.unknownMap id c.maps.ids) else .ok selected

end Campaign

end BattleMaps
