import BattleMaps.Campaign.Format
import BattleMaps.Json.Lenient

/-!
# Reading campaigns

A campaign is read from an object, which may be wrapped in another one under `campaign`. Its maps
come in two lists, one for each kind. An older form has one flat list of battle maps; it is used
where the list of battle maps is absent, and then there are no overviews.

Texts are trimmed. What may be left out has a default; numbers are read leniently.

## Main definitions

* `Campaign.combatSpec`, `Campaign.explorationSpec`: reading a map
* `Campaign.ofFields`, `Campaign.ofJson`: reading a campaign
-/

namespace BattleMaps.Campaign

/-- A required text, trimmed. -/
def required (fields : Fields) (place : Place) (key : String) : Except ReadError String :=
  match (fields.value key).nonBlankText? with
  | some s => .ok s
  | none => .error (.format (.missingField place key))

/-- An optional text, trimmed. -/
def optional (fields : Fields) (key : String) : Option String := (fields.value key).nonBlankText?

/-- A number other than zero, or a default. -/
def numberOr (default : Int) (v : Json) : Int := (v.wholeNumber?.filter (· != 0)).getD default

/-- The items of a list; what does not count as given is the empty list. -/
def list? (v : Json) : Option (List Json) := if v.isFilled then v.items? else some []

/-! ## Battle maps -/

def requiredRegion (mapId : String) : Json → Except ReadError RequiredRegion
  | .object fields => do
    let id ← required fields (.map .combat mapId) "id"
    .ok {
      id := id
      name := (optional fields "name").getD id
      kind := (RegionKind.ofValue (Fields.value fields "type")).name
      size := ((optional fields "approximateSize").or (optional fields "size")).getD "medium"
      position := optional fields "position"
      dmNote := optional fields "dmNote" }
  | _ => .error (.format (.regionNotAnObject mapId))

/-- Refuses texts among which one is repeated, and names the first that is. -/
def firstRepeated (seen : List String) : List String → Option String
  | [] => none
  | s :: rest => if seen.contains s then some s else firstRepeated (s :: seen) rest

def combatSpec : Json → Except ReadError CombatSpec
  | .object fields => do
    let id ← required fields (.anyMap .combat) "id"
    let some entries := list? (Fields.value fields "regions")
      | .error (.format (.regionsNotAList id))
    let regions ← entries.mapM (requiredRegion id)
    if let some repeated := firstRepeated [] (regions.map (·.id)) then
      .error (.format (.repeatedRegion id repeated))
    let name ← required fields (.map .combat id) "name"
    let layout ← required fields (.map .combat id) "layoutDescription"
    .ok {
      id := id
      name := name
      feetPerSquare := numberOr 5 (Fields.value fields "feetPerSquare")
      terrain := (optional fields "terrain").getD "mixed"
      lighting := (optional fields "lighting").getD "mixed"
      layout := layout
      regions := regions
      atmosphere := optional fields "atmosphereNotes" }
  | _ => .error (.format (.mapNotAnObject .combat))

/-! ## Overviews -/

/-- A coordinate, as a number, as a text that spells one, or as a truth value; the middle where
there is none. -/
def coordinate (mapId : String) : Option Json → Except ReadError Coordinate
  | none => .ok (.number 50)
  | some (.real x) => .ok (.number x)
  | some (.bool b) => .ok (.number (if b then 1 else 0))
  | some (.int n) =>
    let x := Decimal.ofScientific (n < 0) n.natAbs 0
    if x.isInf then .error .hugeCoordinate else .ok (.number x)
  | some (.text s) =>
    match Decimal.ofText? s with
    | some x => .ok (if x.isNaN then .spelledNaN else .number x)
    | none => .error (.format (.positionNotNumeric mapId))
  | some _ => .error (.format (.positionNotNumeric mapId))

/-- A position; the middle of the map where there is none. -/
def position (mapId : String) : Json → Except ReadError (Coordinate × Coordinate)
  | .object fields => do
    let x ← coordinate mapId (Fields.get? fields "x")
    let y ← coordinate mapId (Fields.get? fields "y")
    .ok (x, y)
  | _ => .ok (.number 50, .number 50)

/-- The whole numbers of a list; everything else is passed over. -/
def wholeNumbers (v : Json) : List Int := (v.items?.getD []).filterMap Json.wholeNumber?

/-- The point of interest at an index of a map's list. -/
def pointOfInterest (mapId : String) (index : Nat) : Json → Except ReadError PointOfInterest
  | .object fields => do
    let (x, y) ← position mapId (Fields.value fields "position")
    let id ← required fields (.map .exploration mapId) "id"
    let name ← required fields (.map .exploration mapId) "name"
    .ok {
      id := id
      number := numberOr (index + 1) (Fields.value fields "number")
      name := name
      description := (optional fields "description").getD ""
      isHidden := (Fields.value fields "isHidden").isFilled
      combatMap := optional fields "combatMapSpecId"
      x := x
      y := y
      acts := wholeNumbers (Fields.value fields "actNumbers")
      tags := (Fields.value fields "locationTags").texts
      npcs := (Fields.value fields "defaultNPCSlugs").texts }
  | _ => .error (.format (.pointNotAnObject mapId))

/-- The points of interest of a map, from an index on. -/
def points (mapId : String) (index : Nat) : List Json → Except ReadError (List PointOfInterest)
  | [] => .ok []
  | v :: rest => do
    let p ← pointOfInterest mapId index v
    let others ← points mapId (index + 1) rest
    .ok (p :: others)

def explorationSpec : Json → Except ReadError ExplorationSpec
  | .object fields => do
    let id ← required fields (.anyMap .exploration) "id"
    let some entries := list? (Fields.value fields "pointsOfInterest")
      | .error (.format (.pointsNotAList id))
    let name ← required fields (.map .exploration id) "name"
    let points ← points id 0 entries
    .ok {
      id := id
      name := name
      points := points
      feetPerSquare := numberOr 100 (Fields.value fields "feetPerSquare")
      description := optional fields "imageDescription" }
  | _ => .error (.format (.mapNotAnObject .exploration))

/-! ## Campaigns -/

structure Lists where
  exploration : Json
  combat : Json
  isLegacy : Bool

/-- The lists of a campaign's maps: the flat list of the older form where the list of battle maps
is absent, and the two lists otherwise. -/
def lists (fields : Fields) : Lists :=
  match fields.value "combatMapSpecs", fields.value "mapSpecs" with
  | .null, .array specs => ⟨.array [], .array specs, true⟩
  | combat, _ => ⟨fields.value "explorationMapSpecs", combat, false⟩

/-- The object that describes the campaign: the one under `campaign`, if there is one. -/
def unwrap (fields : Fields) : Fields :=
  match fields.value "campaign" with
  | .object inner => inner
  | _ => fields

def ofFields (fields : Fields) : Except ReadError Campaign := do
  let fields := unwrap fields
  let id ← required fields .campaign "slug"
  let lists := lists fields
  match list? lists.exploration, list? lists.combat with
  | some explorationEntries, some combatEntries =>
    let exploration ← explorationEntries.mapM explorationSpec
    let combat ← combatEntries.mapM combatSpec
    .ok {
      id := id
      title := (optional fields "title").getD id
      exploration := exploration
      combat := combat
      isLegacy := lists.isLegacy }
  | _, _ => .error (.format (.mapsNotLists id))

def ofJson : Json → Except ReadError Campaign
  | .object fields => ofFields fields
  | _ => .error .notAnObject

end BattleMaps.Campaign
