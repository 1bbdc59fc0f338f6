import BattleMaps.Grid
import BattleMaps.Spec

/-!
# Requests

The text that goes with each request: what a text model is to lay out, which regions an image
model is to look for, and what a picture is to show. Parts that a specification leaves open are
left out of the text.

Hidden points of interest never reach a picture's text.

## Main definitions

* `Prompt.layout`, `Prompt.regionHints`, `Prompt.reading`: requests for a grid
* `Prompt.combatPicture`, `Prompt.explorationPicture`: requests for a picture
-/

namespace BattleMaps.Prompt

/-- An optional text, if it says anything. -/
def given (s : Option String) : Option String := s.filter fun t => !t.isEmpty

/-- The texts that say anything, with a space between them. -/
def sentences (parts : List String) : String :=
  " ".intercalate (parts.filter fun p => !p.isEmpty)

/-! ## Grids -/

/-- A required region in a layout request. -/
def regionLine (r : RequiredRegion) : String :=
  let position := match given r.position with
    | some p => [s!"position: {p}"]
    | none => []
  let note := match given r.dmNote with
    | some n => [s!"note: {n}"]
    | none => []
  ", ".intercalate ([s!"  - {r.id}: \"{r.name}\" ({r.kind}, {r.size})"] ++ position ++ note)

/-- The request to lay out a map from prose. -/
def layout (spec : CombatSpec) : String :=
  let atmosphere := match given spec.atmosphere with
    | some a => [s!"Atmosphere: {a}", ""]
    | none => []
  let regions :=
    if spec.regions.isEmpty then []
    else
      "Required Regions (each must appear in your output with the same id):" ::
        spec.regions.map regionLine ++ [""]
  "\n".intercalate <|
    [s!"Generate a {gridSize}x{gridSize} map grid for: \"{spec.name}\"",
     "",
     s!"Terrain: {spec.terrain}",
     s!"Lighting: {spec.lighting}",
     s!"Scale: {spec.feetPerSquare} feet per square",
     "",
     "Layout Description:",
     spec.layout,
     ""]
    ++ atmosphere ++ regions ++
    ["Generate the rows and regions. Every region listed above MUST appear " ++
      "in the output regions array with the same id."]

/-- A required region as a hint for reading a picture. -/
def regionHint (r : RequiredRegion) : String :=
  let position := (given r.position).getD "unspecified"
  let name := if r.name.isEmpty then "" else s!"\n  name: \"{r.name}\""
  let note := match given r.dmNote with
    | some n => s!"\n  note: {n}"
    | none => ""
  s!"- {r.id} (type: {r.kind}, approximate position: {position}, size: {r.size})" ++ name ++ note

def regionHints (spec : CombatSpec) : String := "\n".intercalate (spec.regions.map regionHint)

/-- What a scale suggests about a map: beyond ten feet to the square it shows open country. -/
def scaleHint (feetPerSquare : Int) : String :=
  if feetPerSquare > 10 then
    "This is a zone/overworld map. Expect large open areas with few walls."
  else "This is a detailed dungeon/city map. Look for walls, doors and distinct rooms."

/-- The request to read a map off a picture. -/
def reading (spec : CombatSpec) : String :=
  let hints := regionHints spec
  let demands :=
    if hints.isEmpty then ""
    else
      "\n\nThis map must include the following named regions. " ++
        "Use these EXACT region ids and types:\n" ++ hints ++ "\n\n" ++
        "Match each region's bounding box to where that area appears in the image. " ++
        "Every region listed above MUST appear in your output regions array with the same id."
  s!"Analyze this map image on a {gridSize}x{gridSize} grid. " ++
    s!"Scale: {spec.feetPerSquare} feet per square. {scaleHint spec.feetPerSquare}" ++ demands

/-! ## Pictures -/

def terrainLooks : List (String × String) :=
  [("urban", "city streets, cobblestone, buildings"),
   ("dungeon", "dark stone corridors, torchlit, dungeon walls"),
   ("underground", "cave tunnels, damp stone, stalactites"),
   ("interior", "wooden floors, stone walls, furnished rooms"),
   ("wilderness", "natural terrain, trees, rocks, grass"),
   ("mixed", "varied terrain, combination of indoor and outdoor areas")]

def lightingLooks : List (String × String) :=
  [("bright", "well-lit, daylight, clear visibility"),
   ("dim", "low light, flickering lanterns, soft shadows"),
   ("dark", "very dark, minimal light, deep shadows"),
   ("mixed", "patches of light and shadow, varied illumination")]

/-- The look of a word, and the word itself where none is known. -/
def look (looks : List (String × String)) (word : String) : String :=
  (looks.lookup word).getD word

def combatPicture (spec : CombatSpec) : String :=
  let names := ", ".intercalate (spec.regions.map (·.name))
  sentences
    [s!"Top-down overhead view of a fantasy battle map: {spec.name}.",
     look terrainLooks spec.terrain ++ ".",
     look lightingLooks spec.lighting ++ ".",
     spec.layout,
     match given spec.atmosphere with
     | some a => a ++ "."
     | none => "",
     if names.isEmpty then "" else s!"Key areas: {names}.",
     "Detailed fantasy tabletop RPG battle map, top-down orthographic view,",
     "no characters or tokens, high detail textures, painted style."]

/-- The names that an overview may show. -/
def landmarks (points : List PointOfInterest) : List String :=
  (points.filter fun p => !p.isHidden).map (·.name)

def explorationPicture (spec : ExplorationSpec) : String :=
  let names := ", ".intercalate (landmarks spec.points)
  sentences
    [s!"Zoomed-out bird's-eye view of a fantasy region map: {spec.name}.",
     spec.description.getD "",
     if names.isEmpty then "" else s!"Notable landmarks: {names}.",
     "Hand-painted fantasy cartography, top-down view, wide overview,",
     "no characters or tokens, no text labels, high detail."]

end BattleMaps.Prompt
