/-!
# Standing instructions

What a model is told before any request: the shape of its answer, the meaning of the tile numbers
and the layout rules. A text model lays out a map from prose in five tile kinds; an image model
reads a picture in three.

## Main definitions

* `Prompt.layoutInstructions`: for laying out a map from prose
* `Prompt.readingInstructions`: for reading a map off a picture
* `Prompt.unwanted`: what a picture must not show
-/

namespace BattleMaps.Prompt

/-- The shape of the answer, by example. -/
def answerShape : List String :=
  ["\x7b",
   "  \"rows\": [            // 20 arrays of 20 tile values, row 0 first",
   "    [0,0,1,1,...],",
   "    ...",
   "  ],",
   "  \"regions\": [",
   "    \x7b",
   "      \"id\": \"region_<short_snake_case>\",",
   "      \"name\": \"Human-readable Area Name\",",
   "      \"type\": \"<region_type>\",",
   "      \"bounds\": \x7b \"minRow\": 0, \"maxRow\": 5, \"minCol\": 0, \"maxCol\": 5 \x7d,",
   "      \"dmNote\": \"Brief note on what is notable here\"",
   "    \x7d",
   "  ],",
   "  \"confidence\": \"high\" | \"medium\" | \"low\"",
   "\x7d"]

def regionKindLine : String :=
  "Region types: tavern, shop, temple, dungeon, wilderness, residential, street, " ++
    "guard_post, danger, safe, custom."

def layoutTask : List String :=
  ["You are a tabletop RPG battle map layout generator. Given a text description of a " ++
     "location, produce a 20x20 tile grid with walls, doors and floors, plus named region " ++
     "bounds.",
   "",
   "Return a single JSON object shaped like this:",
   ""]

def layoutTiles : List String :=
  ["",
   "Tile values: 0=outdoor floor, 1=wall, 2=door, 3=water (difficult terrain), 4=indoor floor."]

def layoutRules : List String :=
  ["",
   "Layout rules:",
   "- Row 0 is north, row 19 is south. Column 0 is west, column 19 is east.",
   "- Walls (1) outline rooms and building exteriors. Doors (2) connect rooms.",
   "- Open outdoor ground and corridors are 0. Walkable interior space is 4.",
   "- Rivers, ponds and canals are 3.",
   "- Corridors between distant rooms are 1-2 tiles wide.",
   "- Keep at least 30% of all tiles walkable.",
   "",
   "Region sizes: small ~2-3 rows x 3-4 cols, medium ~4-5 rows x 5-6 cols, large ~6-8 rows " ++
     "x 6-10 cols.",
   "Positions: north = rows 0-6, center = rows 7-12, south = rows 13-19; west = cols 0-6, " ++
     "east = cols 13-19.",
   "",
   "Terrain styles:",
   "- dungeon: thick walls, narrow corridors, many doors",
   "- urban: buildings as wall blocks with streets between them",
   "- interior: rooms divided by walls with doors",
   "- underground: tunnels and irregular caverns",
   "- wilderness: mostly open floor with scattered obstacles",
   "- mixed: combine styles as described",
   "",
   "Respond with ONLY valid JSON. No markdown fencing, no explanation."]

def readingTask : List String :=
  ["You are a tabletop RPG battle map analysis assistant. Given a map image, overlay a " ++
     "20x20 grid and produce structured JSON.",
   "",
   "Each cell covers exactly 5% of the image width and 5% of the image height. Row 0 is " ++
     "the top edge, column 0 is the left edge. Work row by row and classify what fills the " ++
     "majority of each cell.",
   "",
   "Return a single JSON object shaped like this:",
   ""]

def readingTiles : List String :=
  ["",
   "Tile values (only these three): 0=walkable floor, 1=wall or solid obstacle, 2=door or " ++
     "archway."]

def readingRules : List String :=
  ["",
   "Rules:",
   "- Exactly 20 rows of exactly 20 values.",
   "- When in doubt, prefer 0. Mark 1 only for clearly solid walls or obstacles.",
   "- Region bounds are inclusive minRow/maxRow/minCol/maxCol. Regions may overlap.",
   "- Use confidence \"low\" when the image is ambiguous or abstract.",
   "- You MUST use the exact region ids listed in the request.",
   "",
   "Respond with ONLY valid JSON. No markdown fencing, no explanation."]

def lines (l : List String) : String := "\n".intercalate l

/-- The standing instructions for laying out a map from prose. -/
def layoutInstructions : String :=
  lines (layoutTask ++ answerShape ++ layoutTiles ++ [regionKindLine] ++ layoutRules)

/-- The standing instructions for reading a map off a picture. -/
def readingInstructions : String :=
  lines (readingTask ++ answerShape ++ readingTiles ++ [regionKindLine] ++ readingRules)

def unwanted : String :=
  "isometric, 3d perspective, character tokens, miniatures, dice, text, labels, grid " ++
    "lines, blurry, low quality, watermark"

end BattleMaps.Prompt
