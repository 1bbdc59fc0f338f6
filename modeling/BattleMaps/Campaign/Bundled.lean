import BattleMaps.Campaign.Catalog

/-!
# The bundled campaign

One campaign comes with the library: a port city, its council hall, and what lies beneath. It is
kept as the value that its campaign file holds.

## Main definitions

* `Bundled.crimsonAccord`: the campaign
* `Catalog.bundled`: the catalogue that holds it
-/

namespace BattleMaps

namespace Bundled

def point (id : String) (number : Int) (name description : String) (x y : Int)
    (combatMap : String) (isHidden : Bool) (acts : List Int) (tags : List String) : Json :=
  .object
    [("id", .text id), ("number", .int number), ("name", .text name),
     ("description", .text description), ("position", .object [("x", .int x), ("y", .int y)]),
     ("combatMapSpecId", .text combatMap), ("isHidden", .bool isHidden),
     ("actNumbers", .array (acts.map .int)), ("locationTags", .array (tags.map .text))]

/-- A region that must appear on a battle map. -/
def region (id name kind size position note : String) : Json :=
  .object
    [("id", .text id), ("name", .text name), ("type", .text kind),
     ("approximateSize", .text size), ("position", .text position), ("dmNote", .text note)]

/-- A battle map, at five feet to the square. -/
def combat (id name layout terrain lighting atmosphere : String) (regions : List Json) : Json :=
  .object
    [("id", .text id), ("name", .text name), ("layoutDescription", .text layout),
     ("feetPerSquare", .int 5), ("terrain", .text terrain), ("lighting", .text lighting),
     ("atmosphereNotes", .text atmosphere), ("regions", .array regions)]

def city : Json :=
  .object
    [("id", .text "valdris-city"),
     ("name", .text "The Free City of Valdris"),
     ("imageDescription", .text
       ("A sprawling port city on a rocky bay, tiered districts climbing from the " ++
        "rain-soaked docks to marble council buildings, with old temple ruins on the " ++
        "outskirts.")),
     ("pointsOfInterest", .array [
    point "poi_docks" 1 "valdris docks"
      "A busy waterfront district where cargo ships unload under lantern light."
      30 80 "valdris-docks" false [1]
      ["docks", "pier 7", "waterfront"],
    point "poi_council_hall" 2 "council hall"
      "The marble seat of the five merchant lords."
      55 25 "council-hall" false [1, 3]
      ["council hall", "council chambers"],
    point "poi_undercity" 3 "undercity tunnels"
      "Old sewer tunnels beneath the lower quarters."
      40 65 "undercity-tunnels" true [1]
      ["undercity", "tunnels", "sewers"],
    point "poi_warehouse" 4 "undercity warehouse"
      "A converted basement used by smugglers as a staging area."
      48 60 "smuggler-warehouse" true [1]
      ["warehouse", "smuggler warehouse"]])]

def docks : Json :=
  combat "valdris-docks" "Valdris Docks, Pier 7"
    ("A nighttime waterfront pier district. The southern edge is open water with wooden " ++
     "dock platforms extending outward. Two large cargo ships are moored along the south " ++
     "and southeast. Wooden pier walkways (5 ft wide) run between the ships and along the " ++
     "waterfront. The northern half has a row of warehouses and storage sheds with narrow " ++
     "alleys between them. Crates and barrels are stacked in clusters on the pier, " ++
     "providing cover. A main dock road runs east-west through the center connecting the " ++
     "pier to the city streets on the western edge. A harbormaster's shack sits in the " ++
     "northwest corner.")
    "urban" "dim"
    ("Rain-slicked wooden planks, lanterns swaying on ship masts, the smell of fish and " ++
     "tar. Fog rolling in from the harbor.")
   [region "region_main_pier" "main pier" "street" "large" "south"
      "Open wooden pier extending over the water. Rain-slicked and treacherous.",
    region "region_warehouse_row" "warehouse row" "shop" "medium" "north"
      "Locked warehouses with narrow alleys between them. One has the smuggler's stash.",
    region "region_cargo_area" "cargo staging area" "street" "medium" "center"
      ("Stacked crates and barrels provide half cover. The smuggler manifest is hidden in a " ++
       "crate here."),
    region "region_harbormaster" "harbormaster's shack" "safe" "small" "northwest"
      "Small office with a desk and logbooks. Currently unoccupied at night."]

def councilHall : Json :=
  combat "council-hall" "Valdris Council Hall"
    ("An imposing marble government building. The main entrance on the south opens into a " ++
     "grand foyer with pillars. The central feature is a large circular council chamber " ++
     "with a raised dais and five ornate chairs arranged in a semicircle. A grand reception " ++
     "room occupies the eastern wing with long banquet tables and a balcony overlooking the " ++
     "city. The western wing has private offices and meeting rooms connected by a corridor. " ++
     "A servants' passage runs along the northern wall connecting the kitchen to the " ++
     "reception room.")
    "interior" "bright"
    ("Polished marble floors, crystal chandeliers, tapestries depicting Valdris history. " ++
     "The air smells of beeswax candles and old paper.")
   [region "region_grand_foyer" "grand foyer" "safe" "medium" "south"
      "Two guards flanking the main doors. Visitors are announced by a herald.",
    region "region_council_chamber" "council chamber" "custom" "large" "center"
      ("The five council seats on a raised dais. Public gallery seating around the " ++
       "perimeter."),
    region "region_reception_room" "grand reception room" "tavern" "large" "east"
      "Used for formal events and council receptions. Balcony access on the east wall.",
    region "region_private_offices" "private offices" "residential" "medium" "west"
      "Council members' private offices. Lysara's office has a locked desk (DC 15).",
    region "region_servants_passage" "servants' passage" "street" "small" "north"
      "Narrow corridor used by staff. Good for eavesdropping."]

def tunnels : Json :=
  combat "undercity-tunnels" "Valdris Undercity Tunnels"
    ("A network of old sewer tunnels and forgotten basements beneath the lower quarters. " ++
     "The main tunnel runs north-south through the center, roughly 10 ft wide with arched " ++
     "brick ceilings. Side passages branch east and west, some collapsed and impassable. A " ++
     "flooded section in the southeast forces a detour through a narrow crawlspace. The " ++
     "northwest has a slightly wider junction where three tunnels meet. Rat nests cluster " ++
     "in dead-end alcoves along the eastern wall. The southern exit connects to the docks; " ++
     "the northern passage leads toward the warehouse.")
    "underground" "dark"
    ("Dripping water echoing off brick walls, the scurry of rats, stale air. Occasional " ++
     "patches of bioluminescent fungus provide faint green light.")
   [region "region_main_tunnel" "main tunnel" "dungeon" "large" "center"
      "10 ft wide with arched ceiling. Old sewer construction, still partially functional.",
    region "region_flooded_section" "flooded passage" "danger" "medium" "southeast"
      "Knee-deep stagnant water. DC 12 Athletics to wade through without losing footing.",
    region "region_tunnel_junction" "tunnel junction" "safe" "small" "northwest"
      "Where three tunnels meet. A safe rest point.",
    region "region_rat_nests" "rat nest alcoves" "danger" "small" "east"
      "Dead-end alcoves filled with debris and giant rat nests."]

def warehouse : Json :=
  combat "smuggler-warehouse" "Undercity Warehouse"
    ("A large converted basement used as a smuggler staging area. The main floor is a " ++
     "rectangular open space filled with crates and cargo arranged in rows. A raised wooden " ++
     "platform along the eastern wall holds crossbow positions overlooking the floor. The " ++
     "northern end has a walled-off office with a desk, lockbox, and document storage. Iron " ++
     "cages line the western wall. A tunnel entrance on the south connects to the " ++
     "undercity. A locked iron door in the northeast corner leads to a deeper tunnel toward " ++
     "the temple district.")
    "underground" "dim"
    "Lantern-lit with deep shadows between crate rows."
   [region "region_cargo_floor" "cargo floor" "dungeon" "large" "center"
      "Rows of crates provide half cover. Narrow lanes between them limit movement.",
    region "region_crossbow_platform" "raised platform" "danger" "small" "east"
      "Elevated 5 ft. Crossbow positions have advantage on attacks against targets below.",
    region "region_office" "smuggler's office" "residential" "small" "north"
      "The captain's office. Documents here connect deliveries to the hospital.",
    region "region_prisoner_cages" "prisoner cages" "danger" "medium" "west"
      "Empty iron cages with scratches on the walls and personal effects left behind."]

def crimsonAccord : Json :=
  .object
    [("slug", .text "the-crimson-accord"), ("title", .text "The Crimson Accord"),
     ("explorationMapSpecs", .array [city]),
     ("combatMapSpecs", .array [docks, councilHall, tunnels, warehouse])]

/-- The place of the bundled files. -/
def place : Files.Location := ["campaign_data"]

def files : Files.Tree :=
  [(place, .directory),
   (place ++ ["the-crimson-accord.json"], .file (Text.Utf8.encode crimsonAccord.write))]

end Bundled

/-- The catalogue that comes with the library. -/
def Catalog.bundled : Catalog where
  files := Bundled.files
  directory := ⟨.root, Bundled.place⟩

end BattleMaps
