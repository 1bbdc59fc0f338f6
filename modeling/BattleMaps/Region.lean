import BattleMaps.Json.Lenient

/-!
# Regions

A region names a part of a map: an id that adventure notes refer to, a name, what kind of place it
is, and the indices of its tiles. Notes for the game master, the characters found there and goods
for sale are optional.

## Main definitions

* `RegionKind`: the kinds of places
* `Region`: a region of a validated map
* `Region.toJson`: a region as it is stored
-/

namespace BattleMaps

inductive RegionKind where
  | tavern
  | shop
  | temple
  | dungeon
  | wilderness
  | residential
  | street
  | guardPost
  | danger
  | safe
  | custom
deriving DecidableEq, Repr

namespace RegionKind

def all : List RegionKind :=
  [tavern, shop, temple, dungeon, wilderness, residential, street, guardPost, danger, safe, custom]

def name : RegionKind → String
  | .tavern => "tavern"
  | .shop => "shop"
  | .temple => "temple"
  | .dungeon => "dungeon"
  | .wilderness => "wilderness"
  | .residential => "residential"
  | .street => "street"
  | .guardPost => "guard_post"
  | .danger => "danger"
  | .safe => "safe"
  | .custom => "custom"

/-- The kind that a value names, in any case and with blanks around it; a value that names none
is taken for a place of its own kind. -/
def ofValue (v : Json) : RegionKind := (all.find? fun k => k.name == v.word).getD .custom

end RegionKind

/-- A region of a validated map. -/
structure Region where
  id : String
  name : String
  kind : RegionKind
  -- The indices of the tiles that belong to it.
  cells : List Nat
  dmNote : Option String := none
  -- The characters found there by default.
  npcs : Option (List String) := none
  inventory : Option (List String) := none
deriving DecidableEq, Repr

namespace Region

/-- A region as it is stored; optional parts only where they say something. -/
def toJson (r : Region) : Json :=
  .object <|
    [("id", .text r.id), ("name", .text r.name), ("type", .text r.kind.name),
     ("cells", .array (r.cells.map fun c : Nat => .int c))]
    ++ Fields.optionalText "dmNote" r.dmNote ++ Fields.optionalTexts "defaultNPCSlugs" r.npcs
    ++ Fields.optionalTexts "shopInventory" r.inventory

end Region

end BattleMaps
