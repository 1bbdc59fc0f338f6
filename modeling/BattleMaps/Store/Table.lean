import BattleMaps.Json.Reader
import BattleMaps.Json.Writer
import BattleMaps.Spec

/-!
# The table of documents

Documents are kept in a table of rows. A row is found by its id; besides, no two rows share both
campaign and map, and each row names a kind of map. A change that would break one of these rules
is refused. The payload of a row is the canonical text of its document.

## Main definitions

* `Row`, `Table`: the rows
* `Table.insert`: adds a row
* `Table.put`: adds a row or replaces what a row says
* `Table.document?`: the document under an id
-/

namespace BattleMaps.Store

structure Row where
  id : String
  campaignId : String
  mapId : String
  mapType : String
  -- The text of the document.
  payload : String
deriving DecidableEq, Repr

abbrev Table := List Row

inductive Conflict where
  | unknownMapType
  -- Another row belongs to the same map of the same campaign.
  | repeatedMap
  -- Another row has the same id.
  | repeatedId
  -- An integer of the document has too many digits to be written.
  | longInteger
deriving DecidableEq, Repr

def Conflict.message : Conflict → String
  | .unknownMapType => "CHECK constraint failed: campaign_map_type_valid"
  | .repeatedMap =>
    "UNIQUE constraint failed: cme_campaign_maps.campaign_id, cme_campaign_maps.map_spec_id"
  | .repeatedId => "UNIQUE constraint failed: cme_campaign_maps.id"
  | .longInteger =>
    s!"Exceeds the limit ({Decimal.maxIntegerDigits} digits) for integer string conversion; " ++
      "use sys.set_int_max_str_digits() to increase the limit"

/-- A row with another kind of map and another payload. -/
def Row.withContent (r : Row) (mapType payload : String) : Row :=
  { r with mapType := mapType, payload := payload }

def isMapType (s : String) : Bool := s == MapType.combat.name || s == MapType.exploration.name

namespace Table

def row? (t : Table) (id : String) : Option Row := t.find? fun r => r.id == id

def insert (t : Table) (row : Row) : Except Conflict Table :=
  -- The rules are checked in the order in which a database reports them.
  if !isMapType row.mapType then .error .unknownMapType
  else if t.any fun r => r.campaignId == row.campaignId && r.mapId == row.mapId then
    .error .repeatedMap
  else if (t.row? row.id).isSome then .error .repeatedId
  else .ok (t ++ [row])

/-- Replaces the kind of map and the payload under an id; all else stays as it is. -/
def replace (t : Table) (id mapType payload : String) : Except Conflict Table :=
  if isMapType mapType then
    .ok (t.map fun r => if r.id == id then r.withContent mapType payload else r)
  else .error .unknownMapType

/-- Puts a row into the table: a row with its id is given its kind of map and its payload, and
otherwise the row is added. -/
def put (t : Table) (row : Row) : Except Conflict Table :=
  if (t.row? row.id).isSome then t.replace row.id row.mapType row.payload else t.insert row

/-- The document under an id; a payload that is no object stands for the empty one. -/
def document? (t : Table) (id : String) : Option Fields :=
  (t.row? id).map fun r => Json.readFields r.payload

end Table

end BattleMaps.Store
