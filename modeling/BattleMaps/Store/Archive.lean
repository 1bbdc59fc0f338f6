import BattleMaps.Store.Table
import BattleMaps.Text.Lines
import BattleMaps.Text.Utf8

/-!
# Tables in files

A table is kept in a file as a mark that no text has, so that it is never taken for one, and a line
of text for each row. A line is the JSON list of the five parts of its row; no line holds an end of
line, because canonical JSON escapes it.

## Main definitions

* `Table.archive`: the file of a table
* `Table.ofArchive?`: the table in a file
-/

namespace BattleMaps.Store

def Row.toJson (r : Row) : Json :=
  .array [.text r.id, .text r.campaignId, .text r.mapId, .text r.mapType, .text r.payload]

def Row.ofJson? : Json → Option Row
  | .array [.text id, .text campaignId, .text mapId, .text mapType, .text payload] =>
    some ⟨id, campaignId, mapId, mapType, payload⟩
  | _ => none

def Row.ofLine? (line : List Char) : Option Row :=
  (Json.read (String.ofList line)).toOption.bind Row.ofJson?

namespace Table

/-- The mark at the start of a file that holds a table: a byte of no text, and an end of line. -/
def archiveMark : Bytes := [0xFF, 0x0A]

def archive (t : Table) : Bytes :=
  archiveMark ++ Text.Utf8.encode (String.join (t.map fun r => r.toJson.write ++ "\n"))

/-- The table in a file, if it has the mark, all its rows can be told and none is refused. -/
def ofArchive? (bytes : Bytes) : Option Table := do
  guard (archiveMark.isPrefixOf bytes)
  let text ← Text.Utf8.decode? (bytes.drop archiveMark.length)
  let rows ← ((Text.lines text.toList).filter (!·.isEmpty)).mapM Row.ofLine?
  rows.foldlM (fun t row => (t.insert row).toOption) []

end Table

end BattleMaps.Store
