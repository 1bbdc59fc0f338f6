import BattleMaps.Campaign.Reader
import BattleMaps.Files.Tree
import BattleMaps.Json.Reader
import BattleMaps.Json.Writer
import BattleMaps.Selection
import BattleMaps.Text.Lines

/-!
# Catalogues of campaigns

A catalogue is a directory of campaign files. The file of a campaign is named for it, and a
catalogue lists the names without the ending; whatever has such a name is listed, also a directory.
Only the file itself says which campaign it holds.

## Main definitions

* `Catalog`: a directory of campaign files
* `Catalog.ids`: what a catalogue lists
* `Catalog.load`: the campaign in a file
-/

namespace BattleMaps

open Files

/-- A directory of campaign files. -/
structure Catalog where
  files : Tree
  directory : Path
  -- The current directory, from which the directory is seen.
  current : Location := []

namespace Catalog

/-- Why a campaign cannot be loaded. -/
inductive LoadError where
  -- There is no file for it; what the catalogue lists follows.
  | notFound (id : String) (available : List String)
  | inaccessible (fault : FileFault)
  | notText
  | notJson (path : String) (e : Json.ReadError)
  | limit (e : Json.ReadError)
  | notAnObject (path : String)
  | campaign (e : Campaign.ReadError)
deriving DecidableEq, Repr

/-- The wording of a load error; a limit and what is no text have none of their own. -/
def LoadError.message : LoadError → String
  | .notFound id available =>
    s!"Campaign \"{id}\" not found. Available campaigns: {namesOrNone available}"
  | .inaccessible fault => fault.message
  | .notText => "invalid UTF-8"
  | .notJson path e => s!"{path} is not valid JSON: {e.message}"
  | .limit e => e.message
  | .notAnObject path => s!"{path} must contain a JSON object"
  | .campaign (.format e) => e.message
  | .campaign .notAnObject => "not an object"
  | .campaign .hugeCoordinate => "int too large to convert to float"

def ending : String := ".json"

/-- The id for which a file is named, if it has the name of a campaign file. A name that is all
ending stands for itself. -/
def idOfName? (name : String) : Option String :=
  if name = ending then some name
  else
    let cs := name.toList
    let id := cs.take (cs.length - ending.length)
    if cs = id ++ ending.toList then some (String.ofList id) else none

/-- What the catalogue lists, in ascending order; nothing if there is no such directory. -/
def ids (c : Catalog) : List String :=
  if c.directory.hasNull then []
  else
    match c.files.walk (match c.directory.start with | .here => c.current | _ => [])
      c.directory.names with
    | .ok l =>
      match c.files.entry? l with
      | some .directory =>
        let found := (c.files.names l).filterMap idOfName?
        (Json.sortByKey (found.map fun id => (id, ()))).map (·.1)
      | _ => []
    | .error _ => []

def path (c : Catalog) (id : String) : Path := c.directory.join (Path.ofString (id ++ ending))

/-- The bytes of the file for an id. A way that does not lead to a file is no file at all, but a
name may be too long to be looked for. -/
def bytes (c : Catalog) (id : String) : Except LoadError Bytes :=
  match c.files.read c.current (c.path id) with
  | .ok bytes => .ok bytes
  | .error .tooLong => .error (.inaccessible .tooLong)
  | .error _ => .error (.notFound id c.ids)

def value (path : String) (bytes : Bytes) : Except LoadError Json :=
  match Text.Utf8.decode? bytes with
  | none => .error .notText
  | some s =>
    match Json.read (String.ofList (Text.unifyLineEnds s.toList)) with
    | .ok v => .ok v
    | .error (.malformed what line column pos) =>
      .error (.notJson path (.malformed what line column pos))
    | .error e => .error (.limit e)

def load (c : Catalog) (id : String) : Except LoadError Campaign := do
  let bytes ← c.bytes id
  match ← value (c.path id).text bytes with
  | .object fields => (Campaign.ofFields fields).mapError .campaign
  | _ => .error (.notAnObject (c.path id).text)

end Catalog

end BattleMaps
