import BattleMaps.Files.Tree
import BattleMaps.Service.Http
import BattleMaps.Service.Work
import BattleMaps.Text.Percent
import BattleMaps.Text.Quoted
import BattleMaps.Text.Url

/-!
# A folder of objects

Objects are kept as files under one directory, the root. An object's path may not lead out of the
root, nor to the root itself; it is resolved before anything is touched. The address of an object
lies under a base address if there is one, and is that of the file otherwise. Both kinds of
addresses can be fetched, and every other address is requested from the network.

## Main definitions

* `BlobFolder`: the folder
* `BlobFolder.upload`, `BlobFolder.source`: keeping an object, and where an address leads
* `BlobFolder.store`: the folder as a place where objects are kept
-/

namespace BattleMaps

open Files

/-- A folder of objects. -/
structure BlobFolder where
  root : Path
  -- The current directory, from which the root is seen.
  current : Location
  -- The base address, without slashes at its end; an empty one is none.
  base : Option String

/-- Why an object cannot be kept or fetched. -/
inductive BlobFault where
  -- The path leads out of the root, or to it.
  | escapes (path : String)
  | notStored (path : String) (fault : FileFault)
  -- The file could not be read, or its path is none or lies too deep.
  | file (fault : FileFault)
  | unknownAddress (url : String)
  | network (fault : HttpFault)
deriving DecidableEq

namespace BlobFault

def message : BlobFault → String
  | .escapes path => s!"Object path escapes the blob root: {path}"
  | .notStored path _ => s!"Failed to store {path}"
  | .file fault => fault.message
  | .unknownAddress url => s!"unknown url type: {Text.quote url}"
  | .network (.refused status _) => s!"HTTP Error {status}"
  | .network (.unreachable reason) => s!"<urlopen error {reason}>"

/-- A fault as the failure of a service. -/
def toFault (f : BlobFault) : Fault := ⟨"BlobStore", f.message⟩

end BlobFault

namespace BlobFolder

def dropLastSlashes (s : String) : String :=
  String.ofList (s.toList.reverse.dropWhile (· == '/')).reverse

/-- A folder whose root and base address are given as texts. -/
def ofTexts (root : String) (base : Option String) (current : Location) : BlobFolder where
  root := Path.ofString root
  current := current
  base := (base.map dropLastSlashes).filter fun s => !s.isEmpty

def place (b : BlobFolder) : Location := b.root.resolve b.current

def target (b : BlobFolder) (path : String) : Except BlobFault Location :=
  let p := b.root.join (Path.ofString (dropSlashes path))
  if p.hasNull then .error (.file .nullCharacter)
  else
    let l := p.resolve b.current
    if b.place.isInside l then .ok l else .error (.escapes path)

/-- The address of an object that is kept at a place. -/
def address (b : BlobFolder) (path : String) (l : Location) : String :=
  match b.base with
  | some base => s!"{base}/{Text.Percent.encode (dropSlashes path)}"
  | none => "file://" ++ Text.Percent.encode l.text

/-- Keeps an object: its address, and the files afterwards. -/
def upload (b : BlobFolder) (path : String) (bytes : Bytes) (t : Tree) :
    Except BlobFault String × Tree :=
  match b.target path with
  | .error fault => (.error fault, t)
  | .ok l =>
    match t.store l bytes with
    | (.ok (), t) => (.ok (b.address path l), t)
    | (.error .tooDeep, t) => (.error (.file .tooDeep), t)
    | (.error fault, t) => (.error (.notStored path fault), t)

/-! ## Fetching -/

inductive Source where
  | object (l : Location)
  | file (p : Path)
  | network (r : HttpRequest)

def after? (start s : String) : Option String :=
  if start.toList.isPrefixOf s.toList then some (String.ofList (s.toList.drop start.length))
  else none

def fetchRequest (url : String) : HttpRequest where
  url := url
  headers := [("User-Agent", "campaign-map-engine")]
  timeout := 30

/-- Where an address that is not the folder's own leads. -/
def foreignSource (url : String) : Except BlobFault Source :=
  match Text.Url.parts? url with
  | none => .error (.unknownAddress url)
  | some parts =>
    if parts.scheme = "file" then .ok (.file (Path.ofString (Text.Percent.decode parts.path)))
    else
      match Text.Url.requested? url with
      | some url => .ok (.network (fetchRequest url))
      | none => .error (.unknownAddress url)

def source (b : BlobFolder) (url : String) : Except BlobFault Source :=
  match b.base.bind fun base => after? (base ++ "/") url with
  | some path => (b.target (Text.Percent.decode path)).map .object
  | none => foreignSource url

/-- Fetches what an address leads to. -/
def download {σ : Type} (b : BlobFolder) (files : σ → Tree) (connection : Connection σ)
    (url : String) (world : σ) : Except BlobFault Bytes × σ :=
  match b.source url with
  | .error fault => (.error fault, world)
  | .ok (.object l) => (((files world).readAt l).mapError .file, world)
  | .ok (.file p) => (((files world).read b.current p).mapError .file, world)
  | .ok (.network r) =>
    let (answer, world) := connection r world
    (answer.mapError .network, world)

/-- The folder as a place where objects are kept, in a world that holds the files. -/
def store {σ : Type} (b : BlobFolder) (files : σ → Tree) (setFiles : Tree → σ → σ)
    (connection : Connection σ) : BlobStore σ where
  upload r world :=
    let (answer, t) := b.upload r.path r.picture.bytes (files world)
    (answer.mapError BlobFault.toFault, setFiles t world)
  download url world :=
    let (answer, world) := b.download files connection url world
    (answer.mapError BlobFault.toFault, world)

end BlobFolder

end BattleMaps
