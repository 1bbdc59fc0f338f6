import BattleMaps.BlobFolder
import BattleMaps.Campaign.Bundled
import BattleMaps.CommandLine.Machine
import BattleMaps.CommandLine.Options
import BattleMaps.Report.Lines
import BattleMaps.Run
import BattleMaps.Service.Painter
import BattleMaps.Settings

/-!
# The program

The program makes the maps of one campaign. It says which way it will go, loads the campaign, lists
the plan, and unless only a preview is wanted makes the maps and reports on them. Where it cannot
go on it says why and ends with a code of one; a run in which a map failed ends so too.

What it finds around itself is a parameter. Its result is lines and a code; the documents that it
makes are kept on the machine.

## Main definitions

* `Surroundings`: what the program finds around itself
* `Ending`: what it leaves behind
* `program`: the program
-/

namespace BattleMaps.CommandLine

open Files

/-- What the program finds around itself. -/
structure Surroundings (σ : Type) where
  settings : Settings
  machine : σ → Machine
  setMachine : Machine → σ → σ
  answer : Service σ Message Answer
  connection : Connection σ

/-- What the program leaves behind when it has done what it could. -/
structure Finish where
  code : Nat
  out : List String
  -- The lines that say why it could not go on.
  err : List String := []

/-- Why the program stops short. -/
inductive Stop where
  -- The directory of campaigns is given without a value.
  | noDirectory
  -- A campaign file cannot be read for a reason that is not its author's.
  | unreadable (e : Catalog.LoadError)
  | noDatabase (fault : Store.AddressFault)
  | noPainter (fault : Fault)
deriving DecidableEq

def Stop.message : Stop → String
  | .noDirectory => "no directory of campaigns is named"
  | .unreadable e => e.message
  | .noDatabase fault => fault.message
  | .noPainter fault => fault.message

inductive Ending where
  | help
  | misused (e : Misuse)
  -- Before it is done, after some lines.
  | stopped (said : List String) (stop : Stop)
  | finished (f : Finish)

/-- What the program says when there will be no pictures against what was asked for. -/
def noPicturesLine : String :=
  "STABILITY_API_KEY not set; falling back to text-to-grid pipeline."

/-- What the program says of a campaign in the older form. -/
def legacyLine : String := "Campaign uses legacy mapSpecs; treating all specs as combat maps."

/-- What the program says when it may not ask the language model. -/
def noKeyLine : String := "ANTHROPIC_API_KEY environment variable not set."

/-- Whether a campaign that cannot be loaded is its author's fault, who is told so. -/
def isReported : Catalog.LoadError → Bool
  | .notFound _ _ | .notJson _ _ | .notAnObject _ | .campaign (.format _) => true
  | .inaccessible _ | .notText | .limit _ | .campaign _ => false

namespace Surroundings

variable {σ : Type}

/-- The catalogue in a directory, or the bundled one. -/
def catalog (s : Surroundings σ) (directory : Option Value) (world : σ) : Except Stop Catalog :=
  match directory with
  | none => .ok Catalog.bundled
  | some (.text path) =>
    .ok ⟨(s.machine world).files, Path.ofString path, (s.machine world).current⟩
  | some .absent => .error .noDirectory

/-- The painting service for a key, unless the key is empty. -/
def painter (s : Surroundings σ) (key : String) :
    Except Fault (Service σ PaintRequest (Painting Float)) :=
  if key.isEmpty then .error Painter.noKey
  else .ok (Painter.service { key := key } s.connection)

/-- The services for a run from a current directory, with pictures if there is a key for painting
them. -/
def services (s : Surroundings σ) (current : Location) (painterKey : Option String) :
    Except Fault (Services σ Float) := do
  let paint ← painterKey.mapM s.painter
  let folder := BlobFolder.ofTexts s.settings.blobRoot s.settings.blobBaseUrl current
  let setFiles (t : Tree) (world : σ) : σ := s.setMachine { s.machine world with files := t } world
  .ok {
    complete := Completer.service s.settings.model s.answer
    readsPictures := paint.isSome
    paint := paint
    blobs := some (folder.store (fun world => (s.machine world).files) setFiles s.connection)
    now := fun world => (s.machine world).now }

def changeMachine (s : Surroundings σ) (f : Machine → Machine) : Work σ Float Unit :=
  Work.change fun world => s.setMachine (f (s.machine world)) world

def openDatabase (s : Surroundings σ) (url : String) :
    Work σ Float (Except Store.AddressFault (Option Database)) := do
  match (← Work.peek s.machine).database url with
  | .error fault => pure (.error fault)
  | .ok database => do
    s.changeMachine fun machine => machine.opened database
    pure (.ok database)

end Surroundings

variable {σ : Type}

/-- The address of the database that documents are kept in. -/
def databaseUrl (settings : Settings) (o : Options) : String :=
  ((o.databaseUrl.bind Value.text?).filter (!·.isEmpty)).getD settings.databaseUrl

/-- The maps of a campaign that an option selects. No map has an absent id. -/
def selected (campaign : Campaign) : Option Value → Except SelectionError Selection
  | none => campaign.select none
  | some (.text id) => campaign.select (some id)
  | some .absent => do
    let all ← campaign.select none
    .error (.unknownMap Value.absent.shown all.ids)

/-- Makes selected maps of a campaign, keeps them in a database, and reports on them; `said` are the
lines before. -/
def makeMaps (s : Surroundings σ) (o : Options) (campaign : Campaign) (pictures : Bool)
    (said : List String) (database : Option Database) : Work σ Float Ending := do
  let machine ← Work.peek s.machine
  match s.services machine.current (if pictures then s.settings.painterKey else none) with
  | .error fault => pure (.stopped said (.noPainter fault))
  | .ok services => do
    let (report, table) ←
      run (some services) Config.standard none campaign (o.mapId.bind Value.text?) false
        (machine.table database)
    s.changeMachine fun machine => machine.keep database table
    match report with
    | .error _ => pure (.finished { code := 1, out := said })
    | .ok report =>
      let code := if report.failures = 0 then 0 else 1
      pure (.finished { code := code, out := said ++ report.lines })

/-- What the program does for a campaign that it has loaded; `said` are the lines before. -/
def forCampaign (s : Surroundings σ) (o : Options) (campaign : Campaign) (pictures : Bool)
    (said : List String) : Work σ Float Ending :=
  let said := said ++ if campaign.isLegacy then [legacyLine] else []
  match selected campaign o.mapId with
  | .error e => pure (.finished { code := 1, out := said, err := [e.message] })
  | .ok selection =>
    let said := said ++ selection.lines campaign pictures o.isPreview
    if o.isPreview then
      let report := planned Config.standard pictures campaign true selection
      pure (.finished { code := 0, out := said ++ report.lines })
    else if (s.settings.completerKey.filter (!·.isEmpty)).isNone then
      pure (.finished { code := 1, out := said, err := [noKeyLine] })
    else do
      match ← s.openDatabase (databaseUrl s.settings o) with
      | .error fault => pure (.stopped said (.noDatabase fault))
      | .ok database => makeMaps s o campaign pictures said database

/-- The program, told which campaign. -/
def forName (s : Surroundings σ) (name : String) (o : Options) : Work σ Float Ending := do
  let pictures := !o.noPictures && s.settings.paints
  let said := if !o.noPictures && !s.settings.paints then [noPicturesLine] else []
  match ← Work.peek (s.catalog o.campaignsDir) with
  | .error stop => pure (.stopped said stop)
  | .ok catalog =>
    match catalog.load name with
    | .ok campaign => forCampaign s o campaign pictures said
    | .error e =>
      if isReported e then pure (.finished { code := 1, out := said, err := [e.message] })
      else pure (.stopped said (.unreadable e))

def program (s : Surroundings σ) (arguments : List String) : Work σ Float Ending :=
  match Command.ofArguments arguments with
  | .error e => pure (.misused e)
  | .ok .help => pure .help
  | .ok (.run name o) => forName s name o

end BattleMaps.CommandLine
