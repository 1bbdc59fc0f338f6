import BattleMaps.Service.Completer
import BattleMaps.Text.Blank

/-!
# Settings of the program

The program is set up by environment variables. A variable that is blank counts as not set, and
blanks around a value are dropped.

## Main definitions

* `Settings`: how the program is set up
* `Settings.ofEnvironment`: the settings in an environment
-/

namespace BattleMaps

structure Settings where
  completerKey : Option String := none
  painterKey : Option String := none
  model : String := Completer.standardModel
  databaseUrl : String := "sqlite:///campaign_maps.db"
  blobRoot : String := "campaign_map_assets"
  -- The address under which pictures are found, if they have one.
  blobBaseUrl : Option String := none
deriving DecidableEq, Repr

namespace Settings

def paints (s : Settings) : Bool := s.painterKey.isSome

/-- The variables that set up the program. -/
def variableNames : List String :=
  ["ANTHROPIC_API_KEY", "STABILITY_API_KEY", "CAMPAIGN_MAP_MODEL", "CAMPAIGN_MAP_DATABASE_URL",
   "CAMPAIGN_MAP_BLOB_ROOT", "CAMPAIGN_MAP_BLOB_BASE_URL"]

/-- The settings in an environment. -/
def ofEnvironment (environment : String → Option String) : Settings :=
  let value (name : String) : Option String := (environment name).bind Text.nonBlank?
  let standard : Settings := {}
  { completerKey := value "ANTHROPIC_API_KEY"
    painterKey := value "STABILITY_API_KEY"
    model := (value "CAMPAIGN_MAP_MODEL").getD standard.model
    databaseUrl := (value "CAMPAIGN_MAP_DATABASE_URL").getD standard.databaseUrl
    blobRoot := (value "CAMPAIGN_MAP_BLOB_ROOT").getD standard.blobRoot
    blobBaseUrl := value "CAMPAIGN_MAP_BLOB_BASE_URL" }

end Settings

end BattleMaps
