import BattleMaps.CommandLine.Options

/-!
# Help

Help lists the options with what each is for. A complaint about the arguments comes with a line
that says how the program is called.

## Main definitions

* `usageLine`: how the program is called
* `helpLines`: all that help says
* `Misuse.lines`: a complaint about the arguments
-/

namespace BattleMaps.CommandLine

def programName : String := "campaign-maps"

namespace Flag

def purpose : Flag → String
  | .help => "show this help and exit"
  | .campaign => "the campaign to generate maps for"
  | .map => "only generate the maps of this id"
  | .dryRun => "preview the plan; ask no services, keep nothing"
  | .noImages => "generate no pictures; lay out all battle maps from prose"
  | .campaignsDir => "the directory of campaign files"
  | .databaseUrl => "the address of the database"
  | .verbose => "say more"

/-- An option with a word for its value, if it has one. -/
def shape (f : Flag) (spelling : String) : String :=
  if f.hasValue then s!"{spelling} VALUE" else spelling

/-- An option as it stands in a call; all but one may be left out. -/
def inCall (f : Flag) : String :=
  let shown := f.shape (f.spellings.headD "")
  if f = .campaign then shown else s!"[{shown}]"

/-- The line of an option in the help. -/
def helpLine (f : Flag) : String :=
  "  " ++ ", ".intercalate (f.spellings.map f.shape) ++ ": " ++ f.purpose

end Flag

def usageLine : String :=
  s!"usage: {programName} " ++ " ".intercalate (Flag.all.map Flag.inCall)

def helpLines : List String :=
  [usageLine, "", "Generate exploration and combat maps for a campaign.", "", "options:"]
    ++ Flag.all.map Flag.helpLine

/-- The line that says what is wrong with the arguments. -/
def Misuse.errorLine (e : Misuse) : String := s!"{programName}: error: {e.message}"

/-- A complaint about the arguments. -/
def Misuse.lines (e : Misuse) : List String := [usageLine, e.errorLine]

end BattleMaps.CommandLine
