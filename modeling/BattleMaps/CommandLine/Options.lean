import BattleMaps.Text.Digit
import BattleMaps.Text.Quoted

/-!
# Command line options

The program is told what to do by options. A long option may be shortened as long as one option is
left that it can mean; its value follows as the next argument or after an equals sign. Short
options without values may be run together. Two dashes after an equals sign are no value, yet the
option counts as given.

What is ambiguous is refused first, then what is used wrongly, then a missing option, and last
what was not recognised. Asking for help ends the reading.

## Main definitions

* `Flag`: the options
* `Word.ofArgument`: what an argument is taken for
* `Command.ofArguments`: what the program is told to do
-/

namespace BattleMaps.CommandLine

inductive Flag where
  | help
  | campaign
  | map
  | dryRun
  | noImages
  | campaignsDir
  | databaseUrl
  | verbose
deriving DecidableEq, Repr

namespace Flag

def all : List Flag :=
  [help, campaign, map, dryRun, noImages, campaignsDir, databaseUrl, verbose]

def spellings : Flag → List String
  | .help => ["-h", "--help"]
  | .campaign => ["--campaign"]
  | .map => ["--map"]
  | .dryRun => ["--dry-run"]
  | .noImages => ["--no-images"]
  | .campaignsDir => ["--campaigns-dir"]
  | .databaseUrl => ["--database-url"]
  | .verbose => ["-v", "--verbose"]

def hasValue : Flag → Bool
  | .campaign | .map | .campaignsDir | .databaseUrl => true
  | .help | .dryRun | .noImages | .verbose => false

/-- All spellings, in the order of the options. -/
def table : List (String × Flag) := all.flatMap fun f => f.spellings.map fun s => (s, f)

def ofSpelling? (s : String) : Option Flag := table.lookup s

/-- The name of an option in messages. -/
def name (f : Flag) : String := "/".intercalate f.spellings

end Flag

/-- Why arguments are refused. -/
inductive Misuse where
  -- A shortened option can mean several.
  | ambiguous (argument : String) (spellings : List String)
  | noValue (flag : Flag)
  | extraValue (flag : Flag) (value : String)
  | noCampaign
  | unrecognized (arguments : List String)
deriving DecidableEq, Repr

def Misuse.message : Misuse → String
  | .ambiguous argument spellings =>
    s!"ambiguous option: {argument} could match " ++ ", ".intercalate spellings
  | .noValue flag => s!"argument {flag.name}: expected one argument"
  | .extraValue flag value =>
    s!"argument {flag.name}: ignored explicit argument {Text.quote value}"
  | .noCampaign => "the following arguments are required: --campaign"
  | .unrecognized arguments => "unrecognized arguments: " ++ " ".intercalate arguments

/-! ## Words -/

inductive Word where
  | plain (s : String)
  -- The mark after which there are no options.
  | separator
  | unknown (s : String)
  -- An option, the spelling meant, and the value written along with it.
  | option (flag : Flag) (isShort : Bool) (value : Option String)
deriving DecidableEq, Repr

/-- Whether a spelling has one dash. -/
def isShort (spelling : String) : Bool :=
  match spelling.toList with
  | '-' :: '-' :: _ => false
  | _ => true

/-- Whether characters are decimal digits, and some. -/
def areDigits (cs : List Char) : Bool := !cs.isEmpty && cs.all fun c => (Text.digit? c).isSome

/-- Whether characters are digits with at most one point among them, which some digit follows. -/
def areNumber (cs : List Char) : Bool :=
  match cs.dropWhile fun c => (Text.digit? c).isSome with
  | [] => !cs.isEmpty
  | '.' :: fraction => areDigits fraction
  | _ => false

/-- Whether an argument is a negative number, which is no option; a line may end with it. -/
def isNegativeNumber (s : String) : Bool :=
  match s.toList with
  | '-' :: rest => areNumber (if rest.getLast? = some '\n' then rest.dropLast else rest)
  | _ => false

/-- An argument up to its first equals sign, and what follows that. -/
def splitValue (s : String) : String × Option String :=
  let cs := s.toList
  let before := cs.takeWhile (· != '=')
  match cs.drop before.length with
  | [] => (s, none)
  | _ :: value => (String.ofList before, some (String.ofList value))

/-- The options that an argument with two dashes can mean, by their spellings. -/
def longMatches (s : String) : List (String × Word) :=
  let (start, value) := splitValue s
  let found := Flag.table.filter fun entry => start.toList.isPrefixOf entry.1.toList
  found.map fun (spelling, flag) => (spelling, .option flag (isShort spelling) value)

/-- The option that an argument with one dash begins with; the rest is its value. -/
def shortMatches (s : String) : List (String × Word) :=
  let start := String.ofList (s.toList.take 2)
  (Flag.table.filter fun entry => entry.1 == start).map fun (spelling, flag) =>
    (spelling, .option flag true (some (String.ofList (s.toList.drop 2))))

/-- What an argument is taken for that starts with a dash and spells no option. -/
def Word.ofMatches (s : String) (found : List (String × Word)) : Except Misuse Word :=
  match found with
  | [(_, word)] => .ok word
  | [] => .ok (if isNegativeNumber s || s.toList.contains ' ' then .plain s else .unknown s)
  | found => .error (.ambiguous s (found.map (·.1)))

/-- What an argument is taken for that has an equals sign after the spelling of an option. -/
def Word.ofAssignment? (s : String) : Option Word :=
  match splitValue s with
  | (spelling, some value) =>
    (Flag.ofSpelling? spelling).map fun flag => .option flag (isShort spelling) (some value)
  | _ => none

def Word.ofArgument (s : String) : Except Misuse Word :=
  match s.toList with
  | '-' :: _ :: _ =>
    match Flag.ofSpelling? s with
    | some flag => .ok (.option flag (isShort s) none)
    | none =>
      match Word.ofAssignment? s with
      | some word => .ok word
      | none => Word.ofMatches s (if isShort s then shortMatches s else longMatches s)
  | _ => .ok (.plain s)

/-- What arguments are taken for; after the separator all are plain. -/
def words : List String → Except Misuse (List Word)
  | [] => .ok []
  | s :: rest =>
    if s = "--" then .ok (.separator :: rest.map .plain)
    else do
      let word ← Word.ofArgument s
      let others ← words rest
      .ok (word :: others)

/-! ## Commands -/

inductive Value where
  | text (s : String)
  | absent
deriving DecidableEq, Repr

namespace Value

/-- The value that is written after an equals sign; two dashes are none. -/
def ofAssigned (s : String) : Value := if s = "--" then .absent else .text s

def text? : Value → Option String
  | .text s => some s
  | .absent => none

/-- How a value is shown where a text is wanted: an absent one as an empty list. -/
def shown (v : Value) : String := v.text?.getD "[]"

end Value

structure Options where
  campaign : Option Value := none
  mapId : Option Value := none
  isPreview : Bool := false
  noPictures : Bool := false
  campaignsDir : Option Value := none
  databaseUrl : Option Value := none
  isVerbose : Bool := false
deriving DecidableEq, Repr

/-- Notes an option with its value; the last one counts. -/
def Options.set (o : Options) (value : Value) : Flag → Options
  | .help => o
  | .campaign => { o with campaign := some value }
  | .map => { o with mapId := some value }
  | .dryRun => { o with isPreview := true }
  | .noImages => { o with noPictures := true }
  | .campaignsDir => { o with campaignsDir := some value }
  | .databaseUrl => { o with databaseUrl := some value }
  | .verbose => { o with isVerbose := true }

/-- The short options that are run together, the first one being known. -/
def cluster (flag : Flag) : List Char → Except Misuse (List Flag)
  | [] => .ok [flag]
  | c :: rest =>
    match Flag.ofSpelling? (String.ofList ['-', c]) with
    | some next => (cluster next rest).map (flag :: ·)
    | none => .error (.extraValue flag (String.ofList (c :: rest)))

/-- What has been read of the arguments. -/
structure Progress where
  options : Options := {}
  -- What meant nothing so far.
  extras : List String := []
  wantsHelp : Bool := false

namespace Progress

/-- Passes over arguments that mean nothing. -/
def skip (p : Progress) (arguments : List String) : Progress :=
  { p with extras := p.extras ++ arguments }

/-- Notes options without values. -/
def note (p : Progress) (flags : List Flag) : Progress :=
  { p with
    options := flags.foldl (fun o f => o.set .absent f) p.options
    wantsHelp := p.wantsHelp || flags.contains .help }

end Progress

/-- Reads words, up to where help is asked for. -/
def readWords : Progress → List Word → Except Misuse Progress
  | p, [] => .ok p
  | p, .plain s :: rest => readWords (p.skip [s]) rest
  | p, .separator :: rest => readWords (p.skip ["--"]) rest
  | p, .unknown s :: rest => readWords (p.skip [s]) rest
  | p, .option flag isShort (some value) :: rest =>
    if flag.hasValue then
      readWords { p with options := p.options.set (.ofAssigned value) flag } rest
    else if isShort && !value.isEmpty then do
      let flags ← cluster flag value.toList
      let p := p.note flags
      if p.wantsHelp then .ok p else readWords p rest
    else .error (.extraValue flag value)
  | p, .option flag _ none :: rest =>
    if flag.hasValue then
      match rest with
      | .plain value :: rest =>
        readWords { p with options := p.options.set (.text value) flag } rest
      | _ => .error (.noValue flag)
    else
      let p := p.note [flag]
      if p.wantsHelp then .ok p else readWords p rest

/-- What the program is told to do. -/
inductive Command where
  | help
  | run (campaign : String) (options : Options)
deriving DecidableEq, Repr

def Command.ofArguments (arguments : List String) : Except Misuse Command := do
  let p ← readWords {} (← words arguments)
  if p.wantsHelp then .ok .help
  else
    match p.options.campaign, p.extras with
    | none, _ => .error .noCampaign
    | some campaign, [] => .ok (.run campaign.shown p.options)
    | some _, extras => .error (.unrecognized extras)

end BattleMaps.CommandLine
