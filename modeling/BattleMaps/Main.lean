import BattleMaps.CommandLine.Help
import BattleMaps.CommandLine.Program
import Std.Time.DateTime.Timestamp

/-!
# The command line

Runs the program on the files and in the environment of this computer. Before the program runs,
what it may look at is read into a machine: the campaign files, the pictures that are kept, and the
documents in its database. What it has changed is written afterwards.

No service is connected here. Plans and previews need none; a run that has to ask one reports that
it was not reached.
-/

namespace BattleMaps.CommandLine

open Files

/-- The settings in the environment. -/
def readSettings : IO Settings := do
  let values ← Settings.variableNames.mapM fun name => do return (name, ← IO.getEnv name)
  return Settings.ofEnvironment fun name => (values.lookup name).join

/-- A file tree with the file at a place on this computer, if there is one. -/
def readFile (t : Tree) (l : Location) : IO Tree := do
  match ← (IO.FS.readBinFile l.text).toBaseIO with
  | .ok bytes => return (t.store l bytes.toList).2
  | .error _ => return t

/-- A file tree with what a directory on this computer holds; `depth` limits how far down. -/
def readDirectory (depth : Nat) (t : Tree) (l : Location) : IO Tree := do
  match ← ((← IO.currentDir) / l.text).readDir.toBaseIO with
  | .error _ => readFile t l
  | .ok entries =>
    let t := (t.makeDirectories [] l).2
    match depth with
    | 0 => return t
    | depth + 1 =>
      entries.foldlM (fun t entry => readDirectory depth t (l ++ [entry.fileName])) t

/-- The machine that this computer is for a run with given options. -/
def readMachine (settings : Settings) (o : Options) : IO Machine := do
  let current := (Path.ofString (← IO.currentDir).toString).resolve []
  let resolved (path : String) : Location := (Path.ofString path).resolve current
  let files ← match o.campaignsDir.bind Value.text? with
    | some path => readDirectory 1 [] (resolved path)
    | none => pure []
  let files ← readDirectory 16 files (resolved settings.blobRoot)
  let files ← match Store.Address.ofString (databaseUrl settings o) with
    | .ok (.file path _) =>
      let l := path.resolve current
      readFile (← readDirectory 0 files l.dropLast) l
    | _ => pure files
  return {
    current := current
    files := files
    now := (← Std.Time.Timestamp.now).toMillisecondsSinceUnixEpoch.val }

/-- Writes a file with the directories on the way to it. -/
def writeFile (l : Location) (bytes : Bytes) : IO Unit := do
  IO.FS.createDirAll (Location.text l.dropLast)
  IO.FS.writeBinFile l.text ⟨bytes.toArray⟩

def writeChanges (old new : Machine) : IO Unit := do
  for (l, entry) in new.files do
    match entry with
    | .file bytes => unless old.files.entry? l == some entry do writeFile l bytes
    | .directory => pure ()

/-- A program's surroundings in which no service is reached. -/
def surroundings (settings : Settings) : Surroundings Machine where
  settings := settings
  machine := id
  setMachine machine _ := machine
  answer _ machine := (.error ⟨"Connection", "the language model is not connected"⟩, machine)
  connection _ machine := (.error (.unreachable "the network is not connected"), machine)

/-- Prints what a program said, writes what it changed, and gives its exit code. -/
def finish (old new : Machine) (f : Finish) : IO UInt32 := do
  f.out.forM IO.println
  f.err.forM IO.eprintln
  writeChanges old new
  return f.code.toUInt32

def runProgram (arguments : List String) : IO UInt32 := do
  let settings ← readSettings
  let machine ← match Command.ofArguments arguments with
    | .ok (.run _ options) => readMachine settings options
    | _ => pure { current := [] }
  let done := (program (surroundings settings) arguments).run machine
  finish machine done.world <| match done.result with
    | .help => { code := 0, out := helpLines }
    | .misused e => { code := 2, out := [], err := e.lines }
    | .stopped said stop => { code := 1, out := said, err := [stop.message] }
    | .finished f => f

end BattleMaps.CommandLine

/-- Makes the maps of the campaign that the arguments name. -/
def main (arguments : List String) : IO UInt32 := BattleMaps.CommandLine.runProgram arguments
