import BattleMaps.Files.Path

/-!
# File trees

A file tree holds files and directories by their places. There are no links, so a place is one
sequence of names. Names are limited in length, and so are whole paths.

Following a path goes from name to name through directories that must be there; resolving it
beforehand does not look at the tree.

## Main definitions

* `Tree`: files and directories
* `Tree.walk`, `Tree.read`: following a path
* `Tree.store`: writing a file, with the directories on the way
* `Tree.names`: what a directory holds
-/

namespace BattleMaps.Files

inductive Entry where
  | file (bytes : Bytes)
  | directory
deriving DecidableEq, Repr

/-- Files and directories by their places; the root is always there. -/
abbrev Tree := List (Location × Entry)

/-- Why something cannot be done with a file tree. -/
inductive FileFault where
  | notFound
  -- The way leads through a file.
  | notADirectory
  | isADirectory
  -- A name or the whole path is too long.
  | tooLong
  | nullCharacter
  -- Too many directories are to be made at once.
  | tooDeep
deriving DecidableEq, Repr

def FileFault.message : FileFault → String
  | .notFound => "No such file or directory"
  | .notADirectory => "Not a directory"
  | .isADirectory => "Is a directory"
  | .tooLong => "File name too long"
  | .nullCharacter => "embedded null byte"
  | .tooDeep => "Too many directories to be made"

def maxNameBytes : Nat := 255

def maxPathBytes : Nat := 4095

/-- The most directories that can be made at once. -/
def maxNewDirectories : Nat := 988

def isLongName (name : String) : Bool := maxNameBytes < name.utf8ByteSize

def isLongPath (path : String) : Bool := maxPathBytes < path.utf8ByteSize

namespace Tree

def entry? (t : Tree) (l : Location) : Option Entry :=
  if l.isEmpty then some .directory else t.lookup l

/-- Puts an entry at a place, in place of what was there. -/
def put (t : Tree) (l : Location) (e : Entry) : Tree :=
  if t.any fun other => other.1 == l then
    t.map fun other => if other.1 == l then (l, e) else other
  else t ++ [(l, e)]

/-! ## Reading -/

/-- The place to which names lead, from directory to directory. -/
def walk (t : Tree) : (here : Location) → (names : List String) → Except FileFault Location
  | here, [] => .ok here
  | here, name :: rest =>
    match t.entry? here with
    | none => .error .notFound
    | some (.file _) => .error .notADirectory
    | some .directory =>
      if isLongName name then .error .tooLong else t.walk (here.step name) rest

/-- What a path leads to, seen from the current directory. -/
def follow (t : Tree) (current : Location) (p : Path) : Except FileFault Entry :=
  if p.hasNull then .error .nullCharacter
  else if isLongPath p.text then .error .tooLong
  else
    match t.walk (match p.start with | .here => current | _ => []) p.names with
    | .error fault => .error fault
    | .ok l =>
      match t.entry? l with
      | some e => .ok e
      | none => .error .notFound

/-- The bytes of an entry, if it is a file. -/
def Entry.bytes : Entry → Except FileFault Bytes
  | .file bytes => .ok bytes
  | .directory => .error .isADirectory

/-- The bytes of the file to which a path leads. -/
def read (t : Tree) (current : Location) (p : Path) : Except FileFault Bytes :=
  (t.follow current p).bind Entry.bytes

def readAt (t : Tree) (l : Location) : Except FileFault Bytes := t.read [] ⟨.root, l⟩

/-- The names of what lies directly in a directory. -/
def names (t : Tree) (l : Location) : List String :=
  t.filterMap fun (place, _) =>
    if place.dropLast = l then place.getLast? else none

/-- The files inside a directory, by their paths from there, in ascending order. -/
def filesInside (t : Tree) (l : Location) : List (String × Bytes) :=
  let found := t.filterMap fun (place, e) =>
    match e with
    | .file bytes =>
      if l.isInside place then some ("/".intercalate (place.drop l.length), bytes) else none
    | .directory => none
  found.mergeSort fun a b => a.1 ≤ b.1

/-! ## Writing -/

/-- Makes new directories, each in the one before it; those made before a failure stay. -/
def makeNew (t : Tree) : (here : Location) → (names : List String) → Except FileFault Unit × Tree
  | _, [] => (.ok (), t)
  | here, name :: rest =>
    if isLongName name then (.error .tooLong, t)
    else makeNew (t.put (here ++ [name]) .directory) (here ++ [name]) rest

/-- Makes the directories that names lead through, from a place on. -/
def makeDirectories (t : Tree) :
    (here : Location) → (names : List String) → Except FileFault Unit × Tree
  | _, [] => (.ok (), t)
  | here, name :: rest =>
    let next := here ++ [name]
    match t.entry? next with
    | some .directory => t.makeDirectories next rest
    | some (.file _) => (.error .notADirectory, t)
    | none =>
      if !isLongName name && maxNewDirectories < (name :: rest).length then (.error .tooDeep, t)
      else t.makeNew here (name :: rest)

/-- Writes a file at a place whose directory is there. -/
def writeAt (t : Tree) (l : Location) (bytes : Bytes) : Except FileFault Unit × Tree :=
  match t.entry? l with
  | some .directory => (.error .isADirectory, t)
  | some (.file _) => (.ok (), t.put l (.file bytes))
  | none =>
    if l.any isLongName || isLongPath l.text then (.error .tooLong, t)
    else (.ok (), t.put l (.file bytes))

/-- Writes a file at a place, and makes the directories on the way. -/
def store (t : Tree) (l : Location) (bytes : Bytes) : Except FileFault Unit × Tree :=
  if isLongPath (Location.text l.dropLast) then (.error .tooLong, t)
  else
    match t.makeDirectories [] l.dropLast with
    | (.error fault, t) => (.error fault, t)
    | (.ok (), t) => t.writeAt l bytes

end Tree

end BattleMaps.Files
