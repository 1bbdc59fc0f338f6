import BattleMaps.Text.Lines
import BattleMaps.Text.Utf8

/-!
# Paths

A path is a sequence of names, counted from the root of the file system or from the current
directory. Empty names and `.` stand for nothing and are left out. The name `..` is kept: where it
leads is decided when the path is followed, or lexically when the path is resolved.

## Main definitions

* `Path`: a path as it is written
* `Location`: a place in the file system, as the names on the way from the root
* `Path.resolve`: the place that a path names, if no name on the way is a link
-/

namespace BattleMaps.Files

/-- A place in the file system, as the names on the way from the root. -/
abbrev Location := List String

inductive Start where
  | here
  | root
  -- At the root, written with two slashes.
  | doubleRoot
deriving DecidableEq, Repr

/-- A path as it is written. -/
structure Path where
  start : Start
  names : List String
deriving DecidableEq, Repr

/-- Whether a part of a path is a name. -/
def isName (s : String) : Bool := !s.isEmpty && s != "."

/-- A text without the slashes at its start. -/
def dropSlashes (s : String) : String := String.ofList (s.toList.dropWhile (· == '/'))

namespace Path

/-- The path that a text spells. Exactly two slashes at the start are kept. -/
def ofString (s : String) : Path where
  start :=
    match (s.toList.takeWhile (· == '/')).length with
    | 0 => .here
    | 2 => .doubleRoot
    | _ => .root
  names := ((Text.separated '/' s.toList).map String.ofList).filter isName

def text (p : Path) : String :=
  let names := "/".intercalate p.names
  match p.start with
  | .here => if p.names.isEmpty then "." else names
  | .root => "/" ++ names
  | .doubleRoot => "//" ++ names

/-- The second path, counted from the end of the first unless it starts at the root. -/
def join (p q : Path) : Path :=
  match q.start with
  | .here => ⟨p.start, p.names ++ q.names⟩
  | _ => q

/-- Whether a path holds the null character, which no name may. -/
def hasNull (p : Path) : Bool := p.names.any fun s => s.toList.contains '\x00'

end Path

/-- One name further; `..` leads back, and stays at the root. -/
def Location.step (here : Location) (name : String) : Location :=
  if name = ".." then here.dropLast else here ++ [name]

/-- The place that a path names, seen from the current directory. -/
def Path.resolve (p : Path) (current : Location) : Location :=
  p.names.foldl Location.step <|
    match p.start with
    | .here => current
    | _ => []

def Location.text (l : Location) : String := "/" ++ "/".intercalate l

/-- Whether a place lies inside another one and is not that place. -/
def Location.isInside (outer inner : Location) : Bool :=
  outer.isPrefixOf inner && inner != outer

end BattleMaps.Files
