import BattleMaps.Files.Tree
import BattleMaps.Store.Address
import BattleMaps.Store.Archive

/-!
# The machine around the program

A machine holds files, has a current directory, and its clock shows some time. A database lies in
one of the files, so two addresses of one file lead to one database. Opening it makes the file where
there is none, in a directory that must be there; from then on the file stands in the way of a
directory at its place. A database in memory starts empty and is lost when the program ends.

## Main definitions

* `Machine`: what there is around the program
* `Machine.database`: the database at an address
* `Machine.opened`: the machine once a database is open
* `Machine.table`, `Machine.keep`: the documents in a database
-/

namespace BattleMaps.CommandLine

open Files Store

/-- What there is around the program. -/
structure Machine where
  current : Location
  files : Tree := []
  -- The time, in milliseconds since 1970.
  now : Int := 0

structure Database where
  place : Location
  access : Access
deriving DecidableEq, Repr

/-- The most bytes that the name of a file may have in which a database is made: the name of its
journal is longer by eight. -/
def maxDatabaseName : Nat := maxNameBytes - 8

/-- The most bytes that the path of the file of a database may have. -/
def maxDatabasePath : Nat := 504

namespace Database

/-- Whether the file of a database can be made as far as its name goes. -/
def hasName (d : Database) : Bool :=
  !d.place.getLast?.any fun name => maxDatabaseName < name.utf8ByteSize

/-- Whether a database can be used with what is at its place: it is there already, or can be made. A
file of at most one byte counts as empty. -/
def check (d : Database) (t : Tree) : Except AddressFault Unit :=
  let isUsable : Except AddressFault Bool :=
    match t.entry? d.place with
    | some .directory => .ok false
    | some (.file bytes) =>
      if bytes.length ≤ 1 then .ok (d.access != .reading && d.hasName)
      else if (Table.ofArchive? bytes).isSome then .ok true
      else .error .foreign
    | none =>
      .ok (d.access == .making && d.hasName && t.entry? d.place.dropLast == some .directory)
  if maxDatabasePath < (Location.text d.place).utf8ByteSize then .error .unreachable
  else isUsable.bind fun isUsable => if isUsable then .ok () else .error .unreachable

end Database

namespace Machine

/-- The database at an address, unless it is in memory. -/
def database (m : Machine) (url : String) : Except AddressFault (Option Database) := do
  match ← Address.ofString url with
  | .memory => .ok none
  | .file path access =>
    let d : Database := ⟨path.resolve m.current, access⟩
    d.check m.files
    .ok (some d)

def documents? (m : Machine) (l : Location) : Option Table :=
  match m.files.entry? l with
  | some (.file bytes) => Table.ofArchive? bytes
  | _ => none

def table (m : Machine) (d : Option Database) : Table :=
  (d.bind fun d => m.documents? d.place).getD []

/-- The machine with documents in a file, in place of what was there. -/
def withDocuments (m : Machine) (l : Location) (t : Table) : Machine :=
  { m with files := m.files.put l (.file t.archive) }

/-- The machine once a database is open: it is there, if empty. -/
def opened (m : Machine) (d : Option Database) : Machine :=
  match d with
  | none => m
  | some d => if (m.documents? d.place).isSome then m else m.withDocuments d.place []

/-- Keeps documents in a database, in place of those that were there. -/
def keep (m : Machine) (d : Option Database) (t : Table) : Machine :=
  match d with
  | none => m
  | some d => if d.access = .reading then m else m.withDocuments d.place t

end Machine

end BattleMaps.CommandLine
