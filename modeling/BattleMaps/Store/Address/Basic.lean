import BattleMaps.Files.Path

/-!
# Addresses of databases

Documents are kept in a file that is named by an address. An address may also stand for a database
in memory, which ends with the program.

## Main definitions

* `Store.Address`: where documents are kept
* `Store.AddressFault`: why they cannot be kept where an address says
-/

namespace BattleMaps.Store

inductive Access where
  -- It is made if it is not there.
  | making
  -- It has to be there.
  | changing
  -- It has to be there and is not changed.
  | reading
deriving DecidableEq, Repr

inductive Address where
  | memory
  | file (path : Files.Path) (access : Access)
deriving DecidableEq, Repr

/-- Why documents cannot be kept where an address says. -/
inductive AddressFault where
  -- The text spells no address, or the address of something on another computer.
  | malformed
  -- A part of the address cannot be read as what it stands for.
  | unreadable
  -- An option that stands for one number is given several times.
  | repeatedNumber
  | hugeNumber
  -- A path is to be read as an address of its own, and there is none.
  | noPath
  | unknownKind
  -- Nothing here reaches databases of the kind.
  | noDriver
  -- The file can neither be opened nor made.
  | unreachable
  -- The file holds something else.
  | foreign
deriving DecidableEq, Repr

def AddressFault.message : AddressFault → String
  | .malformed => "the address of the database cannot be understood"
  | .unreadable => "a part of the address of the database cannot be read"
  | .repeatedNumber => "a number in the address of the database is given several times"
  | .hugeNumber => "a number in the address of the database is too large"
  | .noPath => "the address of the database has no path"
  | .unknownKind => "there is no such kind of database"
  | .noDriver => "nothing here can reach databases of this kind"
  | .unreachable => "unable to open database file"
  | .foreign => "file is not a database"

end BattleMaps.Store
