import BattleMaps.Store.Address.FileAddress
import BattleMaps.Store.Address.Options

/-!
# Reading addresses of databases

One kind of database is used, under two names; other kinds are known, but nothing here reaches them.
The database lies in a file of this computer, so an address that names a user, a host or a port is
refused. Without a path the database is in memory.

## Main definitions

* `Store.Address.ofString`: the address that a text spells
-/

namespace BattleMaps.Store.Address

/-- The names of the kind of database that is used. -/
def kinds : List String := ["sqlite", "sqlite+pysqlite"]

/-- The kinds of databases that nothing here reaches, with their drivers. -/
def distantKinds : List (String × List String) :=
  [("sqlite", ["aiosqlite", "pysqlcipher"]),
   ("postgresql", ["", "psycopg", "psycopg2", "psycopg2cffi", "asyncpg", "pg8000"]),
   ("mysql",
    ["", "mysqldb", "pymysql", "mysqlconnector", "mariadbconnector", "cymysql", "pyodbc",
     "aiomysql", "asyncmy"]),
   ("mariadb",
    ["", "mysqldb", "pymysql", "mysqlconnector", "mariadbconnector", "cymysql", "pyodbc",
     "aiomysql", "asyncmy"]),
   ("oracle", ["", "cx_oracle", "oracledb"]),
   ("mssql", ["", "pyodbc", "pymssql", "aioodbc"])]

/-- Whether nothing here reaches databases of a kind, with a driver or without. -/
def isDistant (kind driver : String) : Bool :=
  distantKinds.any fun (name, drivers) => name = kind && drivers.contains driver

/-- Whether databases of a kind are used. A kind names at most one driver, after a plus sign. -/
def checkKind (name : String) : Except AddressFault Unit :=
  if kinds.contains name then .ok ()
  else
    match (Text.separated '+' name.toList).map String.ofList with
    | [kind] => .error (if isDistant kind "" then .noDriver else .unknownKind)
    | [kind, driver] => .error (if isDistant kind driver then .noDriver else .unknownKind)
    | _ => .error .unreadable

/-- Whether no port is named: there is none, or it is zero. -/
def checkPort : Option String → Except AddressFault Bool
  | none => .ok true
  | some port =>
    match Decimal.integerOfText? port with
    | some n => .ok (n = 0)
    | none => .error .unreadable

/-- The options that belong to a path as they follow it. -/
def written (others : Options) : String :=
  if others.isEmpty then ""
  else "?" ++ "&".intercalate (others.map fun (name, value) => name ++ "=" ++ value)

/-- The address of a database on this computer. -/
def ofPathAndOptions (path : Option String) (options : Options) :
    Except AddressFault Address := do
  let (isAddress, opening) ← options.check
  if isAddress && path.isNone then .error .noPath
  else
    let path := path.getD "" ++ if isAddress then written options.others else ""
    if path.toList.contains '\x00' then .error .unreadable
    else
      opening
      if isAddress then ofFileAddress path.toList else ofPath path .making

def ofString (s : String) : Except AddressFault Address := do
  let some parts := Parts.ofString? s | .error .malformed
  let hasNoPort ← checkPort parts.port
  if !(parts.options.values "plugin").isEmpty then .error .unknownKind
  else
    checkKind parts.kind
    if parts.login.isEmpty && parts.host.isEmpty && hasNoPort then
      ofPathAndOptions parts.path parts.options
    else .error .malformed

end BattleMaps.Store.Address
