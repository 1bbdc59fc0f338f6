import BattleMaps.Store.Address.Basic
import BattleMaps.Store.Address.Parts

/-!
# Addresses of files

The path in a database's address may be an address of its own. It starts with `file:`; two slashes
and the name of this computer may follow, then come a path, options after a question mark and a
fragment after a number sign, which has no meaning. Path and options are percent-encoded, and the
null character ends each of them. The options say what may be done with the file, or that the
database is in memory. An empty path is that of a database in memory too.

A path that does not start so is a plain path.

## Main definitions

* `Address.ofFileAddress`: the address that a path spells as an address of its own
-/

namespace BattleMaps.Store.Address

/-- A percent-encoded part up to the null character. -/
def decodePart (cs : List Char) : String :=
  let isNull : Text.Percent.Unit → Bool
    | .byte 0 => true
    | _ => false
  let units := (Text.Percent.units cs).takeWhile (!isNull ·)
  String.ofList ((Text.Percent.spelled {} units).map fun c => c.getD Text.Utf8.replacement)

/-- The option that a piece spells. -/
def fileOption (cs : List Char) : String × String :=
  (decodePart (cs.takeWhile (· != '=')), decodePart ((cs.dropWhile (· != '=')).drop 1))

/-- What follows this computer's name in an address, unless another computer is named. -/
def dropComputer? : List Char → Option (List Char)
  | '/' :: '/' :: rest =>
    let name := String.ofList (rest.takeWhile (· != '/'))
    if name.isEmpty || name = "localhost" then some (rest.dropWhile (· != '/')) else none
  | cs => some cs

/-- The ways in which files are read and written. -/
def fileSystems : List String := ["unix", "unix-none", "unix-dotfile", "unix-excl"]

/-- What may be done with a file after an option; nothing stands for a database in memory. -/
def Access.after (access : Option Access) : String × String → Except AddressFault (Option Access)
  | ("mode", "rwc") => .ok (some .making)
  | ("mode", "rw") => .ok (some .changing)
  | ("mode", "ro") => .ok (some .reading)
  | ("mode", "memory") => .ok none
  | ("mode", _) => .error .unreachable
  | ("cache", value) =>
    if value = "shared" || value = "private" then .ok access else .error .unreachable
  | ("vfs", value) => if fileSystems.contains value then .ok access else .error .unreachable
  | _ => .ok access

/-- A database in a file, unless its path is empty or stands for the memory. A database in memory
has to be changed. -/
def ofPath (path : String) (access : Access) : Except AddressFault Address :=
  if path.isEmpty || path = ":memory:" then
    if access = .reading then .error .unreachable else .ok .memory
  else .ok (.file (Files.Path.ofString path) access)

/-- The address that a path spells as an address of its own. -/
def ofFileAddress (cs : List Char) : Except AddressFault Address :=
  match cs with
  | 'f' :: 'i' :: 'l' :: 'e' :: ':' :: rest => do
    let some rest := dropComputer? rest | .error .unreachable
    let whole := rest.takeWhile (· != '#')
    let path := decodePart (whole.takeWhile (· != '?'))
    let options := (Text.separated '&' ((whole.dropWhile (· != '?')).drop 1)).map fileOption
    match ← options.foldlM Access.after (some .making) with
    | some access => ofPath path access
    | none => .ok .memory
  | _ => ofPath (String.ofList cs) .making

end BattleMaps.Store.Address
