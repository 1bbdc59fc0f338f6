import BattleMaps.Text.Lines
import BattleMaps.Text.Percent
import BattleMaps.Text.Word

/-!
# The parts of a database's address

An address starts with the kind of database, a colon and two slashes. A user with a password may
follow, up to an `@`, then a host, a port after a colon, a path after a slash, and options after a
question mark. Each of these may be missing. The path and the options are percent-encoded; an option
without a value is passed over.

## Main definitions

* `Address.Parts`: the parts of an address
* `Address.Parts.ofString?`: the parts of the address that a text spells
-/

namespace BattleMaps.Store.Address

abbrev Options := List (String × String)

structure Parts where
  kind : String
  -- The user and the password; nothing of them is used.
  login : String
  host : String
  -- The port, if there is a colon for it.
  port : Option String
  -- The path, if there is a slash for it.
  path : Option String
  options : Options
deriving DecidableEq, Repr

/-- Whether a character may be part of the name of a kind. -/
def isKindChar (c : Char) : Bool := Text.isWordChar c || c = '+'

/-- The characters before the last `@` and those after it, if there is one. -/
def splitLastAt? (cs : List Char) : Option (List Char × List Char) :=
  match cs.reverse.dropWhile (· != '@') with
  | '@' :: before => some (before.reverse, (cs.reverse.takeWhile (· != '@')).reverse)
  | _ => none

/-- The user with the password, and what follows the `@` after them. A password may hold anything
but that mark; a user holds neither a colon nor a slash. -/
def splitLogin (cs : List Char) : List Char × List Char :=
  let user := cs.takeWhile fun c => c != ':' && c != '/'
  let rest := cs.drop user.length
  if rest.head? = some ':' && rest.contains '@' then
    (user ++ (rest.drop 1).takeWhile (· != '@'), (rest.dropWhile (· != '@')).drop 1)
  else
    match splitLastAt? user with
    | some (user, host) => (user, host ++ rest)
    | none => ([], cs)

/-- Whether a character ends what stands before the path. -/
def endsHost (c : Char) : Bool := c = '/' || c = '?'

/-- The host that stands in square brackets, and what follows it. -/
def splitBracketed? : List Char → Option (List Char × List Char)
  | '[' :: rest =>
    let run := rest.takeWhile (!endsHost ·)
    let inside := ((run.reverse.dropWhile (· != ']')).drop 1).reverse
    if inside.isEmpty then none else some (inside, rest.drop (inside.length + 1))
  | _ => none

/-- The host, and what follows it. -/
def splitHost (cs : List Char) : List Char × List Char :=
  let isHostChar (c : Char) : Bool := !endsHost c && c != ':'
  (splitBracketed? cs).getD (cs.takeWhile isHostChar, cs.dropWhile isHostChar)

/-- The port, if there is a colon for it, and what follows it. -/
def splitPort : List Char → Option String × List Char
  | ':' :: rest =>
    (some (String.ofList (rest.takeWhile (!endsHost ·))), rest.dropWhile (!endsHost ·))
  | cs => (none, cs)

/-- The path, if there is a slash for it, and what follows it. -/
def splitPath : List Char → Option String × List Char
  | '/' :: rest =>
    (some (Text.Percent.decode (String.ofList (rest.takeWhile (· != '?')))),
      rest.dropWhile (· != '?'))
  | cs => (none, cs)

/-- A name or a value among the options: a plus sign stands for a space. -/
def decodeOption (cs : List Char) : String :=
  Text.Percent.decode (String.ofList (cs.map fun c => if c = '+' then ' ' else c))

/-- The option that a piece spells, if it has a value. -/
def option? (cs : List Char) : Option (String × String) :=
  match cs.dropWhile (· != '=') with
  | '=' :: c :: value => some (decodeOption (cs.takeWhile (· != '=')), decodeOption (c :: value))
  | _ => none

/-- The options after a question mark, on the rest of its line. -/
def optionsOf : List Char → Options
  | '?' :: rest => (Text.separated '&' (rest.takeWhile (· != '\n'))).filterMap option?
  | _ => []

def Parts.ofRest (kind : String) (cs : List Char) : Parts :=
  let (login, rest) := splitLogin cs
  let (host, rest) := splitHost rest
  let (port, rest) := splitPort rest
  let (path, rest) := splitPath rest
  { kind := kind, login := String.ofList login, host := String.ofList host, port := port
    path := path, options := optionsOf rest }

def Parts.ofString? (s : String) : Option Parts :=
  let cs := s.toList
  match cs.takeWhile isKindChar, cs.dropWhile isKindChar with
  | c :: kind, ':' :: '/' :: '/' :: rest => some (Parts.ofRest (String.ofList (c :: kind)) rest)
  | _, _ => none

end BattleMaps.Store.Address
