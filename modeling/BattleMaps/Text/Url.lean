import BattleMaps.Text.Blank
import BattleMaps.Text.Host

/-!
# Addresses on the network

An address has a scheme, a host and a path; a query and a fragment may follow. Two readings are
needed: the parts of an address, which decide whether it names a local file, and the form in which
an address is requested from the network.

## Main definitions

* `Url.parts?`: the scheme and the path of an address
* `Url.requested?`: an address as it is requested
-/

namespace BattleMaps.Text.Url

structure Parts where
  -- The scheme, in lower case; empty if there is none.
  scheme : String
  path : String
deriving DecidableEq, Repr

/-- Whether a character may not stand at the start of an address. -/
def isControlOrSpace (c : Char) : Bool := c.toNat ≤ 0x20

/-- Whether a character is ignored wherever it stands in an address. -/
def isIgnored (c : Char) : Bool := c = '\t' || c = '\r' || c = '\n'

/-- Whether a character may be part of a scheme. -/
def isSchemeChar (c : Char) : Bool := c.isAlphanum || c = '+' || c = '-' || c = '.'

/-- The scheme of an address, in lower case, and what follows its colon. -/
def splitScheme (cs : List Char) : List Char × List Char :=
  let scheme := cs.takeWhile (· != ':')
  match scheme, cs.drop scheme.length with
  | c :: _, _ :: rest =>
    if c.isAlpha && scheme.all isSchemeChar then (scheme.map Char.toLower, rest) else ([], cs)
  | _, _ => ([], cs)

def endsHost (c : Char) : Bool := c = '/' || c = '?' || c = '#'

/-- The host of what follows a scheme, and what follows the host. -/
def splitHost : List Char → List Char × List Char
  | '/' :: '/' :: rest => (rest.takeWhile (!endsHost ·), rest.dropWhile (!endsHost ·))
  | rest => ([], rest)

/-- The scheme and the path of an address, unless it has a host that no address may have. -/
def parts? (s : String) : Option Parts :=
  let cs := (s.toList.dropWhile isControlOrSpace).filter (!isIgnored ·)
  let (scheme, rest) := splitScheme cs
  let (host, rest) := splitHost rest
  if Host.isSound host then
    let path := (rest.takeWhile (· != '#')).takeWhile (· != '?')
    some ⟨String.ofList scheme, String.ofList path⟩
  else none

/-- An address without the angle brackets and the mark that may enclose it. -/
def unwrap (cs : List Char) : List Char :=
  let cs := trimChars cs
  let cs := match cs, cs.getLast? with
    | '<' :: rest, some '>' => trimChars rest.dropLast
    | _, _ => cs
  match cs with
  | 'U' :: 'R' :: 'L' :: ':' :: rest => trimChars rest
  | _ => cs

/-- An address without an empty fragment at its end. -/
def dropEmptyFragment (cs : List Char) : List Char :=
  if cs.getLast? = some '#' then cs.dropLast else cs

/-- Whether an address says by its start how it is to be requested. -/
def hasType (cs : List Char) : Bool :=
  let isPlain (c : Char) : Bool := c != '/' && c != ':'
  match cs.takeWhile isPlain, cs.dropWhile isPlain with
  | _ :: _, ':' :: _ => true
  | _, _ => false

/-- An address as it is requested, if it says how and has parts. -/
def requested? (s : String) : Option String :=
  let cs := unwrap s.toList
  let target := match cs.contains '#' with
    | true => (cs.reverse.dropWhile (· != '#')).reverse.dropLast
    | false => cs
  let address := String.ofList (dropEmptyFragment cs)
  if hasType target && (parts? address).isSome then some address else none

end BattleMaps.Text.Url
