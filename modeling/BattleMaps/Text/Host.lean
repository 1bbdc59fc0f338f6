/-!
# Hosts of addresses

The host of an address may be written between brackets. It is then a number in groups of four
hexadecimal digits, or has a form that a later version of the rules defines. Outside of brackets a
host is nearly free, but no character of it may stand for one that separates the parts of an
address.

A number has eight groups. Two colons stand for a gap in which groups of zeros were left out, and
the last two groups may be written as four decimal bytes.

## Main definitions

* `Host.isNumber`: the numbers that may stand between brackets
* `Host.isSound`: the hosts that an address may have
-/

namespace BattleMaps.Text.Host

def isHexDigit (c : Char) : Bool :=
  c.isDigit || ('a' ≤ c && c ≤ 'f') || ('A' ≤ c && c ≤ 'F')

/-! ## Numbers -/

/-- Whether a text is a group of a number. -/
def isGroup (s : String) : Bool :=
  let cs := s.toList
  !cs.isEmpty && cs.length ≤ 4 && cs.all isHexDigit

/-- Whether a text is a byte in decimal digits, without zeros in front. -/
def isByte (s : String) : Bool :=
  match s.toList with
  | [a] => a.isDigit
  | [a, b] => a != '0' && a.isDigit && b.isDigit
  | [a, b, c] => a != '0' && [a, b, c].all Char.isDigit && s ≤ "255"
  | _ => false

/-- Whether a text is four bytes with points between them. -/
def areBytes (s : String) : Bool :=
  let bytes := s.splitOn "."
  bytes.length == 4 && bytes.all isByte

/-- How many groups texts are, if each is one; the last text may be the bytes of two groups where
`atEnd` says that the number ends with it. -/
def countGroups? (atEnd : Bool) : List String → Option Nat
  | [] => some 0
  | [s] => if isGroup s then some 1 else if atEnd && areBytes s then some 2 else none
  | s :: rest => if isGroup s then (countGroups? atEnd rest).map (· + 1) else none

/-- How many groups stand on one side of a gap, which may be none. -/
def countSide? (atEnd : Bool) (side : String) : Option Nat :=
  if side.isEmpty then some 0 else countGroups? atEnd (side.splitOn ":")

/-- Whether a text is a number: eight groups, or fewer and a gap. -/
def isPlainNumber (s : String) : Bool :=
  match s.splitOn "::" with
  | [groups] => countSide? true groups == some 8
  | [left, right] =>
    match countSide? false left, countSide? true right with
    | some m, some n => m + n ≤ 7
    | _, _ => false
  | _ => false

/-- Whether a text is a number; a percent sign and the name of a zone may follow it. -/
def isNumber (s : String) : Bool :=
  match s.splitOn "%" with
  | [number] => isPlainNumber number
  | [number, zone] => !zone.isEmpty && isPlainNumber number
  | _ => false

/-! ## Brackets -/

/-- Whether characters after the letter that announces a later version have its form: the version,
a point and something else. -/
def isLaterVersion (cs : List Char) : Bool :=
  match cs.takeWhile isHexDigit, cs.dropWhile isHexDigit with
  | _ :: _, '.' :: _ :: _ => true
  | _, _ => false

/-- Whether characters may stand between brackets. -/
def mayBeBracketed : List Char → Bool
  | 'v' :: rest => isLaterVersion rest
  | cs => isNumber (String.ofList cs)

/-- What follows the last at sign, or everything if there is none. -/
def dropUser (cs : List Char) : List Char := (cs.reverse.takeWhile (· != '@')).reverse

/-- Whether a host that has brackets has them in their places: nothing stands before them, and
after them only a colon and what follows it. Brackets that are not around the host do not excuse
it from being one that may be bracketed. -/
def isSoundBracketed (cs : List Char) : Bool :=
  let cs := dropUser cs
  match cs.takeWhile (· != '['), cs.dropWhile (· != '[') with
  | before, '[' :: rest =>
    let after := (rest.dropWhile (· != ']')).drop 1
    before.isEmpty && (after.isEmpty || after.head? == some ':')
      && mayBeBracketed (rest.takeWhile (· != ']'))
  | _, _ => mayBeBracketed (cs.takeWhile (· != ':'))

/-! ## Stand-ins -/

/-- The characters that stand for a text with a separator in it, as one of several ways to write
it: signs made of several characters, and wide, small and upright forms. -/
def separatorForms : List Nat :=
  [0x2047, 0x2048, 0x2049, 0x2100, 0x2101, 0x2105, 0x2106, 0x2A74, 0xFE13, 0xFE16, 0xFE55, 0xFE56,
   0xFE5F, 0xFE6B, 0xFF03, 0xFF0F, 0xFF1A, 0xFF1F, 0xFF20]

/-- Whether a character stands for a text with a separator in it. -/
def standsForSeparator (c : Char) : Bool := separatorForms.contains c.toNat

/-- Whether an address may have a host. -/
def isSound (host : List Char) : Bool :=
  host.contains '[' == host.contains ']'
    && (!host.contains '[' || isSoundBracketed host)
    && !host.any standsForSeparator

end BattleMaps.Text.Host
