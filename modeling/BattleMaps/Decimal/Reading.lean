import BattleMaps.Text.Blank
import BattleMaps.Text.Digit

/-!
# Reading numbers

A number may arrive as text: padded, with a sign, with digits of any script, with underscores
between digits to group them, with a point and an exponent, or as one of the words `inf`,
`infinity` and `nan` in any case. Reading rounds the exact decimal to the nearest double.

## Main definitions

* `Decimal.ofScientific`: the double nearest to `± m * 10 ^ e`
* `Decimal.ofText?`: the double that a text spells, if it spells one
* `Decimal.integerOfText?`: the integer that a text spells, if it spells one
-/

namespace BattleMaps.Decimal

/-- The most digits an integer may have. -/
def maxIntegerDigits : Nat := 4300

/-- The double nearest to `± m * 10 ^ e`. Decimals beyond the range of doubles become infinite or
zero without being expanded. -/
def ofScientific (negative : Bool) (m : Nat) (e : Int) : Float :=
  let lead : Int := (toString m).length + e
  let magnitude :=
    if m = 0 ∨ lead < -330 then Float.ofScientific 0 false 0
    else if lead > 330 then Float.ofScientific 1 false 330
    else Float.ofScientific m (e < 0) e.natAbs
  if negative then -magnitude else magnitude

/-- A character of a number as ASCII: other digits become `0` to `9`, other blanks a space, and
whatever else lies beyond ASCII a mark that no number holds. -/
def toAsciiNumeral (c : Char) : Char :=
  if c.toNat < 0x7F then c
  else if Text.isBlank c then ' '
  else
    match Text.digit? c with
    | some d => Char.ofNat (48 + d)
    | none => '?'

/-- The blanks that may surround a number once it is ASCII. -/
def isAsciiBlank (c : Char) : Bool := c = ' ' || ('\t' ≤ c && c ≤ '\r')

/-- The characters without the underscores, if every underscore stands between two digits. -/
def ungroup (before : Bool) : List Char → Option (List Char)
  | [] => some []
  | '_' :: rest =>
    match rest with
    | c :: _ => if before ∧ Text.isAsciiDigit c then ungroup false rest else none
    | [] => none
  | c :: rest => (ungroup (Text.isAsciiDigit c) rest).map (c :: ·)

/-- Splits off a sign: whether it is a minus, and the rest. -/
def splitSign : List Char → Bool × List Char
  | '-' :: rest => (true, rest)
  | '+' :: rest => (false, rest)
  | cs => (false, cs)

/-- Splits off the digits in front. -/
def splitDigits (cs : List Char) : List Nat × List Char :=
  ((cs.takeWhile Text.isAsciiDigit).filterMap Text.asciiDigit?, cs.dropWhile Text.isAsciiDigit)

/-- The exponent spelled by what follows the digits, if nothing else does. -/
def exponent? : List Char → Option Int
  | [] => some 0
  | c :: rest =>
    if c = 'e' ∨ c = 'E' then
      let (negative, body) := splitSign rest
      match splitDigits body with
      | (d :: ds, []) =>
        let n : Int := Text.ofDigits (d :: ds)
        some (if negative then -n else n)
      | _ => none
    else none

/-- The double spelled by digits with an optional point and exponent. -/
def unsigned? (negative : Bool) (cs : List Char) : Option Float :=
  let (whole, afterWhole) := splitDigits cs
  let (fraction, afterFraction) :=
    match afterWhole with
    | '.' :: rest => splitDigits rest
    | rest => ([], rest)
  if whole.isEmpty ∧ fraction.isEmpty then none
  else
    (exponent? afterFraction).map fun e =>
      ofScientific negative (Text.ofDigits (whole ++ fraction)) (e - fraction.length)

/-- The double that unpadded ASCII characters spell, words included. -/
def signed? (cs : List Char) : Option Float :=
  let (negative, body) := splitSign cs
  let word := String.ofList (body.map Char.toLower)
  if word = "inf" ∨ word = "infinity" then
    some (ofScientific negative 1 400)
  else if word = "nan" then some (Float.ofBits 0x7FF8000000000000)
  else unsigned? negative body

/-- A text as unpadded ASCII characters without underscores, if it may spell a number. -/
def numeral? (s : String) : Option (List Char) :=
  let ascii := s.toList.map toAsciiNumeral
  ungroup false ((ascii.dropWhile isAsciiBlank).reverse.dropWhile isAsciiBlank).reverse

/-- The double that a text spells, if it spells one. -/
def ofText? (s : String) : Option Float := (numeral? s).bind signed?

/-- The integer that a sign and digits spell, if there are not too many of them. -/
def signedInteger? (cs : List Char) : Option Int :=
  let (negative, body) := splitSign cs
  match splitDigits body with
  | (d :: ds, []) =>
    let n : Int := Text.ofDigits (d :: ds)
    if maxIntegerDigits < (d :: ds).length then none else some (if negative then -n else n)
  | _ => none

/-- The integer that a text spells, if it spells one. -/
def integerOfText? (s : String) : Option Int := (numeral? s).bind signedInteger?

end BattleMaps.Decimal
