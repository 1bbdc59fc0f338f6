import BattleMaps.Text.Hex
import BattleMaps.Text.Printable

/-!
# Quoted texts

Messages show ids, keys and refused values between quotes, so that blanks and stray characters
can be seen. Single quotes are used unless the text holds one and holds no double quote; then
double quotes are. The quote in use, the backslash and every unprintable character are escaped.

## Main definitions

* `Text.quote`: the quoted form of a text
-/

namespace BattleMaps.Text

/-- The numeric escape of a character: two, four or eight digits, the fewest that hold it. -/
def numericEscape (c : Char) : List Char :=
  let n := c.toNat
  if n < 0x100 then '\\' :: 'x' :: Hex.lower 2 n
  else if n < 0x10000 then '\\' :: 'u' :: Hex.lower 4 n
  else '\\' :: 'U' :: Hex.lower 8 n

/-- One character between the given quotes. -/
def quoteChar (mark c : Char) : List Char :=
  if c = mark ∨ c = '\\' then ['\\', c]
  else if c = '\n' then ['\\', 'n']
  else if c = '\r' then ['\\', 'r']
  else if c = '\t' then ['\\', 't']
  else if isPrintable c then [c]
  else numericEscape c

/-- The quote that a text is shown between. -/
def quoteMark (cs : List Char) : Char :=
  if cs.contains '\'' && !cs.contains '"' then '"' else '\''

/-- The quoted form of a text. -/
def quote (s : String) : String :=
  let cs := s.toList
  let mark := quoteMark cs
  String.ofList (mark :: cs.flatMap (quoteChar mark) ++ [mark])

end BattleMaps.Text
