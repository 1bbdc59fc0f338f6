/-!
# Lines and separators

Text files may end their lines in three ways. Read as text, all of them are one line feed. A
separator, unlike the end of a line, has a part on either side, which may be empty.

## Main definitions

* `Text.unifyLineEnds`: a text with line feeds only
* `Text.lines`: the lines of such a text
* `Text.separated`: the parts of a text between separators
-/

namespace BattleMaps.Text

/-- A text whose lines all end in a line feed. -/
def unifyLineEnds : List Char → List Char
  | '\r' :: '\n' :: rest => '\n' :: unifyLineEnds rest
  | '\r' :: rest => '\n' :: unifyLineEnds rest
  | c :: rest => c :: unifyLineEnds rest
  | [] => []

/-- The lines of a text; what follows the last line feed is one if it is not empty. -/
def lines : List Char → List (List Char)
  | [] => []
  | c :: rest =>
    if c = '\n' then [] :: lines rest
    else
      match lines rest with
      | [] => [[c]]
      | first :: others => (c :: first) :: others

/-- The parts of a text between separators. -/
def separated (separator : Char) : List Char → List (List Char)
  | [] => [[]]
  | c :: rest =>
    if c = separator then [] :: separated separator rest
    else
      match separated separator rest with
      | [] => [[c]]
      | first :: others => (c :: first) :: others

end BattleMaps.Text
