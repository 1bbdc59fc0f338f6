/-!
# Blank characters

Texts written by people and by language models arrive padded. This file fixes which characters
count as padding and how they are trimmed away; ids, names, numbers and settings all go through
the same rule.

The set is the Unicode property White_Space together with the four information separators
U+001C to U+001F. Zero-width marks (U+200B, U+FEFF) and U+180E are not blank.

## Main definitions

* `Text.isBlank`: membership in the set
* `Text.trim`: the text without the blanks at either end
-/

namespace BattleMaps.Text

/-- The blank code points as closed ranges, ascending and apart. -/
def blankRanges : List (Nat × Nat) :=
  [(0x09, 0x0D), (0x1C, 0x20), (0x85, 0x85), (0xA0, 0xA0), (0x1680, 0x1680), (0x2000, 0x200A),
   (0x2028, 0x2029), (0x202F, 0x202F), (0x205F, 0x205F), (0x3000, 0x3000)]

/-- Whether a code point lies in one of the closed ranges. -/
def inRanges (ranges : List (Nat × Nat)) (n : Nat) : Bool :=
  ranges.any fun r => r.1 ≤ n && n ≤ r.2

/-- Whether a character is padding. -/
def isBlank (c : Char) : Bool := inRanges blankRanges c.toNat

def trimLeft (cs : List Char) : List Char := cs.dropWhile isBlank

def trimRight (cs : List Char) : List Char := (cs.reverse.dropWhile isBlank).reverse

/-- The characters without the blanks at either end; blanks inside stay. -/
def trimChars (cs : List Char) : List Char := trimRight (trimLeft cs)

def trim (s : String) : String := String.ofList (trimChars s.toList)

/-- The trimmed text, unless nothing is left of it. -/
def nonBlank? (s : String) : Option String :=
  let t := trim s
  if t.isEmpty then none else some t

end BattleMaps.Text
