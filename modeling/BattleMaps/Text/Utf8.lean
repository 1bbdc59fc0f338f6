/-!
# UTF-8

Prompts, images and files cross the library's border as bytes. Writing is direct. Reading is a
machine that takes one byte at a time and says, for each ill-formed stretch, that something was
there that is no character; a stretch is as long as it can be while still starting some
character, so a reader that replaces every stretch shows one mark for each.

## Main definitions

* `Text.Utf8.encode`: the bytes of a text
* `Text.Utf8.pieces`: the characters of a byte list, `none` for each ill-formed stretch
* `Text.Utf8.decode?`: the text, if every byte belongs to a character
* `Text.Utf8.decodeLossy`: the text with U+FFFD for each ill-formed stretch
-/

namespace BattleMaps

/-- A sequence of bytes, as files and requests carry them. -/
abbrev Bytes := List UInt8

namespace Text.Utf8

/-- The one to four bytes of a character. -/
def encodeChar (c : Char) : Bytes :=
  let n := c.toNat
  if n < 0x80 then [UInt8.ofNat n]
  else if n < 0x800 then [UInt8.ofNat (0xC0 + n / 64), UInt8.ofNat (0x80 + n % 64)]
  else if n < 0x10000 then
    [UInt8.ofNat (0xE0 + n / 4096), UInt8.ofNat (0x80 + n / 64 % 64), UInt8.ofNat (0x80 + n % 64)]
  else
    [UInt8.ofNat (0xF0 + n / 262144), UInt8.ofNat (0x80 + n / 4096 % 64),
     UInt8.ofNat (0x80 + n / 64 % 64), UInt8.ofNat (0x80 + n % 64)]

def encode (s : String) : Bytes := s.toList.flatMap encodeChar

/-- Where the reader stands: how many continuation bytes it still owes, the range the next one
must lie in, and the code point gathered so far. Nothing owed means between characters. -/
structure State where
  -- The continuation bytes still to come.
  owed : Nat := 0
  -- The least value the next byte may have.
  low : Nat := 0x80
  high : Nat := 0xBF
  -- The bits of the code point read so far.
  code : Nat := 0

/-- What a byte between characters starts: a whole character, an ill-formed stretch of its own,
or a character with more bytes to come. The narrowed ranges rule out overlong forms, surrogates
and code points beyond U+10FFFF. -/
def start (b : Nat) : List (Option Char) × State :=
  if b < 0x80 then ([some (Char.ofNat b)], {})
  else if b < 0xC2 then ([none], {})
  else if b < 0xE0 then ([], { owed := 1, code := b - 0xC0 })
  else if b < 0xF0 then
    ([], { owed := 2, low := if b = 0xE0 then 0xA0 else 0x80,
           high := if b = 0xED then 0x9F else 0xBF, code := b - 0xE0 })
  else if b < 0xF5 then
    ([], { owed := 3, low := if b = 0xF0 then 0x90 else 0x80,
           high := if b = 0xF4 then 0x8F else 0xBF, code := b - 0xF0 })
  else ([none], {})

/-- One byte: the pieces it completes and the state after it. A byte that cannot continue the
character at hand ends an ill-formed stretch and starts afresh. -/
def step (s : State) (b : Nat) : List (Option Char) × State :=
  if s.owed = 0 then start b
  else if s.low ≤ b ∧ b ≤ s.high then
    let code := 64 * s.code + (b - 0x80)
    if s.owed = 1 then ([some (Char.ofNat code)], {})
    else ([], { owed := s.owed - 1, code := code })
  else
    let (out, next) := start b
    (none :: out, next)

/-- What remains to be said when no byte is left: a character cut short is ill-formed. -/
def finish (s : State) : List (Option Char) := if s.owed = 0 then [] else [none]

/-- The characters that the bytes spell from a given state on, `none` for each ill-formed
stretch. -/
def piecesFrom (s : State) : Bytes → List (Option Char)
  | [] => finish s
  | b :: rest =>
    let (out, next) := step s b.toNat
    out ++ piecesFrom next rest

/-- The characters that the bytes spell, `none` for each ill-formed stretch. -/
def pieces (bytes : Bytes) : List (Option Char) := piecesFrom {} bytes

/-- The mark shown in place of an ill-formed stretch. -/
def replacement : Char := '\uFFFD'

/-- The text, if every byte belongs to a character. -/
def decode? (bytes : Bytes) : Option String :=
  ((pieces bytes).mapM id).map String.ofList

/-- The text with the replacement mark for each ill-formed stretch. -/
def decodeLossy (bytes : Bytes) : String :=
  String.ofList ((pieces bytes).map fun c => c.getD replacement)

end Text.Utf8

end BattleMaps
