import BattleMaps.Decimal.Reading
import BattleMaps.Json.Basic
import BattleMaps.Text.Hex

/-!
# Reading JSON

The reader goes through a text once, from left to right, and names the first fault with its
place. Beyond JSON proper it knows the words `NaN`, `Infinity` and `-Infinity`. Of repeated keys
the last value counts. Integers are exact, up to a limit on their digits, and nesting is limited
too; past either limit the text is not malformed but refused.

## Main definitions

* `Json.Malformation`: what can be wrong with a text
* `Json.ReadError`: a malformation with its place, or a limit that was passed
* `Json.read`: the value that a text spells

## Implementation notes

Reading recurs on the nesting that is still allowed. The loops over items and members are bounded
by the length of the text, since every round takes at least one character.
-/

namespace BattleMaps.Json

/-- What can be wrong with a text. -/
inductive Malformation where
  | expectedValue
  | expectedKey
  | expectedColon
  | expectedComma
  | unterminated
  -- A control character stands unescaped inside a text.
  | controlCharacter
  -- A backslash is followed by no known letter.
  | unknownEscape
  -- A numeric escape has fewer than four digits.
  | shortEscape
  | extraData
  | byteOrderMark
deriving DecidableEq, Repr

def Malformation.message : Malformation → String
  | .expectedValue => "Expecting value"
  | .expectedKey => "Expecting property name enclosed in double quotes"
  | .expectedColon => "Expecting ':' delimiter"
  | .expectedComma => "Expecting ',' delimiter"
  | .unterminated => "Unterminated string starting at"
  | .controlCharacter => "Invalid control character at"
  | .unknownEscape => "Invalid \\escape"
  | .shortEscape => "Invalid \\uXXXX escape"
  | .extraData => "Extra data"
  | .byteOrderMark => "Unexpected UTF-8 BOM (decode using utf-8-sig)"

/-- Why reading stopped, with the place as a count of characters before it. -/
inductive Fault where
  | malformed (what : Malformation) (pos : Nat)
  | longInteger (digits : Nat)
  | deepNesting (inArray : Bool)
deriving DecidableEq, Repr

/-- Why a text was not read, with the place as line, column and count of characters. -/
inductive ReadError where
  -- The text is no JSON. Lines and columns count from one.
  | malformed (what : Malformation) (line column pos : Nat)
  | longInteger (digits : Nat)
  | deepNesting (inArray : Bool)
deriving DecidableEq, Repr

/-- The most lists and objects that may lie inside one another. -/
def maxDepth : Nat := 960

def ReadError.message : ReadError → String
  | .malformed what line column pos =>
    s!"{what.message}: line {line} column {column} (char {pos})"
  | .longInteger digits =>
    s!"Exceeds the limit ({Decimal.maxIntegerDigits} digits) for integer string conversion: " ++
      s!"value has {digits} digits; use sys.set_int_max_str_digits() to increase the limit"
  | .deepNesting inArray =>
    "maximum recursion depth exceeded while decoding a JSON " ++
      (if inArray then "array" else "object") ++ " from a unicode string"

/-- What is left of a text, and how many characters came before. -/
structure Cursor where
  chars : List Char
  -- How many characters came before them.
  pos : Nat

/-- The blanks that JSON allows between its parts. -/
def isSpace (c : Char) : Bool := c = ' ' || c = '\t' || c = '\n' || c = '\r'

def Cursor.drop (c : Cursor) (n : Nat) : Cursor := ⟨c.chars.drop n, c.pos + n⟩

def Cursor.skipSpaces (c : Cursor) : Cursor := c.drop (c.chars.takeWhile isSpace).length

/-! ## Texts -/

/-- The character that an escape letter stands for. -/
def unescape? : Char → Option Char
  | '"' => some '"'
  | '\\' => some '\\'
  | '/' => some '/'
  | 'b' => some '\x08'
  | 'f' => some '\x0c'
  | 'n' => some '\n'
  | 'r' => some '\r'
  | 't' => some '\t'
  | _ => none

/-- The sixteen-bit unit that four hexadecimal digits spell. -/
def unit? (a b c d : Char) : Option Nat := do
  let a ← Text.Hex.value? a
  let b ← Text.Hex.value? b
  let c ← Text.Hex.value? c
  let d ← Text.Hex.value? d
  pure (((a * 16 + b) * 16 + c) * 16 + d)

/-- Whether a unit is the first half of a pair. -/
def isHighHalf (n : Nat) : Bool := 0xD800 ≤ n && n < 0xDC00

/-- Whether a unit is the second half of a pair. -/
def isLowHalf (n : Nat) : Bool := 0xDC00 ≤ n && n < 0xE000

/-- The character of a unit that is part of no pair; half a pair shows as U+FFFD. -/
def unitChar (n : Nat) : Char := if isHighHalf n || isLowHalf n then '\uFFFD' else Char.ofNat n

/-- The rest of a text whose opening quote stood at `start`; `done` holds the characters read so
far, last first. A numeric escape needs a character after it, for the text is not closed yet. -/
def readText (start : Nat) (done : List Char) : List Char → Nat → Except Fault (List Char × Cursor)
  | [], _ => .error (.malformed .unterminated start)
  | '"' :: rest, pos => .ok (done.reverse, ⟨rest, pos + 1⟩)
  | ['\\'], _ => .error (.malformed .unterminated start)
  -- Two escapes in a row: the second is looked at only to see whether it completes a pair.
  | '\\' :: 'u' :: a :: b :: c :: d :: '\\' :: 'u' :: e :: f :: g :: h :: i :: rest, pos =>
    match unit? a b c d with
    | none => .error (.malformed .shortEscape (pos + 1))
    | some high =>
      if isHighHalf high then
        match unit? e f g h with
        | none => .error (.malformed .shortEscape (pos + 7))
        | some low =>
          if isLowHalf low then
            let code := 0x10000 + (high - 0xD800) * 0x400 + (low - 0xDC00)
            readText start (Char.ofNat code :: done) (i :: rest) (pos + 12)
          else
            readText start (unitChar high :: done) ('\\' :: 'u' :: e :: f :: g :: h :: i :: rest)
              (pos + 6)
      else
        readText start (unitChar high :: done) ('\\' :: 'u' :: e :: f :: g :: h :: i :: rest)
          (pos + 6)
  | '\\' :: 'u' :: a :: b :: c :: d :: e :: rest, pos =>
    match unit? a b c d with
    | none => .error (.malformed .shortEscape (pos + 1))
    | some unit => readText start (unitChar unit :: done) (e :: rest) (pos + 6)
  | '\\' :: letter :: rest, pos =>
    if letter = 'u' then .error (.malformed .shortEscape (pos + 1))
    else
      match unescape? letter with
      | none => .error (.malformed .unknownEscape pos)
      | some c => readText start (c :: done) rest (pos + 2)
  | c :: rest, pos =>
    if c.toNat < 0x20 then .error (.malformed .controlCharacter pos)
    else readText start (c :: done) rest (pos + 1)

/-! ## Numbers -/

def digitsOf (cs : List Char) : List Char := cs.takeWhile Text.isAsciiDigit

/-- The whole part of a number: a lone zero, or digits that start with another. -/
def wholePart : List Char → List Char
  | '0' :: _ => ['0']
  | cs => digitsOf cs

/-- The fraction with its point, if a digit follows the point. -/
def fractionPart : List Char → List Char
  | '.' :: rest =>
    match digitsOf rest with
    | [] => []
    | digits => '.' :: digits
  | _ => []

/-- The exponent with its mark and sign, if it has a digit. -/
def exponentPart : List Char → List Char
  | mark :: rest =>
    if mark = 'e' ∨ mark = 'E' then
      let sign := match rest with
        | '+' :: _ => ['+']
        | '-' :: _ => ['-']
        | _ => []
      match digitsOf (rest.drop sign.length) with
      | [] => []
      | digits => mark :: sign ++ digits
    else []
  | [] => []

/-- A number: an integer unless it has a fraction or an exponent. -/
def readNumber (c : Cursor) : Except Fault (Json × Cursor) :=
  let negative := c.chars.head? == some '-'
  -- The parts are found one behind the other; what is no part of the number is left to the caller.
  let body := if negative then c.chars.drop 1 else c.chars
  let whole := wholePart body
  if whole.isEmpty then .error (.malformed .expectedValue c.pos)
  else
    let fraction := fractionPart (body.drop whole.length)
    let exponent := exponentPart (body.drop (whole.length + fraction.length))
    let rest := c.drop
      ((if negative then 1 else 0) + whole.length + fraction.length + exponent.length)
    let digits := whole.filterMap Text.asciiDigit?
    if fraction.isEmpty ∧ exponent.isEmpty then
      -- only integers have a limit; reals may have any number of digits
      if digits.length > Decimal.maxIntegerDigits then .error (.longInteger digits.length)
      else
        let n : Int := Text.ofDigits digits
        .ok (.int (if negative then -n else n), rest)
    else
      let places := (fraction.drop 1).filterMap Text.asciiDigit?
      let e := (Decimal.exponent? exponent).getD 0
      let x := Decimal.ofScientific negative (Text.ofDigits (digits ++ places)) (e - places.length)
      .ok (.real x, rest)

/-! ## Values -/

def literals : List (List Char × Json) :=
  [("null".toList, .null), ("true".toList, .bool true), ("false".toList, .bool false),
   ("NaN".toList, .real (Float.ofBits 0x7FF8000000000000)),
   ("Infinity".toList, .real (Decimal.ofScientific false 1 400)),
   ("-Infinity".toList, .real (Decimal.ofScientific true 1 400))]

def readAtom (c : Cursor) : Except Fault (Json × Cursor) :=
  match literals.find? fun literal => literal.1.isPrefixOf c.chars with
  | some (word, value) => .ok (value, c.drop word.length)
  | none => readNumber c

/-- Parts up to the closing bracket; `done` holds the parts read so far, last first. -/
def readParts {α : Type} (close : Char) (part : Cursor → Except Fault (α × Cursor)) :
    Nat → List α → Cursor → Except Fault (List α × Cursor)
  -- With as much fuel as there are characters this is not reached: each part takes one at least.
  | 0, _, c => .error (.malformed .expectedComma c.pos)
  | fuel + 1, done, c => do
    let (a, c) ← part c
    let c := c.skipSpaces
    if c.chars.head? = some close then .ok ((a :: done).reverse, c.drop 1)
    else if c.chars.head? = some ',' then
      readParts close part fuel (a :: done) (c.drop 1).skipSpaces
    else .error (.malformed .expectedComma c.pos)

/-- A key, its colon and the value under it. -/
def readMember (value : Cursor → Except Fault (Json × Cursor)) (c : Cursor) :
    Except Fault ((String × Json) × Cursor) :=
  match c.chars with
  | '"' :: rest => do
    let (key, c) ← readText c.pos [] rest (c.pos + 1)
    let c := c.skipSpaces
    match c.chars with
    | ':' :: _ => do
      let (v, c) ← value (c.drop 1).skipSpaces
      .ok ((String.ofList key, v), c)
    | _ => .error (.malformed .expectedColon c.pos)
  | _ => .error (.malformed .expectedKey c.pos)

/-- A value at the cursor, with the given number of nested lists and objects still allowed, and
with `fuel` bounding the items of each. -/
def readValue (fuel : Nat) : Nat → Cursor → Except Fault (Json × Cursor)
  | depth, c =>
    match c.chars with
    | [] => .error (.malformed .expectedValue c.pos)
    | '"' :: rest => do
      let (s, c) ← readText c.pos [] rest (c.pos + 1)
      .ok (.text (String.ofList s), c)
    | '[' :: _ =>
      match depth with
      | 0 => .error (.deepNesting true)
      | depth + 1 =>
        let inside := (c.drop 1).skipSpaces
        match inside.chars with
        | ']' :: _ => .ok (.array [], inside.drop 1)
        | _ => do
          let (items, c) ← readParts ']' (readValue fuel depth) fuel [] inside
          .ok (.array items, c)
    | '{' :: _ =>
      match depth with
      | 0 => .error (.deepNesting false)
      | depth + 1 =>
        let inside := (c.drop 1).skipSpaces
        match inside.chars with
        | '}' :: _ => .ok (.object [], inside.drop 1)
        | _ => do
          let (members, c) ← readParts '}' (readMember (readValue fuel depth)) fuel [] inside
          .ok (.object (Fields.ofPairs members), c)
    | _ => readAtom c

/-- A whole text: one value with blanks around it. -/
def readDocument (cs : List Char) : Except Fault Json :=
  if cs.head? == some '\uFEFF' then .error (.malformed .byteOrderMark 0)
  else do
    let (v, c) ← readValue cs.length maxDepth (Cursor.mk cs 0).skipSpaces
    let c := c.skipSpaces
    if c.chars.isEmpty then .ok v else .error (.malformed .extraData c.pos)

/-- The line and the column, both from one, of the place after the given characters. -/
def lineAndColumn (before : List Char) : Nat × Nat :=
  before.foldl (fun (line, column) c => if c = '\n' then (line + 1, 1) else (line, column + 1))
    (1, 1)

def Fault.locate (cs : List Char) : Fault → ReadError
  | .malformed what pos =>
    let (line, column) := lineAndColumn (cs.take pos)
    .malformed what line column pos
  | .longInteger digits => .longInteger digits
  | .deepNesting inArray => .deepNesting inArray

def read (s : String) : Except ReadError Json :=
  let cs := s.toList
  (readDocument cs).mapError (Fault.locate cs)

/-- The object that a text spells, and the empty object for every other text. -/
def readFields (s : String) : Fields :=
  match read s with
  | .ok (.object fields) => fields
  | _ => []

end BattleMaps.Json
