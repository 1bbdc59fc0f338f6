/-!
# Hexadecimal numerals

Escapes, encoded paths and recorded bytes spell numbers in base sixteen. The letter case is the
format's choice, so both cases are here.

## Main definitions

* `Text.Hex.lower`, `Text.Hex.upper`: a number in a fixed count of digits
* `Text.Hex.value?`: the value of one digit of either case
-/

namespace BattleMaps.Text.Hex

def lowerDigit (d : Nat) : Char := if d < 10 then Char.ofNat (48 + d) else Char.ofNat (87 + d)

def upperDigit (d : Nat) : Char := if d < 10 then Char.ofNat (48 + d) else Char.ofNat (55 + d)

/-- The last `width` digits of `n`, most significant first, in the given alphabet. -/
def spell (digit : Nat → Char) : Nat → Nat → List Char
  | 0, _ => []
  | width + 1, n => spell digit width (n / 16) ++ [digit (n % 16)]

def lower (width n : Nat) : List Char := spell lowerDigit width n

def upper (width n : Nat) : List Char := spell upperDigit width n

/-- The value of a digit of either case. -/
def value? (c : Char) : Option Nat :=
  if '0' ≤ c ∧ c ≤ '9' then some (c.toNat - 48)
  else if 'a' ≤ c ∧ c ≤ 'f' then some (c.toNat - 87)
  else if 'A' ≤ c ∧ c ≤ 'F' then some (c.toNat - 55)
  else none

/-- The bytes spelled by pairs of digits, if the characters are such pairs. -/
def bytes? : List Char → Option (List UInt8)
  | [] => some []
  | h :: l :: rest => do
    let a ← value? h
    let b ← value? l
    let tail ← bytes? rest
    pure (UInt8.ofNat (16 * a + b) :: tail)
  | [_] => none

def ofBytes (bytes : List UInt8) : String :=
  String.ofList (bytes.flatMap fun b => lower 2 b.toNat)

end BattleMaps.Text.Hex
