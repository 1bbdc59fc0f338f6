import BattleMaps.Text.Utf8

/-!
# Base64

Images travel inside requests as text: six bits a character, four characters for three bytes,
padded with `=`.

## Main definitions

* `Text.Base64.encode`: the text of a byte sequence
-/

namespace BattleMaps.Text.Base64

/-- The sixty-four letters, by value. -/
def alphabet : List Char :=
  "ABCDEFGHIJKLMNOPQRSTUVWXYZabcdefghijklmnopqrstuvwxyz0123456789+/".toList

def letter (n : Nat) : Char := alphabet.getD (n % 64) '='

/-- The characters of a byte sequence, three bytes at a time. -/
def encodeChars : Bytes → List Char
  | a :: b :: c :: rest =>
    let n := a.toNat * 65536 + b.toNat * 256 + c.toNat
    letter (n / 262144) :: letter (n / 4096) :: letter (n / 64) :: letter n :: encodeChars rest
  | [a, b] =>
    let n := a.toNat * 65536 + b.toNat * 256
    [letter (n / 262144), letter (n / 4096), letter (n / 64), '=']
  | [a] =>
    let n := a.toNat * 65536
    [letter (n / 262144), letter (n / 4096), '=', '=']
  | [] => []

def encode (bytes : Bytes) : String := String.ofList (encodeChars bytes)

end BattleMaps.Text.Base64
