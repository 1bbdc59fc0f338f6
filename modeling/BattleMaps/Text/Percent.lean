import BattleMaps.Text.Hex
import BattleMaps.Text.Utf8

/-!
# Percent-encoded paths

An object's path becomes part of its address by spelling every byte outside a small alphabet as
a percent sign and two hexadecimal digits. Reading an address back is forgiving: a percent sign
that is not followed by two digits stands for itself, and bytes that spell no character show as
U+FFFD.

## Main definitions

* `Text.Percent.encode`: a path as it stands in an address; slashes stay
* `Text.Percent.decode`: the path that an address spells
-/

namespace BattleMaps.Text.Percent

/-- Whether a character stands for itself in an encoded path: ASCII letters and digits, the
marks `-`, `.`, `_` and `~`, and the slash between segments. -/
def isPlain (c : Char) : Bool := c.isAlphanum || "-._~/".toList.contains c

def encodeByte (b : UInt8) : List Char := '%' :: Hex.upper 2 b.toNat

def encode (s : String) : String :=
  String.ofList <| s.toList.flatMap fun c =>
    if isPlain c then [c] else (Utf8.encodeChar c).flatMap encodeByte

/-- What an encoded path is made of: bytes, spelled or plain, and characters beyond ASCII that
were left unencoded. -/
inductive Unit where
  -- A byte of some character's UTF-8 form.
  | byte (b : Nat)
  -- A character beyond ASCII that stands for itself.
  | char (c : Char)

def units : List Char → List Unit
  | [] => []
  | '%' :: h :: l :: rest =>
    match Hex.value? h, Hex.value? l with
    | some a, some b => .byte (16 * a + b) :: units rest
    | _, _ => .byte 0x25 :: units (h :: l :: rest)
  | c :: rest => (if c.toNat < 0x80 then .byte c.toNat else .char c) :: units rest

/-- The characters that the units spell; a plain character beyond ASCII ends whatever character
the bytes before it had begun. -/
def spelled (s : Utf8.State) : List Unit → List (Option Char)
  | [] => Utf8.finish s
  | .byte b :: rest =>
    let (out, next) := Utf8.step s b
    out ++ spelled next rest
  | .char c :: rest => Utf8.finish s ++ some c :: spelled {} rest

def decode (s : String) : String :=
  String.ofList ((spelled {} (units s.toList)).map fun c => c.getD Utf8.replacement)

end BattleMaps.Text.Percent
