/-!
# The exact value of a double

Numbers with a fraction are kept as doubles. Printing, rounding and comparing them exactly needs
the number that a double stands for: a sign and a natural `m` times a power of two. Everything
here reads the sixty-four bits, so no floating-point operation blurs a result.

## Main definitions

* `Decimal.Binary`: a finite double as `± m * 2 ^ q`
* `Decimal.Value`: a double as not-a-number, an infinity or a finite value
* `Decimal.integer?`: the integer that a double equals, if any
-/

namespace BattleMaps.Decimal

/-- The number `n * base ^ e`; a negative exponent counts as zero. -/
def scaled (n base : Nat) (e : Int) : Nat := n * Nat.pow base e.toNat

/-- A finite double, `± m * 2 ^ q`. -/
structure Binary where
  -- Whether the sign bit is set; zero has a sign too.
  negative : Bool
  -- The significand as a natural number.
  m : Nat
  -- The exponent of two.
  q : Int
  -- Whether the gap to the next smaller magnitude is half the gap to the next larger one.
  narrowBelow : Bool

inductive Value where
  | nan
  | infinite (negative : Bool)
  | finite (x : Binary)

/-- What the sixty-four bits of a double stand for. -/
def Value.ofBits (bits : UInt64) : Value :=
  let negative := bits >>> 63 == 1
  let exponent := ((bits >>> 52) &&& 0x7FF).toNat
  let fraction := (bits &&& 0xFFFFFFFFFFFFF).toNat
  if exponent = 0x7FF then if fraction = 0 then .infinite negative else .nan
  else if exponent = 0 then .finite ⟨negative, fraction, -1074, false⟩
  else
    .finite
      ⟨negative, 0x10000000000000 + fraction, (exponent : Int) - 1075, fraction = 0 && exponent > 1⟩

def valueOf (x : Float) : Value := Value.ofBits x.toBits

/-- The natural number `m * 2 ^ q`, if it is one. -/
def Binary.magnitude? (x : Binary) : Option Nat :=
  if 0 ≤ x.q then some (scaled x.m 2 x.q)
  else
    let d := scaled 1 2 (-x.q)
    if x.m % d = 0 then some (x.m / d) else none

/-- The integer that a double equals, if any. -/
def integer? (x : Float) : Option Int :=
  match valueOf x with
  | .finite b => b.magnitude?.map fun n => if b.negative then -(n : Int) else n
  | _ => none

end BattleMaps.Decimal
