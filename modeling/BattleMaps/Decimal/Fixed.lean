import BattleMaps.Decimal.Binary

/-!
# A fixed number of places

Costs and percentages are reported with a fixed number of digits after the point. The exact value
of the double is rounded, and a tie goes to the even neighbour.

## Main definitions

* `Decimal.roundDiv`: a quotient rounded to the nearest natural number, ties to even
* `Decimal.fixed`: a double with a fixed number of places
-/

namespace BattleMaps.Decimal

/-- The natural number nearest to `num / den`; of two equally near ones, the even one. -/
def roundDiv (num den : Nat) : Nat :=
  let q := num / den
  match compare (2 * (num % den)) den with
  | .lt => q
  | .gt => q + 1
  | .eq => if q % 2 = 0 then q else q + 1

/-- The magnitude of `x` in units of `10 ^ -places`, rounded. -/
def Binary.inUnits (x : Binary) (places : Nat) : Nat :=
  roundDiv (scaled (scaled x.m 2 x.q) 10 places) (scaled 1 2 (-x.q))

/-- The digits of `n` with the point before the last `places` of them. -/
def withPoint (places n : Nat) : List Char :=
  let digits := (toString n).toList
  let padded := List.replicate (places + 1 - digits.length) '0' ++ digits
  let whole := padded.take (padded.length - places)
  if places = 0 then whole else whole ++ '.' :: padded.drop (padded.length - places)

/-- A double with a fixed number of places. -/
def fixed (places : Nat) (x : Float) : String :=
  match valueOf x with
  | .nan => "nan"
  | .infinite negative => if negative then "-inf" else "inf"
  | .finite b =>
    (if b.negative then "-" else "") ++ String.ofList (withPoint places (b.inUnits places))

end BattleMaps.Decimal
