import BattleMaps.Decimal.Reading
import BattleMaps.Decimal.Binary

/-!
# Time stamps

Stored documents carry the time of their making in whole milliseconds. The time comes as seconds
and microseconds; it is first rounded to the nearest double of seconds, and its thousandfold is
then cut off towards zero.

## Main definitions

* `Clock.milliseconds`: the time stamp of a time
-/

namespace BattleMaps.Clock

/-- A finite double cut off towards zero; zero for the doubles that are no numbers. -/
def truncate (x : Float) : Int :=
  match Decimal.valueOf x with
  | .finite b =>
    let n : Int := (Decimal.scaled b.m 2 b.q / Decimal.scaled 1 2 (-b.q) : Nat)
    if b.negative then -n else n
  | _ => 0

/-- The time stamp of a time since 1970, given in seconds and microseconds. -/
def milliseconds (seconds micros : Int) : Int :=
  let total := seconds * 1000000 + micros
  truncate (Decimal.ofScientific (total < 0) total.natAbs (-6) * 1000)

end BattleMaps.Clock
