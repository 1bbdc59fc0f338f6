import BattleMaps.Decimal.Binary

/-!
# Shortest decimals

A double is written with the fewest digits that read back to it; among candidates of that length
the nearest to the exact value is taken, and of two equally near the even one. The search works on
the exact value: for one digit, two digits and so on it tests the two decimals of that length next
to the value against the interval of reals that round to it.

Numbers whose leading digit stands at exponent -4 to 15 are written out, all others with an
exponent of at least two digits.

## Main definitions

* `Decimal.shortest`: the digits and exponent selected for a finite positive value
* `Decimal.layout`: a decimal as text
* `Decimal.render`: a double as text, given the words for the values that are no numbers
-/

namespace BattleMaps.Decimal

/-- The decimal `digits * 10 ^ exp`. -/
structure Dec where
  digits : Nat
  -- The exponent of ten.
  exp : Int
deriving DecidableEq, Repr

/-- Compares `a * 10 ^ i` with `n * 2 ^ j`, exactly. -/
def compareScaled (a : Nat) (i : Int) (n : Nat) (j : Int) : Ordering :=
  compare (scaled (scaled a 10 i) 2 (-j)) (scaled (scaled n 2 j) 10 (-i))

/-- Whether a decimal lies among the reals that round to the magnitude of `x`: from halfway to the
neighbour below to halfway to the neighbour above, the ends included when `m` is even. -/
def Binary.readsBack (x : Binary) (d : Dec) : Bool :=
  let low := if x.narrowBelow then 4 * x.m - 1 else 4 * x.m - 2
  let high := 4 * x.m + 2
  let closed := x.m % 2 == 0
  let toLow := compareScaled d.digits d.exp low (x.q - 2)
  let toHigh := compareScaled d.digits d.exp high (x.q - 2)
  (toLow == .gt || (closed && toLow == .eq)) && (toHigh == .lt || (closed && toHigh == .eq))

/-- An estimate of the least `k` with `m * 2 ^ q < 10 ^ k`, never too large: one bit is worth
more than 0.30102 digits. -/
def Binary.scaleEstimate (x : Binary) : Int :=
  Int.fdiv (((x.m.log2 : Int) + x.q) * 30102) 100000 - 1

/-- The least exponent from the given one on, within the given number of steps, whose power of
ten exceeds the magnitude. -/
def Binary.raiseScale (x : Binary) : Nat → Int → Int
  | 0, k => k
  | steps + 1, k => if compareScaled 1 k x.m x.q == .gt then k else raiseScale x steps (k + 1)

/-- The least `k` with `m * 2 ^ q < 10 ^ k`, for a positive magnitude. -/
def Binary.scale (x : Binary) : Int := x.raiseScale 12 x.scaleEstimate

/-- The magnitude in units of `10 ^ e`, rounded down. -/
def Binary.floorAt (x : Binary) (e : Int) : Nat :=
  scaled (scaled x.m 2 x.q) 10 (-e) / scaled (scaled 1 2 (-x.q)) 10 e

/-- The decimal of the given grid that reads back and is nearest, if the grid has one. -/
def Binary.onGrid (x : Binary) (e : Int) : Option Dec :=
  let below := x.floorAt e
  let above := below + 1
  match x.readsBack ⟨below, e⟩, x.readsBack ⟨above, e⟩ with
  | false, false => none
  | true, false => some ⟨below, e⟩
  | false, true => some ⟨above, e⟩
  | true, true =>
    match compareScaled (below + above) e (2 * x.m) x.q with
    | .gt => some ⟨below, e⟩
    | .lt => some ⟨above, e⟩
    | .eq => some ⟨if below % 2 = 0 then below else above, e⟩

/-- The exact value as a decimal, should no grid of up to seventeen digits hold one. -/
def Binary.exact (x : Binary) : Dec :=
  if 0 ≤ x.q then ⟨scaled x.m 2 x.q, 0⟩ else ⟨scaled x.m 5 (-x.q), x.q⟩

/-- Drops trailing zeros of the digits into the exponent, at most as many as the fuel says. -/
def Dec.stripZeros : Nat → Dec → Dec
  | 0, d => d
  | fuel + 1, d =>
    if d.digits % 10 = 0 ∧ d.digits ≠ 0 then stripZeros fuel ⟨d.digits / 10, d.exp + 1⟩ else d

/-- The decimal with the fewest digits that reads back to the magnitude of `x`. -/
def shortest (x : Binary) : Dec :=
  if x.m = 0 then ⟨0, 0⟩
  else
    let k := x.scale
    let found := (List.range 17).findSome? fun n => x.onGrid (k - Int.ofNat (n + 1))
    (found.getD x.exact).stripZeros 400

/-- An exponent with its sign and at least two digits. -/
def exponentText (e : Int) : List Char :=
  let digits := (toString e.natAbs).toList
  'e' :: (if e < 0 then '-' else '+') :: (if digits.length < 2 then '0' :: digits else digits)

/-- A decimal as text: written out while its leading digit stands at exponent -4 to 15, always
with a point, otherwise with an exponent. -/
def layout (d : Dec) : List Char :=
  let digits := (toString d.digits).toList
  let count : Int := digits.length
  let lead := d.exp + count - 1
  if -4 ≤ lead ∧ lead < 16 then
    if 0 ≤ d.exp then digits ++ List.replicate d.exp.toNat '0' ++ ['.', '0']
    else if 0 ≤ lead then
      digits.take (lead + 1).toNat ++ '.' :: digits.drop (lead + 1).toNat
    else '0' :: '.' :: (List.replicate (-lead - 1).toNat '0' ++ digits)
  else
    let tail := digits.drop 1
    digits.take 1 ++ (if tail.isEmpty then [] else '.' :: tail) ++ exponentText lead

/-- The words for the doubles that are no numbers. -/
structure Words where
  nan : String
  -- The text of infinity, without its sign.
  infinity : String

/-- A double as text. -/
def render (words : Words) (x : Float) : String :=
  match valueOf x with
  | .nan => words.nan
  | .infinite negative => (if negative then "-" else "") ++ words.infinity
  | .finite b => (if b.negative then "-" else "") ++ String.ofList (layout (shortest b))

end BattleMaps.Decimal
