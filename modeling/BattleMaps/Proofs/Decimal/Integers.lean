import BattleMaps.Proofs.Decimal.Overflow
import BattleMaps.Proofs.Decimal.Shortest

/-!
# Integers as doubles

An integer that is read as a double becomes the nearest double, and that is an integer again: with
fifty-three bits and zeros behind them. Up to `2 ^ 53` nothing is lost; beyond, only the integers
that end in enough zeros are kept, and from `overflowBound` on none is.

## Main definitions

* `Binary.value` — the number that a finite double stands for
* `IsInteger` — whether a double is finite and equals an integer
* `nearestDouble`, `nearestInteger` — the number that another one becomes as a double

## Main results

* `integer?_eq_some_iff` — the integer that is read off a double is the one that it equals
* `nearestDouble_nearest` — no double is nearer
* `nearestInteger_mono` — rounding to doubles keeps the order
* `integer?_ofScientific` — the integer that is read off the double that another one becomes
* `integer?_ofScientific_eq_self_iff` — exactly the integers that are doubles are kept
-/

namespace BattleMaps.Decimal

open Float.Model Float.Model.UnpackedFloat

variable {x : Float} {b : Binary} {n k : Nat} {i : Int} {negative : Bool}

/-! ## Doubles that are integers -/

/-- The number that a finite double stands for. -/
def Binary.value (b : Binary) : ℚ := (if b.negative then -1 else 1) * (b.m * 2 ^ b.q)

/-- Whether a double is finite and equals an integer. -/
def IsInteger (x : Float) (i : Int) : Prop := ∃ b, valueOf x = .finite b ∧ b.value = i

theorem Binary.abs_value : |b.value| = b.m * 2 ^ b.q := by
  have nonneg : (0 : ℚ) ≤ b.m * 2 ^ b.q := by positivity
  rw [value, abs_mul, abs_of_nonneg nonneg]
  split_ifs <;> simp

theorem Binary.magnitude?_eq_some_iff : b.magnitude? = some n ↔ (b.m : ℚ) * 2 ^ b.q = n := by
  unfold magnitude?
  split_ifs with whole
  · have product : ((scaled b.m 2 b.q : Nat) : ℚ) = b.m * 2 ^ b.q := by
      rw [cast_scaled, Int.toNat_of_nonneg whole, Nat.cast_ofNat]
    rw [← product, Option.some.injEq, Nat.cast_inj]
  · -- The exponent is negative, so the significand is divided by a power of two.
    have unit : (2 : ℚ) ^ b.q = ((scaled 1 2 (-b.q) : Nat) : ℚ)⁻¹ := by
      rw [cast_scaled, Int.toNat_of_nonneg (by omega), Nat.cast_one, Nat.cast_ofNat, one_mul,
        zpow_neg, inv_inv]
    have pos : 0 < scaled 1 2 (-b.q) := Nat.mul_pos Nat.one_pos (Nat.pow_pos Nat.two_pos)
    have quotient : (b.m : ℚ) * 2 ^ b.q = n ↔ b.m = n * scaled 1 2 (-b.q) := by
      rw [unit, ← div_eq_mul_inv, div_eq_iff (by exact_mod_cast pos.ne')]
      exact_mod_cast Iff.rfl
    rw [quotient]
    generalize scaled 1 2 (-b.q) = d at *
    dsimp only
    split_ifs with divides
    · rw [Option.some.injEq, Nat.div_eq_iff_eq_mul_left pos (Nat.dvd_of_mod_eq_zero divides)]
    · exact iff_of_false (by simp) fun same => divides (by rw [same, Nat.mul_mod_left])

theorem integer?_of_finite (finite : valueOf x = .finite b) :
    integer? x = b.magnitude?.map fun n : Nat => if b.negative then -(n : Int) else n := by
  rw [integer?, finite]
  dsimp only
  cases b.magnitude? <;> rfl

/-- The integer that is read off a double is the one that it equals. -/
theorem integer?_eq_some_iff : integer? x = some i ↔ IsInteger x i := by
  cases value : valueOf x with
  | nan => simp [integer?, IsInteger, value]
  | infinite negative => simp [integer?, IsInteger, value]
  | finite b =>
    rw [integer?_of_finite value, IsInteger]
    simp only [value, Option.map_eq_some_iff, Value.finite.injEq, exists_eq_left']
    have nonneg : (0 : ℚ) ≤ b.m * 2 ^ b.q := by positivity
    constructor
    · rintro ⟨n, magnitude, rfl⟩
      rw [Binary.value, Binary.magnitude?_eq_some_iff.mp magnitude]
      split_ifs <;> simp
    · intro same
      refine ⟨i.natAbs, Binary.magnitude?_eq_some_iff.mpr ?_, ?_⟩
      · rw [Nat.cast_natAbs, Int.cast_abs, ← same, Binary.abs_value]
      · rw [Binary.value] at same
        split_ifs at same ⊢
        · have : (i : ℚ) ≤ 0 := by linarith
          have : i ≤ 0 := by exact_mod_cast this
          omega
        · have : (0 : ℚ) ≤ i := by linarith
          have : 0 ≤ i := by exact_mod_cast this
          omega

/-! ## The nearest double -/

/-- The natural number that another one becomes as a double: rounded to fifty-three bits. -/
def nearestDouble (n : Nat) : Nat := roundDiv n (2 ^ (n.log2 - 52)) * 2 ^ (n.log2 - 52)

theorem roundDiv_one (n : Nat) : roundDiv n 1 = n :=
  roundDiv_eq Nat.one_pos (by unfold IsNearest; omega)

/-- A number of at most fifty-three bits is kept. -/
theorem nearestDouble_of_lt (small : n < 2 ^ 53) : nearestDouble n = n := by
  have unit : n.log2 - 52 = 0 := by
    by_cases zero : n = 0
    · rw [zero, Nat.log2_zero]
    · have := (Nat.log2_lt zero).mpr small
      omega
  rw [nearestDouble, unit, Nat.pow_zero, roundDiv_one, Nat.mul_one]

/-- A number with more bits is rounded to one that has them too. -/
theorem bits_roundDiv (large : 2 ^ 53 ≤ n) :
    2 ^ 52 * 2 ^ (n.log2 - 52) ≤ n ∧ n < 2 ^ 53 * 2 ^ (n.log2 - 52) ∧
      2 ^ 52 ≤ roundDiv n (2 ^ (n.log2 - 52)) ∧ roundDiv n (2 ^ (n.log2 - 52)) ≤ 2 ^ 53 := by
  have log : 53 ≤ n.log2 := (Nat.le_log2 (by omega)).mpr large
  have low : 2 ^ 52 * 2 ^ (n.log2 - 52) ≤ n := by
    rw [← Nat.pow_add, Nat.add_sub_cancel' (by omega)]
    exact Nat.log2_self_le (by omega)
  have high : n < 2 ^ 53 * 2 ^ (n.log2 - 52) := by
    have next : 53 + (n.log2 - 52) = n.log2 + 1 := by omega
    rw [← Nat.pow_add, next]
    exact Nat.lt_log2_self
  have unit := Nat.two_pow_pos (n.log2 - 52)
  have nearest : IsNearest n (2 ^ (n.log2 - 52)) _ := isNearest_roundDiv unit
  refine ⟨low, high, ?_, ?_⟩
  · exact ((Nat.le_div_iff_mul_le unit).mpr low).trans (div_le_of_isNearest unit nearest)
  · by_contra far
    have := Nat.mul_le_mul_right (2 ^ (n.log2 - 52)) (Nat.lt_of_not_le far)
    have := nearest.1
    rw [Nat.mul_assoc] at this
    omega

theorem nearestDouble_bounds (pos : 0 < n) :
    2 ^ n.log2 ≤ nearestDouble n ∧ nearestDouble n ≤ 2 ^ (n.log2 + 1) := by
  by_cases small : n < 2 ^ 53
  · rw [nearestDouble_of_lt small]
    exact ⟨Nat.log2_self_le pos.ne', Nat.lt_log2_self.le⟩
  · obtain ⟨-, -, least, greatest⟩ := bits_roundDiv (not_lt.mp small)
    have log : 53 ≤ n.log2 := (Nat.le_log2 pos.ne').mpr (not_lt.mp small)
    have first : 52 + (n.log2 - 52) = n.log2 := by omega
    have last : 53 + (n.log2 - 52) = n.log2 + 1 := by omega
    constructor
    · calc 2 ^ n.log2 = 2 ^ 52 * 2 ^ (n.log2 - 52) := by rw [← Nat.pow_add, first]
        _ ≤ nearestDouble n := Nat.mul_le_mul_right _ least
    · calc nearestDouble n ≤ 2 ^ 53 * 2 ^ (n.log2 - 52) := Nat.mul_le_mul_right _ greatest
        _ = 2 ^ (n.log2 + 1) := by rw [← Nat.pow_add, last]

theorem IsNearest.mono {num num' den m m' : Nat} (pos : 0 < den) (nearest : IsNearest num den m)
    (nearest' : IsNearest num' den m') (le : num ≤ num') : m ≤ m' := by
  by_contra greater
  obtain ⟨low, -⟩ := nearest
  obtain ⟨-, high⟩ := nearest'
  rw [Nat.mul_assoc] at low high
  -- At most half a unit apart from the quotients, the two could only be neighbours at a tie, and
  -- then both would be even.
  obtain ⟨d, rfl⟩ : ∃ d, m = m' + 1 + d := ⟨m - (m' + 1), by omega⟩
  have split : (m' + 1 + d) * den = m' * den + den + d * den := by ring
  rw [split] at low
  have near : d * den < den := by omega
  obtain rfl : d = 0 := by
    by_contra far
    exact absurd (Nat.le_mul_of_pos_left den (Nat.pos_of_ne_zero far)) (not_le.mpr near)
  omega

/-- Rounding to doubles keeps the order. -/
theorem nearestDouble_mono {n n' : Nat} (le : n ≤ n') : nearestDouble n ≤ nearestDouble n' := by
  rcases n.eq_zero_or_pos with rfl | pos
  · rw [nearestDouble_of_lt (by decide)]
    exact Nat.zero_le _
  · have logs : n.log2 ≤ n'.log2 :=
      (Nat.le_log2 (by omega)).mpr ((Nat.log2_self_le pos.ne').trans le)
    rcases logs.eq_or_lt with same | less
    · have unit := Nat.two_pow_pos (n'.log2 - 52)
      rw [nearestDouble, nearestDouble, same]
      exact Nat.mul_le_mul_right _
        (IsNearest.mono unit (isNearest_roundDiv unit) (isNearest_roundDiv unit) le)
    · calc nearestDouble n ≤ 2 ^ (n.log2 + 1) := (nearestDouble_bounds pos).2
        _ ≤ 2 ^ n'.log2 := Nat.pow_le_pow_right Nat.two_pos less
        _ ≤ nearestDouble n' := (nearestDouble_bounds (by omega)).1

/-- The multiple of a unit that a number is rounded to is the nearest one. -/
theorem IsNearest.le_sub {num den m : Nat} (nearest : IsNearest num den m) (other : Nat) :
    ((num : Int) - (m * den : Nat)).natAbs ≤ ((num : Int) - (other * den : Nat)).natAbs := by
  obtain ⟨low, high⟩ := nearest
  rw [Nat.mul_assoc] at low high
  rcases lt_trichotomy other m with less | rfl | greater
  · have apart := Nat.mul_le_mul_right den less
    rw [Nat.succ_mul] at apart
    omega
  · exact le_rfl
  · have apart := Nat.mul_le_mul_right den greater
    rw [Nat.succ_mul] at apart
    omega

/-- The unit of a double is no finer than that of a power of two below it. -/
theorem dvd_of_isInteger {m log : Nat} (double : IsInteger x m) (large : 2 ^ log ≤ m) :
    2 ^ (log - 52) ∣ m := by
  obtain ⟨b, finite, value⟩ := double
  have magnitude : (b.m : ℚ) * 2 ^ b.q = m := by
    rw [← Binary.abs_value, value, Int.cast_natCast, Nat.abs_cast]
  have pos : 0 < m := (Nat.two_pow_pos log).trans_le large
  have nonzero : b.m ≠ 0 := by
    intro none
    rw [none, Nat.cast_zero, zero_mul] at magnitude
    exact pos.ne (by exact_mod_cast magnitude)
  have small : (b.m : ℚ) < 2 ^ 53 := by
    exact_mod_cast (canonical_of_valueOf_eq_finite finite nonzero).1.lt
  have powers : (2 : ℚ) ^ (log : Int) < 2 ^ (53 + b.q) :=
    calc (2 : ℚ) ^ (log : Int) ≤ m := by exact_mod_cast large
      _ = b.m * 2 ^ b.q := magnitude.symm
      _ < 2 ^ 53 * 2 ^ b.q := mul_lt_mul_of_pos_right small (by positivity)
      _ = 2 ^ (53 + b.q) := by rw [zpow_add₀ two_ne_zero]; rfl
  have bits : (log : Int) < 53 + b.q := (zpow_lt_zpow_iff_right₀ one_lt_two).mp powers
  rcases le_or_gt 0 b.q with whole | fraction
  · obtain ⟨q, exponent⟩ := Int.eq_ofNat_of_zero_le whole
    rw [exponent, zpow_natCast] at magnitude
    have product : m = b.m * 2 ^ q := by exact_mod_cast magnitude.symm
    rw [product]
    exact (Nat.pow_dvd_pow 2 (by omega)).mul_left b.m
  · have unit : log - 52 = 0 := by omega
    rw [unit, Nat.pow_zero]
    exact Nat.one_dvd m

/-- No double that is a natural number is nearer. -/
theorem nearestDouble_nearest {m : Nat} (double : IsInteger x m) :
    ((n : Int) - nearestDouble n).natAbs ≤ ((n : Int) - m).natAbs := by
  by_cases small : n < 2 ^ 53
  · rw [nearestDouble_of_lt small]
    omega
  · have nearest : IsNearest n (2 ^ (n.log2 - 52)) _ :=
      isNearest_roundDiv (Nat.two_pow_pos (n.log2 - 52))
    by_cases large : 2 ^ n.log2 ≤ m
    · obtain ⟨j, rfl⟩ := dvd_of_isInteger double large
      rw [nearestDouble, Nat.mul_comm (2 ^ _) j]
      exact nearest.le_sub j
    · -- The power of two between the two numbers is a double, and nearer.
      obtain ⟨low, -⟩ := bits_roundDiv (not_lt.mp small)
      have log : 53 ≤ n.log2 := (Nat.le_log2 (by omega)).mpr (not_lt.mp small)
      have power : 2 ^ 52 * 2 ^ (n.log2 - 52) = 2 ^ n.log2 := by
        rw [← Nat.pow_add, Nat.add_sub_cancel' (by omega)]
      have nearer := nearest.le_sub (2 ^ 52)
      rw [power] at low nearer
      rw [nearestDouble]
      omega

/-- The integer that another one becomes as a double. -/
def nearestInteger (i : Int) : Int :=
  if i < 0 then -(nearestDouble i.natAbs : Int) else nearestDouble i.natAbs

/-- Integers up to `2 ^ 53` are kept. -/
theorem nearestInteger_of_le (small : i.natAbs ≤ 2 ^ 53) : nearestInteger i = i := by
  have kept : nearestDouble i.natAbs = i.natAbs := by
    rcases small.lt_or_eq with less | last
    · exact nearestDouble_of_lt less
    · rw [last]
      decide +kernel
  rw [nearestInteger, kept]
  split_ifs <;> omega

theorem nearestInteger_mono {i i' : Int} (le : i ≤ i') : nearestInteger i ≤ nearestInteger i' := by
  unfold nearestInteger
  split_ifs with negative negative'
  · have : nearestDouble i'.natAbs ≤ nearestDouble i.natAbs := nearestDouble_mono (by omega)
    omega
  · omega
  · omega
  · have : nearestDouble i.natAbs ≤ nearestDouble i'.natAbs := nearestDouble_mono (by omega)
    omega

/-- An integer that is kept stays between the others. -/
theorem le_nearestInteger (large : 2 ^ 53 ≤ i) : 2 ^ 53 ≤ nearestInteger i := by
  have kept : nearestInteger (2 ^ 53) = 2 ^ 53 := nearestInteger_of_le (by decide)
  exact kept ▸ nearestInteger_mono large

theorem nearestInteger_le (large : i ≤ -2 ^ 53) : nearestInteger i ≤ -2 ^ 53 := by
  have kept : nearestInteger (-2 ^ 53) = -2 ^ 53 := nearestInteger_of_le (by decide)
  exact kept ▸ nearestInteger_mono large

/-- Membership of a natural number in the interval of a double, in quarters of the last place. -/
theorem covers_of_bounds (exponent : b.q = k)
    (low : b.low * 2 ^ k < 4 * n ∨ b.m % 2 = 0 ∧ b.low * 2 ^ k = 4 * n)
    (high : 4 * n < b.high * 2 ^ k ∨ b.m % 2 = 0 ∧ 4 * n = b.high * 2 ^ k) : b.Covers n := by
  have split : 0 + (k : Int) = b.q := by omega
  obtain ⟨lowLt, lowEq, -⟩ :=
    order_iff_of_compare_eq (compare_quotient n b.low Nat.one_pos split)
  obtain ⟨-, highEq, highGt⟩ :=
    order_iff_of_compare_eq (compare_quotient n b.high Nat.one_pos split)
  rw [Nat.one_mul, Nat.cast_one, div_one, zpow_zero, mul_one] at lowLt lowEq highEq highGt
  rw [Binary.Covers, lowLt, lowEq, highGt, eq_comm (b := (b.high : ℚ) * _), highEq,
    eq_comm (a := b.high * 2 ^ k)]
  exact ⟨low, high⟩

/-- What is rounded up to a power of two lies in the interval of that power, in quarters of the last
place there. -/
theorem bounds_of_carry {unit : Nat} (reach : 2 * (2 ^ 53 * unit) ≤ 2 * n + unit)
    (below : n < 2 ^ 53 * unit) :
    (2 ^ 54 - 1) * (unit * 2) ≤ 4 * n ∧ 4 * n < (2 ^ 54 + 2) * (unit * 2) := by
  omega

/-- A number lies in the interval of what it is rounded to, if that has fifty-three bits. -/
theorem exists_covers_of_bits {r : Nat} (nearest : IsNearest n (2 ^ k) r)
    (low : 2 ^ 52 * 2 ^ k ≤ n) (least : 2 ^ 52 ≤ r) (bits : r < 2 ^ 53) :
    ∃ b : Binary, b.Canonical ∧ b.Covers n ∧ (b.m : ℚ) * 2 ^ b.q = (r * 2 ^ k : Nat) := by
  obtain ⟨above, below⟩ := nearest
  rw [Nat.mul_assoc] at above below
  obtain ⟨b, canonical, rfl, exponent⟩ := exists_canonical (q := k) least bits (by omega)
  refine ⟨b, canonical, covers_of_bounds exponent ?_ ?_, ?_⟩
  · unfold Binary.low
    split_ifs with narrow
    · rw [(canonical.narrow.mp narrow).1]
      omega
    · rw [Nat.sub_mul, Nat.mul_assoc]
      omega
  · unfold Binary.high
    rw [Nat.add_mul, Nat.mul_assoc]
    omega
  · rw [exponent, zpow_natCast]
    exact_mod_cast rfl

/-- If rounding carries, a number lies in the interval of the next power of two. -/
theorem exists_covers_of_carry (nearest : IsNearest n (2 ^ k) (2 ^ 53))
    (below : n < 2 ^ 53 * 2 ^ k) :
    ∃ b : Binary, b.Canonical ∧ b.Covers n ∧ (b.m : ℚ) * 2 ^ b.q = (2 ^ 53 * 2 ^ k : Nat) := by
  obtain ⟨b, canonical, significand, exponent⟩ :=
    exists_canonical (m := 2 ^ 52) (q := (k + 1 : Nat)) le_rfl (by decide) (by omega)
  have narrow : b.narrowBelow = true := canonical.narrow.mpr ⟨significand, by omega⟩
  have even : b.m % 2 = 0 := by omega
  have next : 2 ^ (k + 1) = 2 ^ k * 2 := Nat.pow_succ ..
  have lowEnd : b.low = 2 ^ 54 - 1 := by
    rw [Binary.low, if_pos narrow, significand]
    norm_num
  have highEnd : b.high = 2 ^ 54 + 2 := by
    rw [Binary.high, significand]
    norm_num
  have reach : 2 * (2 ^ 53 * 2 ^ k) ≤ 2 * n + 2 ^ k := by
    obtain ⟨above, -⟩ := nearest
    rw [Nat.mul_assoc] at above
    rcases above with above | ⟨-, above⟩
    · exact above.le
    · exact above.le
  obtain ⟨reaches, stays⟩ := bounds_of_carry reach below
  rw [← next] at reaches stays
  refine ⟨b, canonical, covers_of_bounds exponent ?_ ?_, ?_⟩
  · rw [lowEnd]
    exact reaches.lt_or_eq.imp_right fun tie => ⟨even, tie⟩
  · rw [highEnd]
    exact .inl stays
  · rw [significand, exponent, zpow_natCast]
    push_cast
    ring

/-- Every positive number lies in the interval of a canonical value, which is what it becomes. -/
theorem exists_covers (pos : 0 < n) :
    ∃ b : Binary, b.Canonical ∧ b.Covers n ∧ (b.m : ℚ) * 2 ^ b.q = nearestDouble n := by
  by_cases small : n < 2 ^ 53
  · obtain ⟨b, -, canonical, -, -, -, -, value⟩ := exists_canonical_shifted pos small
    exact ⟨b, canonical, value ▸ canonical.covers_self, by rw [value, nearestDouble_of_lt small]⟩
  · obtain ⟨low, high, least, greatest⟩ := bits_roundDiv (not_lt.mp small)
    have nearest : IsNearest n (2 ^ (n.log2 - 52)) _ :=
      isNearest_roundDiv (Nat.two_pow_pos (n.log2 - 52))
    rw [nearestDouble]
    rcases greatest.lt_or_eq with bits | carry
    · exact exists_covers_of_bits nearest low least bits
    · rw [carry] at nearest ⊢
      exact exists_covers_of_carry nearest high

/-! ## Reading integers -/

/-- The exponent of what a number becomes is too large exactly from the bound on. -/
theorem exponent_of_covers (canonical : b.Canonical) (pos : 0 < n) (covers : b.Covers n) :
    972 ≤ b.q ↔ overflowBound ≤ n := by
  obtain ⟨c, canonical', rounded, beyond⟩ := exists_unpacked_ofScientific pos
  have same := unpacked_ofScientific (e := 0) canonical pos (by omega) (by omega)
    (by rwa [zpow_zero, mul_one])
  rw [rounded, UnpackedFloat.finite.injEq] at same
  rw [← same.2.2, beyond]

/-- A canonical value whose exponent is not too large is a double, with either sign. -/
theorem exists_valueOf (canonical : b.Canonical) (bounded : b.q ≤ 971) (negative : Bool) :
    ∃ x : Float, valueOf x = .finite { b with negative := negative } := by
  refine ⟨.ofModel (.pack (.finite (signOf negative) b.m b.q canonical.pos)), ?_⟩
  generalize double : Float.ofModel (.pack (.finite (signOf negative) b.m b.q canonical.pos)) = x
  have unpacked : (valueOf x).unpacked = .finite (signOf negative) b.m b.q canonical.pos := by
    rw [← unpack_toModel, ← double]
    exact unpack_pack canonical bounded
  cases value : valueOf x with
  | nan => simp [value, Value.unpacked] at unpacked
  | infinite => simp [value, Value.unpacked] at unpacked
  | finite c =>
    rw [value, Value.unpacked] at unpacked
    split_ifs at unpacked with zero
    rw [UnpackedFloat.finite.injEq] at unpacked
    obtain ⟨sign, significand, exponent⟩ := unpacked
    have sign : c.negative = negative := by
      revert sign
      cases c.negative <;> cases negative <;> simp [signOf]
    have narrow : c.narrowBelow = b.narrowBelow := by
      rw [Bool.eq_iff_iff, (canonical_of_valueOf_eq_finite value zero).1.narrow, canonical.narrow,
        significand, exponent]
    obtain ⟨_, _, _, _⟩ := c
    subst sign significand exponent narrow
    rfl

theorem integer?_of_isInf (infinite : x.isInf) : integer? x = none := by
  change x.toModel.unpack.isInf = true at infinite
  rw [unpack_toModel] at infinite
  unfold integer?
  cases value : valueOf x with
  | nan => rfl
  | infinite => rfl
  | finite b =>
    rw [value, Value.unpacked] at infinite
    split_ifs at infinite <;> exact absurd infinite Bool.false_ne_true

/-- What is read off the double that a natural number becomes, with either sign. -/
theorem integer?_ofScientific_nat (negative : Bool) (n : Nat) :
    integer? (ofScientific negative n 0) =
      if n < overflowBound then
        some (if negative then -(nearestDouble n : Int) else nearestDouble n)
      else none := by
  by_cases bounded : n < overflowBound
  · rw [if_pos bounded]
    rcases n.eq_zero_or_pos with rfl | pos
    · rw [nearestDouble_of_lt (by decide)]
      cases negative <;> decide +kernel
    · obtain ⟨b, canonical, covers, value⟩ := exists_covers pos
      have small : b.q ≤ 971 := by
        have := exponent_of_covers canonical pos covers
        omega
      obtain ⟨x, finite⟩ := exists_valueOf canonical small negative
      have read : ofScientific negative n 0 = x :=
        ofScientific_eq finite canonical.pos.ne' pos (by rwa [zpow_zero, mul_one])
      rw [read, integer?_eq_some_iff]
      refine ⟨_, finite, ?_⟩
      rw [Binary.value, value]
      split_ifs <;> simp
  · rw [if_neg bounded]
    exact integer?_of_isInf ((isInf_ofScientific_iff negative n).mpr (not_lt.mp bounded))

/-- The integer that another one becomes as a double, if it does not become an infinity. -/
theorem integer?_ofScientific (i : Int) :
    integer? (ofScientific (i < 0) i.natAbs 0) =
      if i.natAbs < overflowBound then some (nearestInteger i) else none := by
  rw [integer?_ofScientific_nat, nearestInteger]
  simp only [decide_eq_true_eq]

/-- Exactly the integers that are doubles are kept. -/
theorem integer?_ofScientific_eq_self_iff :
    integer? (ofScientific (i < 0) i.natAbs 0) = some i ↔ ∃ x, IsInteger x i := by
  refine ⟨fun kept => ⟨_, integer?_eq_some_iff.mp kept⟩, ?_⟩
  rintro ⟨x, b, finite, value⟩
  by_cases zero : i = 0
  · subst zero
    decide +kernel
  · have magnitude : (b.m : ℚ) * 2 ^ b.q = i.natAbs := by
      rw [Nat.cast_natAbs, Int.cast_abs, ← value, Binary.abs_value]
    have pos : (0 : ℚ) < i.natAbs := by exact_mod_cast Int.natAbs_pos.mpr zero
    have nonzero : b.m ≠ 0 := by
      intro none
      rw [none, Nat.cast_zero, zero_mul] at magnitude
      exact pos.ne magnitude
    have sign : b.negative = decide (i < 0) := by
      rw [Binary.value, magnitude] at value
      cases negative : b.negative with
      | true =>
        rw [negative, if_pos rfl] at value
        have : (i : ℚ) < 0 := by linarith
        exact (decide_eq_true (by exact_mod_cast this)).symm
      | false =>
        rw [negative, if_neg Bool.false_ne_true] at value
        have : (0 : ℚ) < i := by linarith
        have : 0 < i := by exact_mod_cast this
        exact (decide_eq_false (by omega)).symm
    have covers : b.Covers (i.natAbs * 10 ^ (0 : Int)) := by
      rw [zpow_zero, mul_one, ← magnitude]
      exact (canonical_of_valueOf_eq_finite finite nonzero).1.covers_self
    have read := ofScientific_eq finite nonzero (Int.natAbs_pos.mpr zero) covers
    rw [← sign, read]
    exact integer?_eq_some_iff.mpr ⟨b, finite, value⟩

end BattleMaps.Decimal
