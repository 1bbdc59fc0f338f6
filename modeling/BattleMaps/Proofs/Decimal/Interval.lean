import BattleMaps.Decimal.Shortest
import BattleMaps.Proofs.Decimal.Rounding

/-!
# The reals that round to a double

Around each finite double lies the interval of the numbers that round to it: from halfway to the
neighbour below to halfway to the neighbour above, the ends included for even significands. The
search for short decimals tests candidates against this interval, and the rounding step maps it
to the double.

## Main definitions

* `Dec.value` — the number that a decimal stands for
* `Binary.Covers` — membership in the interval of a double

## Main results

* `readsBack_iff` — the test of the search is membership in the interval
* `roundWithAccuracy_of_covers` — the rounding step ends at the double whose interval holds the
  quotient
-/

namespace BattleMaps.Decimal

open Float.Model Float.Model.UnpackedFloat

/-- The number that a decimal stands for. -/
def Dec.value (d : Dec) : ℚ := d.digits * 10 ^ d.exp

/-- The lower end of the interval, in quarters of the last place. -/
def Binary.low (b : Binary) : Nat := if b.narrowBelow then 4 * b.m - 1 else 4 * b.m - 2

/-- The upper end of the interval, in quarters of the last place. -/
def Binary.high (b : Binary) : Nat := 4 * b.m + 2

/-- Whether a number rounds to the magnitude of a double. -/
def Binary.Covers (b : Binary) (v : ℚ) : Prop :=
  (b.low * 2 ^ (b.q - 2) < v ∨ b.m % 2 = 0 ∧ b.low * 2 ^ (b.q - 2) = v) ∧
    (v < b.high * 2 ^ (b.q - 2) ∨ b.m % 2 = 0 ∧ v = b.high * 2 ^ (b.q - 2))

variable {b : Binary} {d : Dec} {num den k n : Nat} {e i j : Int} {sign : Sign}

/-! ## Exact comparisons -/

theorem cast_scaled (n base : Nat) (e : Int) :
    ((scaled n base e : Nat) : ℚ) = n * (base : ℚ) ^ (e.toNat : Int) := by
  rw [zpow_natCast]
  exact_mod_cast rfl

/-- Multiplying with the missing negative power leaves the positive one. -/
theorem zpow_mul_zpow_toNat_neg {x : ℚ} (nonzero : x ≠ 0) (e : Int) :
    x ^ e * x ^ ((-e).toNat : Int) = x ^ (e.toNat : Int) := by
  rw [← zpow_add₀ nonzero]
  congr 1
  omega

/-- Two numbers compare as the natural numbers that they become at a common scale. -/
theorem compare_eq_of_mul {x y c : ℚ} {m n : Nat} (pos : 0 < c) (left : x * c = m)
    (right : y * c = n) : compare x y = compare m n := by
  rcases lt_trichotomy m n with order | rfl | order
  · rw [compare_lt_iff_lt.mpr order, compare_lt_iff_lt, ← mul_lt_mul_iff_of_pos_right pos, left,
      right]
    exact_mod_cast order
  · rw [compare_eq_iff_eq.mpr rfl, compare_eq_iff_eq]
    exact mul_right_cancel₀ pos.ne' (left.trans right.symm)
  · rw [compare_gt_iff_gt.mpr order, compare_gt_iff_gt, ← mul_lt_mul_iff_of_pos_right pos, left,
      right]
    exact_mod_cast order

theorem order_iff_of_compare_eq {x y : ℚ} {m n : Nat} (h : compare x y = compare m n) :
    (x < y ↔ m < n) ∧ (x = y ↔ m = n) ∧ (y < x ↔ n < m) := by
  refine ⟨?_, ?_, ?_⟩
  · rw [← compare_lt_iff_lt (a := x), h, compare_lt_iff_lt]
  · rw [← compare_eq_iff_eq (a := x), h, compare_eq_iff_eq]
  · rw [← compare_gt_iff_gt (a := x), h, compare_gt_iff_gt]

/-- The comparison of scaled numbers is exact. -/
theorem compareScaled_eq (a : Nat) (i : Int) (n : Nat) (j : Int) :
    compareScaled a i n j = compare ((a : ℚ) * 10 ^ i) ((n : ℚ) * 2 ^ j) := by
  -- Both sides are multiplied with the negative powers that the comparison leaves out.
  have common : (0 : ℚ) < 10 ^ ((-i).toNat : Int) * 2 ^ ((-j).toNat : Int) := by positivity
  symm
  refine compare_eq_of_mul common ?_ ?_
  · rw [cast_scaled, cast_scaled, Nat.cast_ofNat, Nat.cast_ofNat,
      ← zpow_mul_zpow_toNat_neg (x := 10) (by norm_num) i]
    ring
  · rw [cast_scaled, cast_scaled, Nat.cast_ofNat, Nat.cast_ofNat,
      ← zpow_mul_zpow_toNat_neg (x := 2) (by norm_num) j]
    ring

/-- The test of the search is membership in the interval. -/
theorem readsBack_iff : b.readsBack d = true ↔ b.Covers d.value := by
  unfold Binary.readsBack Binary.Covers Binary.low Binary.high Dec.value
  simp only [compareScaled_eq, Bool.and_eq_true, Bool.or_eq_true, beq_iff_eq, compare_gt_iff_gt,
    compare_lt_iff_lt, compare_eq_iff_eq]
  rw [eq_comm (a := (d.digits : ℚ) * 10 ^ d.exp)]

/-! ## From the interval to natural numbers -/

/-- A quotient is compared with a bound of the interval by cross multiplication. -/
theorem compare_quotient (num n : Nat) (pos : 0 < den) (split : e + k = b.q) :
    compare ((n : ℚ) * 2 ^ (b.q - 2)) ((num : ℚ) / den * 2 ^ e) =
      compare (n * (den * 2 ^ k)) (4 * num) := by
  have posQ : (0 : ℚ) < den := by exact_mod_cast pos
  have common : (0 : ℚ) < den * 2 ^ (2 - e) := by positivity
  refine compare_eq_of_mul common ?_ ?_
  · have exponents : (2 : ℚ) ^ (b.q - 2) * 2 ^ (2 - e) = 2 ^ k := by
      rw [← zpow_add₀ two_ne_zero, ← zpow_natCast]
      congr 1
      omega
    push_cast
    rw [← exponents]
    ring
  · have exponents : (2 : ℚ) ^ e * 2 ^ (2 - e) = 4 := by
      rw [← zpow_add₀ two_ne_zero, add_sub_cancel]
      norm_num
    push_cast
    rw [← exponents]
    field_simp

/-- Membership of a quotient in the interval, by cross multiplication. -/
theorem covers_quotient (pos : 0 < den) (split : e + k = b.q)
    (covers : b.Covers ((num : ℚ) / den * 2 ^ e)) :
    (b.low * (den * 2 ^ k) < 4 * num ∨ b.m % 2 = 0 ∧ b.low * (den * 2 ^ k) = 4 * num) ∧
      (4 * num < b.high * (den * 2 ^ k) ∨ b.m % 2 = 0 ∧ 4 * num = b.high * (den * 2 ^ k)) := by
  obtain ⟨lowLt, lowEq, -⟩ :=
    order_iff_of_compare_eq (compare_quotient num b.low pos split)
  obtain ⟨-, highEq, highGt⟩ :=
    order_iff_of_compare_eq (compare_quotient num b.high pos split)
  rw [Binary.Covers, lowLt, lowEq, highGt, eq_comm (b := (b.high : ℚ) * _), highEq] at covers
  rwa [eq_comm (a := 4 * num)]

/-- What a double covers lies below the next power of two. -/
theorem lt_of_covers {v : ℚ} (canonical : b.Canonical) (covers : b.Covers v) :
    v < 2 ^ (b.q + 53) := by
  have unit : (0 : ℚ) < 2 ^ (b.q - 2) := by positivity
  have upper : v ≤ b.high * 2 ^ (b.q - 2) := by
    rcases covers.2 with below | ⟨-, atEnd⟩
    · exact below.le
    · exact atEnd.le
  have high : (b.high : ℚ) < 2 ^ 55 := by
    have := canonical.lt
    unfold Binary.high
    norm_cast
    omega
  calc v ≤ b.high * 2 ^ (b.q - 2) := upper
    _ < 2 ^ 55 * 2 ^ (b.q - 2) := mul_lt_mul_of_pos_right high unit
    _ = 2 ^ (b.q + 53) := by
      rw [← zpow_natCast, ← zpow_add₀ two_ne_zero]
      congr 1
      push_cast
      ring

/-- The exponent of the double is not below that of a quotient with enough bits. -/
theorem le_of_covers (canonical : b.Canonical) (pos : 0 < den)
    (covers : b.Covers ((num : ℚ) / den * 2 ^ e)) (fine : e ≤ -1074 ∨ 2 ^ 52 ≤ num / den) :
    e ≤ b.q := by
  -- Were the exponent above that of `b`, the quotient with its bits would lie beyond the interval.
  rcases fine with fine | fine
  · exact fine.trans canonical.least
  · have posQ : (0 : ℚ) < den := by exact_mod_cast pos
    have filled : (2 : ℚ) ^ 52 ≤ num / den := by
      rw [le_div_iff₀ posQ]
      exact_mod_cast (Nat.le_div_iff_mul_le pos).mp fine
    have bits : (2 : ℚ) ^ (e + 52) < 2 ^ (b.q + 53) :=
      calc (2 : ℚ) ^ (e + 52) = 2 ^ 52 * 2 ^ e := by
            rw [zpow_add₀ two_ne_zero, mul_comm]
            norm_num
        _ ≤ num / den * 2 ^ e := by gcongr
        _ < 2 ^ (b.q + 53) := lt_of_covers canonical covers
    have := (zpow_lt_zpow_iff_right₀ (one_lt_two (α := ℚ))).mp bits
    omega

/-- What a double covers is nearest to its significand. -/
theorem isNearest_of_bounds (canonical : b.Canonical) (pos : 0 < den)
    (low : b.low * den < 4 * num ∨ b.m % 2 = 0 ∧ b.low * den = 4 * num)
    (high : 4 * num < b.high * den ∨ b.m % 2 = 0 ∧ 4 * num = b.high * den) :
    IsNearest num den b.m := by
  -- In quarters of a unit, the lower half of the interval is one or two wide.
  have lowEnd : b.low + 1 = 4 * b.m ∨ b.low + 2 = 4 * b.m := by
    have := canonical.pos
    unfold Binary.low
    split_ifs <;> omega
  unfold Binary.high at high
  have scaledLow : b.low * den + den = 4 * (b.m * den) ∨
      b.low * den + 2 * den = 4 * (b.m * den) := by
    rcases lowEnd with lowEnd | lowEnd
    · exact .inl (by rw [← Nat.mul_assoc, ← lowEnd, Nat.add_mul, Nat.one_mul])
    · exact .inr (by rw [← Nat.mul_assoc, ← lowEnd, Nat.add_mul])
  rw [Nat.add_mul, Nat.mul_assoc] at high
  unfold IsNearest
  rw [Nat.mul_assoc]
  omega

/-- A quotient below the power of two that a double starts at is rounded up to it from the finer
places below. -/
theorem isNearest_of_bounds_of_carry (canonical : b.Canonical) (least : -1074 < b.q)
    (low : b.low * (den * 2) < 4 * num ∨ b.m % 2 = 0 ∧ b.low * (den * 2) = 4 * num)
    (below : num < 2 ^ 52 * (den * 2)) :
    b.m = 2 ^ 52 ∧ IsNearest num den (2 ^ 53) ∧ 2 ^ 52 * den ≤ num := by
  -- Only at a power of two does the interval reach below the significands of its exponent.
  have start : b.m = 2 ^ 52 := by
    have := canonical.normal
    by_contra other
    have lowEnd : 2 ^ 54 ≤ b.low := by
      unfold Binary.low
      split_ifs <;> omega
    have := Nat.mul_le_mul_right (den * 2) lowEnd
    omega
  have lowEnd : b.low = 2 ^ 54 - 1 := by
    unfold Binary.low
    rw [if_pos (canonical.narrow.mpr ⟨start, least⟩), start]
    norm_num
  have low : (2 ^ 54 - 1) * (den * 2) ≤ 4 * num := by
    rw [← lowEnd]
    rcases low with low | ⟨-, low⟩
    · exact low.le
    · exact low.le
  have reaches : 2 * 2 ^ 53 * den ≤ 2 * num + den := by omega
  have stays : 2 * num < 2 * 2 ^ 53 * den + den := by
    clear low reaches
    omega
  -- a tie goes to `2 ^ 53`, which is even
  exact ⟨start, ⟨reaches.lt_or_eq.imp_right fun tie => ⟨by norm_num, tie⟩, .inl stays⟩, by omega⟩

/-- The rounding step ends at the double whose interval holds the quotient, provided the quotient
has as many bits as the double. -/
theorem roundWithAccuracy_of_covers (canonical : b.Canonical) (pos : 0 < den)
    (covers : b.Covers ((num : ℚ) / den * 2 ^ e)) (fine : e ≤ -1074 ∨ 2 ^ 52 ≤ num / den) :
    roundWithAccuracy .binary64 sign (num / den) e (accuracyOfFraction (num % den) den) =
      .finite sign b.m b.q canonical.pos := by
  obtain ⟨k, split⟩ : ∃ k : Nat, e + k = b.q :=
    ⟨(b.q - e).toNat, by have := le_of_covers canonical pos covers fine; omega⟩
  have posK : 0 < den * 2 ^ k := Nat.mul_pos pos (Nat.two_pow_pos k)
  obtain ⟨low, high⟩ := covers_quotient pos split covers
  -- Below the power of two that `b` starts at, the places are finer: there rounding has to carry
  -- to end at `b`. Everywhere else the places are those of `b`.
  by_cases carry : num < 2 ^ 52 * (den * 2 ^ k) ∧ -1074 < b.q
  · obtain ⟨below, least⟩ := carry
    cases k with
    | zero =>
      rw [Nat.pow_zero, Nat.mul_one] at below
      -- no bits are dropped, so the quotient has all of its bits and is not below the power
      have filled := fine.resolve_left (by omega)
      have := (Nat.le_div_iff_mul_le pos).mp filled
      omega
    | succ k =>
      have double : den * 2 ^ (k + 1) = den * 2 ^ k * 2 := by rw [Nat.pow_succ, Nat.mul_assoc]
      rw [double] at low below
      obtain ⟨start, nearest, normal⟩ := isNearest_of_bounds_of_carry canonical least low below
      have posK : 0 < den * 2 ^ k := Nat.mul_pos pos (Nat.two_pow_pos k)
      have small : num / (den * 2 ^ k) < 2 ^ 53 := by
        rw [Nat.div_lt_iff_lt_mul posK]
        omega
      rw [roundWithAccuracy_eq_of_carry (q := b.q - 1) pos (by omega) (by omega) nearest
        ((Nat.le_div_iff_mul_le posK).mpr normal) small]
      rw [UnpackedFloat.finite.injEq]
      exact ⟨rfl, start.symm, sub_add_cancel b.q 1⟩
  · refine roundWithAccuracy_eq canonical pos split (isNearest_of_bounds canonical posK low high) ?_
    have := canonical.least
    rw [Nat.le_div_iff_mul_le posK]
    omega

end BattleMaps.Decimal
