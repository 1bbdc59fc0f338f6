import BattleMaps.Decimal.Fixed
import Mathlib

/-!
# Rounding a quotient to a double

Arithmetic on doubles ends in one rounding step: a natural number with two extra bits, which say
where the exact value lies above it, is shifted to the exponent that the format asks for and
rounded to even. If the bits are those of a quotient, shifting multiplies the denominator by a
power of two, and rounding is `roundDiv`.

## Main definitions

* `quotient` — a quotient as a natural number with its extra bits
* `IsNearest` — the natural number that a quotient is rounded to
* `Binary.Canonical` — the finite doubles other than zero

## Main results

* `shift_quotient` — shifting multiplies the denominator
* `roundedMantissa_quotient` — rounding is `roundDiv`
* `roundWithAccuracy_eq`, `roundWithAccuracy_eq_of_carry` — where the rounding step ends, without
  and with a carry into the next power of two
-/

namespace BattleMaps.Decimal

open Float.Model Float.Model.UnpackedFloat

variable {num den k m : Nat} {e q : Int} {sign : Sign}

/-- The quotient of two natural numbers, rounded down, with the bits that say where the exact
quotient lies above it. -/
def quotient (num den : Nat) : ExtendedMantissa :=
  .ofMantissaAndAccuracy (num / den) (accuracyOfFraction (num % den) den)

/-- Whether no natural number is nearer to `num / den` than `m`, and whether `m` is even if another
is as near. -/
def IsNearest (num den m : Nat) : Prop :=
  (2 * m * den < 2 * num + den ∨ m % 2 = 0 ∧ 2 * m * den = 2 * num + den) ∧
    (2 * num < 2 * m * den + den ∨ m % 2 = 0 ∧ 2 * num = 2 * m * den + den)

/-- Whether a value is a finite double other than zero, in the form that its bits give it: the
exponent is the least one that leaves room for the significand. -/
structure Binary.Canonical (b : Binary) : Prop where
  pos : 0 < b.m
  lt : b.m < 2 ^ 53
  least : -1074 ≤ b.q
  normal : 2 ^ 52 ≤ b.m ∨ b.q = -1074
  narrow : b.narrowBelow = true ↔ b.m = 2 ^ 52 ∧ -1074 < b.q

/-! ## The nearest natural number -/

theorem roundDiv_eq (pos : 0 < den) (nearest : IsNearest num den m) : roundDiv num den = m := by
  obtain ⟨low, high⟩ := nearest
  have split := Nat.div_add_mod num den
  have small := Nat.mod_lt num pos
  unfold roundDiv
  generalize num / den = n at *
  generalize num % den = r at *
  -- `m` is one of the two natural numbers around the quotient; which one, the remainder decides.
  have above : m < n + 2 := by
    by_contra far
    have := Nat.mul_le_mul_left den (Nat.le_of_not_lt far)
    grind
  have below : n < m + 1 := by
    by_contra far
    have := Nat.mul_le_mul_left den (Nat.le_of_not_lt far)
    grind
  obtain rfl | rfl : m = n ∨ m = n + 1 := by omega
  all_goals
    -- Between the two lies the middle, and in the middle the even one is taken.
    rcases order : compare (2 * r) den <;>
    simp only [Nat.compare_eq_lt, Nat.compare_eq_gt, Nat.compare_eq_eq] at order ⊢ <;>
    grind

theorem roundedMantissa_quotient (pos : 0 < den) :
    (quotient num den).roundedMantissa = roundDiv num den := by
  unfold quotient accuracyOfFraction roundDiv
  split_ifs with exact
  · have below : compare (2 * (num % den)) den = .lt := Nat.compare_eq_lt.mpr (by omega)
    rw [below]
    rfl
  · rcases compare (2 * (num % den)) den with _ | _ | _
    · rfl
    -- a tie: half a unit is added to an odd number only
    · change num / den + num / den % 2 = _
      grind
    · rfl

/-! ## Shifting -/

theorem quotient_eq (pos : 0 < den) :
    quotient num den =
      ⟨num / den, decide (den ≤ 2 * (num % den)),
        decide (num % den ≠ 0 ∧ 2 * (num % den) ≠ den)⟩ := by
  unfold quotient accuracyOfFraction
  generalize num % den = r
  split_ifs with exact
  · simp [ExtendedMantissa.ofMantissaAndAccuracy, exact]
    omega
  · rcases order : compare (2 * r) den <;>
      simp only [Nat.compare_eq_lt, Nat.compare_eq_gt, Nat.compare_eq_eq] at order <;>
      simp [ExtendedMantissa.ofMantissaAndAccuracy, exact] <;>
      omega

/-- Dropping one bit doubles the denominator. -/
theorem shiftRightOne_quotient (pos : 0 < den) :
    (quotient num den).shiftRightOne = quotient num (den * 2) := by
  -- The bit that is dropped is the last one of the quotient, and it joins the remainder.
  have rest : num % (den * 2) = num % den + den * (num / den % 2) := Nat.mod_mul
  have small := Nat.mod_lt num pos
  rw [quotient_eq pos, quotient_eq (by omega), ExtendedMantissa.shiftRightOne,
    ← Nat.div_div_eq_div_mul, rest]
  generalize num % den = r at *
  rcases Nat.mod_two_eq_zero_or_one (num / den) with parity | parity
  all_goals
    rw [parity]
    simp only [bne, BEq.rfl, Nat.mul_zero, Nat.mul_one, Nat.add_zero, Nat.reduceBEq, Bool.not_true,
      Bool.not_false, ExtendedMantissa.mk.injEq, true_and]
    refine ⟨?_, ?_⟩ <;> rw [Bool.eq_iff_iff] <;> simp <;> omega

/-- Dropping `k` bits multiplies the denominator by `2 ^ k`. -/
theorem shift_quotient (pos : 0 < den) : quotient num den >>> k = quotient num (den * 2 ^ k) := by
  induction k with
  | zero => rw [Nat.pow_zero, Nat.mul_one]; rfl
  | succ k ih =>
    -- Shifting by `k + 1` is defined as one more shift after `k`.
    change (quotient num den >>> k).shiftRightOne = _
    rw [ih, shiftRightOne_quotient (Nat.mul_pos pos (Nat.two_pow_pos k)), Nat.pow_succ,
      Nat.mul_assoc]

theorem targetExponent_eq (t : Int) : Format.binary64.targetExponent t = max (t - 53) (-1074) := rfl

/-- A significand that is canonical at its exponent stays there. -/
theorem shiftToTargetExponent_self (high : m < 2 ^ 53) (least : -1074 ≤ q)
    (normal : 2 ^ 52 ≤ m ∨ q = -1074) :
    shiftToTargetExponent .binary64 m q .exact = (⟨m, false, false⟩, q) := by
  -- The format asks for `m.log2 - 52` bits less or for the least exponent, whichever is higher.
  have stays : (Format.binary64.targetExponent (totalExponent m q) - q).toNat = 0 := by
    rw [targetExponent_eq, totalExponent]
    have bound : m.log2 < 53 := by
      by_cases zero : m = 0
      · subst zero
        decide
      · exact (Nat.log2_lt zero).mpr high
    omega
  simp only [shiftToTargetExponent, shiftToExponent, stays, Nat.cast_zero, add_zero]
  rfl

/-- A significand with one bit too many moves up by one. -/
theorem shiftToTargetExponent_carry (least : -1074 ≤ q) :
    shiftToTargetExponent .binary64 (2 ^ 53) q .exact = (⟨2 ^ 52, false, false⟩, q + 1) := by
  have moves : (Format.binary64.targetExponent (totalExponent (2 ^ 53) q) - q).toNat = 1 := by
    rw [targetExponent_eq, totalExponent, Nat.log2_two_pow]
    omega
  simp only [shiftToTargetExponent, shiftToExponent, moves, Nat.cast_one]
  rfl

/-! ## The rounding step -/

/-- The bits that are kept decide which exponent the format asks for. -/
theorem targetExponent_quotient (n : Nat) (split : e + k = q)
    (high : n / 2 ^ k < 2 ^ 53) (least : -1074 ≤ q) (normal : 2 ^ 52 ≤ n / 2 ^ k ∨ q = -1074) :
    Format.binary64.targetExponent (totalExponent n e) = q := by
  rw [targetExponent_eq, totalExponent]
  -- Both bounds speak of the bits of `n` before shifting, so `k` is added on each side.
  have above : n.log2 < 53 + k := by
    by_cases zero : n = 0
    · subst zero
      simp
    · rw [Nat.log2_lt zero, Nat.pow_add]
      exact (Nat.div_lt_iff_lt_mul (Nat.two_pow_pos k)).mp high
  rcases normal with normal | normal
  · have filled : 2 ^ (52 + k) ≤ n := by
      rw [Nat.pow_add]
      exact (Nat.le_div_iff_mul_le (Nat.two_pow_pos k)).mp normal
    have below : 52 + k ≤ n.log2 := by
      refine (Nat.le_log2 ?_).mpr filled
      have := Nat.two_pow_pos (52 + k)
      omega
    omega
  · omega

/-- The rounding step on a quotient: first it drops the bits below the exponent that the format
asks for, then it rounds what is left, and last it makes room if rounding carried. -/
theorem roundWithAccuracy_quotient (pos : 0 < den) (split : e + k = q)
    (target : Format.binary64.targetExponent (totalExponent (num / den) e) = q) :
    roundWithAccuracy .binary64 sign (num / den) e (accuracyOfFraction (num % den) den) =
      let last := shiftToTargetExponent .binary64 (roundDiv num (den * 2 ^ k)) q .exact
      if h : last.1.mantissa = 0 then .zero sign
      else .finite sign last.1.mantissa last.2 (Nat.pos_of_ne_zero h) := by
  have drops : (q - e).toNat = k := by omega
  have first : shiftToTargetExponent .binary64 (num / den) e (accuracyOfFraction (num % den) den) =
      (quotient num (den * 2 ^ k), q) := by
    rw [← shift_quotient pos]
    simp only [shiftToTargetExponent, shiftToExponent, target, drops, split, quotient]
  rw [roundWithAccuracy, first]
  simp only [roundedMantissa_quotient (Nat.mul_pos pos (Nat.two_pow_pos k))]

theorem div_le_of_isNearest (pos : 0 < den) (nearest : IsNearest num den m) : num / den ≤ m := by
  by_contra far
  have split := Nat.div_add_mod num den
  have := Nat.mul_le_mul_left den (Nat.lt_of_not_le far)
  have := nearest.2
  grind

/-- Where the rounding step ends if rounding does not carry. -/
theorem roundWithAccuracy_eq {b : Binary} (canonical : b.Canonical) (pos : 0 < den)
    (split : e + k = b.q) (nearest : IsNearest num (den * 2 ^ k) b.m)
    (normal : 2 ^ 52 ≤ num / (den * 2 ^ k) ∨ b.q = -1074) :
    roundWithAccuracy .binary64 sign (num / den) e (accuracyOfFraction (num % den) den) =
      .finite sign b.m b.q canonical.pos := by
  have posK : 0 < den * 2 ^ k := Nat.mul_pos pos (Nat.two_pow_pos k)
  have high : num / (den * 2 ^ k) < 2 ^ 53 :=
    (div_le_of_isNearest posK nearest).trans_lt canonical.lt
  rw [← Nat.div_div_eq_div_mul] at high normal
  have target := targetExponent_quotient (num / den) split high canonical.least normal
  rw [roundWithAccuracy_quotient pos split target, roundDiv_eq posK nearest,
    shiftToTargetExponent_self canonical.lt canonical.least canonical.normal]
  exact dif_neg canonical.pos.ne'

/-- Where the rounding step ends if it carries into the next power of two. -/
theorem roundWithAccuracy_eq_of_carry (pos : 0 < den) (split : e + k = q) (least : -1074 ≤ q)
    (nearest : IsNearest num (den * 2 ^ k) (2 ^ 53))
    (normal : 2 ^ 52 ≤ num / (den * 2 ^ k)) (below : num / (den * 2 ^ k) < 2 ^ 53) :
    roundWithAccuracy .binary64 sign (num / den) e (accuracyOfFraction (num % den) den) =
      .finite sign (2 ^ 52) (q + 1) (Nat.two_pow_pos 52) := by
  have posK : 0 < den * 2 ^ k := Nat.mul_pos pos (Nat.two_pow_pos k)
  rw [← Nat.div_div_eq_div_mul] at normal below
  have target := targetExponent_quotient (num / den) split below least (.inl normal)
  rw [roundWithAccuracy_quotient pos split target, roundDiv_eq posK nearest,
    shiftToTargetExponent_carry least]
  exact dif_neg (Nat.two_pow_pos 52).ne'

end BattleMaps.Decimal
