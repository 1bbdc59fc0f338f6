import BattleMaps.Decimal.Reading
import BattleMaps.Proofs.Decimal.Interval
import BattleMaps.Proofs.Decimal.Packing

/-!
# Decimals are rounded correctly

A decimal becomes a double through a product or a quotient of numbers that are exact, so there is
one rounding, and it ends at the double whose interval holds the decimal. Small decimals take a
short way over two doubles that are exact; it ends at the same place.

## Main results

* `mul_of_covers`, `div_of_covers` — products and quotients are rounded once
* `ofScientific_eq` — a decimal in the interval of a double is read as that double
-/

namespace BattleMaps.Decimal

open Float.Model Float.Model.UnpackedFloat

variable {x : Float} {b : Binary} {sign : Sign} {m n : Nat} {e : Int}

/-! ## Products and quotients -/

/-- A product of positive numbers is rounded once, if it has as many bits as a double. -/
theorem mul_of_covers {m₁ m₂ : Nat} {e₁ e₂ : Int} {pos₁ : 0 < m₁} {pos₂ : 0 < m₂}
    (canonical : b.Canonical) (covers : b.Covers ((m₁ : ℚ) * 2 ^ e₁ * (m₂ * 2 ^ e₂)))
    (fine : 2 ^ 52 ≤ m₁ * m₂) :
    UnpackedFloat.mul .binary64 (.finite .positive m₁ e₁ pos₁) (.finite .positive m₂ e₂ pos₂) =
      .finite .positive b.m b.q canonical.pos := by
  have product : ((m₁ * m₂ : Nat) : ℚ) / (1 : Nat) * 2 ^ (e₁ + e₂) =
      (m₁ : ℚ) * 2 ^ e₁ * (m₂ * 2 ^ e₂) := by
    rw [zpow_add₀ two_ne_zero]
    push_cast
    ring
  have rounded := @roundWithAccuracy_of_covers b (m₁ * m₂) 1 _ .positive
    canonical Nat.one_pos (product ▸ covers) (.inr (by rwa [Nat.div_one]))
  rwa [Nat.div_one, Nat.mod_one] at rounded

/-- The shift before a division leaves as many bits as a double has, or reaches the least
exponent. -/
theorem fine_of_div {m₁ m₂ k : Nat} {e₁ e₂ t : Int} (pos₁ : 0 < m₁) (pos₂ : 0 < m₂)
    (split : t + k = e₁ - e₂)
    (target : t ≤ Format.binary64.targetExponent (totalExponent m₁ e₁ - totalExponent m₂ e₂)) :
    t ≤ -1074 ∨ 2 ^ 52 ≤ m₁ * 2 ^ k / m₂ := by
  rw [targetExponent_eq, totalExponent, totalExponent] at target
  by_cases least : t ≤ -1074
  · exact .inl least
  · have bits : 53 + m₂.log2 ≤ m₁.log2 + k := by omega
    refine .inr ((Nat.le_div_iff_mul_le pos₂).mpr ?_)
    calc 2 ^ 52 * m₂ ≤ 2 ^ 52 * 2 ^ (m₂.log2 + 1) := Nat.mul_le_mul_left _ Nat.lt_log2_self.le
      _ = 2 ^ (53 + m₂.log2) := by rw [← Nat.pow_add]; congr 1; omega
      _ ≤ 2 ^ (m₁.log2 + k) := Nat.pow_le_pow_right Nat.two_pos bits
      _ = 2 ^ m₁.log2 * 2 ^ k := Nat.pow_add ..
      _ ≤ m₁ * 2 ^ k := Nat.mul_le_mul_right _ (Nat.log2_self_le pos₁.ne')

/-- A quotient of positive numbers is rounded once. -/
theorem div_of_covers {m₁ m₂ : Nat} {e₁ e₂ : Int} {pos₁ : 0 < m₁} {pos₂ : 0 < m₂}
    (canonical : b.Canonical) (covers : b.Covers ((m₁ : ℚ) * 2 ^ e₁ / (m₂ * 2 ^ e₂))) :
    UnpackedFloat.div .binary64 (.finite .positive m₁ e₁ pos₁) (.finite .positive m₂ e₂ pos₂) =
      .finite .positive b.m b.q canonical.pos := by
  simp only [UnpackedFloat.div, divCore, Nat.shiftLeft_eq]
  have below := min_le_left (e₁ - e₂)
    (Format.binary64.targetExponent (totalExponent m₁ e₁ - totalExponent m₂ e₂))
  have target := min_le_right (e₁ - e₂)
    (Format.binary64.targetExponent (totalExponent m₁ e₁ - totalExponent m₂ e₂))
  -- The division shifts the first significand so far that its exponent becomes `t`.
  generalize min (e₁ - e₂)
    (Format.binary64.targetExponent (totalExponent m₁ e₁ - totalExponent m₂ e₂)) = t at *
  obtain ⟨k, split⟩ : ∃ k : Nat, t + k = e₁ - e₂ := ⟨(e₁ - e₂ - t).toNat, by omega⟩
  have shift : (e₁ - e₂ - t).toNat = k := by omega
  have same : ((m₁ * 2 ^ k : Nat) : ℚ) / m₂ * 2 ^ t = (m₁ : ℚ) * 2 ^ e₁ / (m₂ * 2 ^ e₂) := by
    have exponents : (2 : ℚ) ^ t * 2 ^ k = 2 ^ e₁ / 2 ^ e₂ := by
      rw [← zpow_natCast, ← zpow_add₀ two_ne_zero, split, zpow_sub₀ two_ne_zero]
    have nonzero : (m₂ : ℚ) ≠ 0 := by exact_mod_cast pos₂.ne'
    push_cast
    calc (m₁ : ℚ) * 2 ^ k / m₂ * 2 ^ t = m₁ / m₂ * (2 ^ t * 2 ^ k) := by ring
      _ = m₁ * 2 ^ e₁ / (m₂ * 2 ^ e₂) := by rw [exponents]; field_simp
  rw [shift]
  exact roundWithAccuracy_of_covers canonical pos₂ (same ▸ covers)
    (fine_of_div pos₁ pos₂ split target)

/-! ## The two ways -/

/-- The value of a double lies in its own interval. -/
theorem Binary.Canonical.covers_self (canonical : b.Canonical) : b.Covers (b.m * 2 ^ b.q) := by
  have unit : (0 : ℚ) < 2 ^ (b.q - 2) := by positivity
  have quarters : (b.m : ℚ) * 2 ^ b.q = (4 * b.m : Nat) * 2 ^ (b.q - 2) := by
    rw [zpow_sub₀ two_ne_zero]
    push_cast
    ring
  have low : b.low < 4 * b.m := by
    have := canonical.pos
    unfold Binary.low
    split_ifs <;> omega
  have high : 4 * b.m < b.high := Nat.lt_add_of_pos_right Nat.two_pos
  rw [quarters]
  refine ⟨.inl ?_, .inl ?_⟩
  · exact mul_lt_mul_of_pos_right (by exact_mod_cast low) unit
  · exact mul_lt_mul_of_pos_right (by exact_mod_cast high) unit

/-- A canonical value needs no rounding. -/
theorem roundWithAccuracy_self (canonical : b.Canonical) :
    roundWithAccuracy .binary64 sign b.m b.q .exact = .finite sign b.m b.q canonical.pos := by
  have rounded := @roundWithAccuracy_of_covers b b.m 1 b.q sign
    canonical Nat.one_pos (by simpa using canonical.covers_self)
    (by rw [Nat.div_one]; exact canonical.normal.symm.imp_left Eq.le)
  rwa [Nat.div_one, Nat.mod_one] at rounded

/-- A significand with all its bits, at an exponent in the middle of the range. -/
theorem exists_canonical {m : Nat} {q : Int} (low : 2 ^ 52 ≤ m) (high : m < 2 ^ 53)
    (least : -1074 ≤ q) : ∃ b : Binary, b.Canonical ∧ b.m = m ∧ b.q = q := by
  refine ⟨⟨false, m, q, decide (m = 2 ^ 52 ∧ -1074 < q)⟩, ?_, rfl, rfl⟩
  constructor <;> simp <;> omega

/-- A natural number of at most fifty-three bits, shifted up until its first bit is in place, is a
significand of its own. -/
theorem exists_canonical_shifted (pos : 0 < n) (small : n < 2 ^ 53) :
    ∃ (b : Binary) (k : Nat), b.Canonical ∧ n.log2 + k = 52 ∧ b.m = n * 2 ^ k ∧ b.q = -k ∧
      2 ^ 52 ≤ b.m ∧ (b.m : ℚ) * 2 ^ b.q = n := by
  have bits : n.log2 < 53 := (Nat.log2_lt pos.ne').mpr small
  obtain ⟨k, log⟩ : ∃ k, n.log2 + k = 52 := ⟨52 - n.log2, by omega⟩
  have low : 2 ^ 52 ≤ n * 2 ^ k := by
    rw [← log, Nat.pow_add]
    exact Nat.mul_le_mul_right _ (Nat.log2_self_le pos.ne')
  have high : n * 2 ^ k < 2 ^ 53 := by
    have : 2 ^ (n.log2 + 1) * 2 ^ k = 2 ^ 53 := by rw [← Nat.pow_add]; congr 1; omega
    rw [← this]
    exact Nat.mul_lt_mul_of_pos_right Nat.lt_log2_self (Nat.two_pow_pos k)
  obtain ⟨b, canonical, significand, exponent⟩ :=
    exists_canonical (q := -k) low high (by omega)
  refine ⟨b, k, canonical, log, significand, exponent, significand ▸ low, ?_⟩
  rw [significand, exponent]
  push_cast
  rw [zpow_neg, zpow_natCast]
  field_simp

/-- A natural number of at most fifty-three bits is a double. -/
theorem unpack_toFloat (pos : 0 < n) (small : n < 2 ^ 53) :
    ∃ (m : Nat) (q : Int) (h : 0 < m),
      n.toUInt64.toFloat.toModel.unpack = .finite .positive m q h ∧ 2 ^ 52 ≤ m ∧
        (m : ℚ) * 2 ^ q = n := by
  obtain ⟨b, k, canonical, log, significand, exponent, filled, value⟩ :=
    exists_canonical_shifted pos small
  have word : n.toUInt64.toNat = n := by
    simp
    omega
  have target : Format.binary64.targetExponent (totalExponent n 0) = -k := by
    rw [targetExponent_eq, totalExponent]
    omega
  have model : n.toUInt64.toFloat.toModel =
      Float.Model.pack (.finite .positive b.m b.q canonical.pos) := by
    change Float.Model.pack
      (UnpackedFloat.normalize .binary64 (n.toUInt64.toNat : Nat) 0 .positive) = _
    rw [word, UnpackedFloat.normalize, compare_gt_iff_gt.mpr (by omega)]
    have shift : (0 - -(k : Int)).toNat = k := by omega
    have last : 0 - (k : Int) = b.q := by omega
    simp only [UnpackedFloat.round, target, decreaseExponent, Int.toNat_natCast, shift, last,
      Nat.shiftLeft_eq, ← significand]
    rw [roundWithAccuracy_self canonical]
  refine ⟨b.m, b.q, canonical.pos, ?_, filled, value⟩
  rw [model, unpack_pack canonical (by omega)]

/-- The bits of the powers of ten that the short way uses. -/
theorem bits_powersOfTen : ∀ n : Fin 23,
    let bits := Float.exactlyRepresentablePowersOfTen[n].toBits
    let exponent := ((bits >>> 52) &&& 0x7FF).toNat
    bits >>> 63 = 0 ∧ exponent ≠ 0 ∧ exponent ≠ 0x7FF ∧
      (0x10000000000000 + (bits &&& 0xFFFFFFFFFFFFF).toNat) * 2 ^ (exponent - 1075) =
        10 ^ (n : Nat) * 2 ^ (1075 - exponent) := by
  decide +kernel

/-- The powers of ten that the short way uses are exact. -/
theorem unpack_powersOfTen (h : n < Float.exactlyRepresentablePowersOfTen.size) :
    ∃ (m : Nat) (q : Int) (h' : 0 < m),
      Float.exactlyRepresentablePowersOfTen[n].toModel.unpack = .finite .positive m q h' ∧
        (m : ℚ) * 2 ^ q = 10 ^ n := by
  obtain ⟨positive, normal, finite, exact⟩ := bits_powersOfTen ⟨n, h⟩
  rw [unpack_toModel, valueOf, Value.ofBits]
  simp only [Fin.getElem_fin] at positive normal finite exact
  generalize Float.exactlyRepresentablePowersOfTen[n].toBits = bits at *
  generalize (bits &&& 0xFFFFFFFFFFFFF).toNat = f at *
  generalize ((bits >>> 52) &&& 0x7FF).toNat = e at *
  rw [if_neg finite, if_neg normal, positive]
  refine ⟨0x10000000000000 + f, e - 1075, by omega, ?_, ?_⟩
  · simp [Value.unpacked, signOf]
  · have scaled :
        ((0x10000000000000 + f : Nat) : ℚ) * 2 ^ (e - 1075) = 10 ^ n * 2 ^ (1075 - e) := by
      exact_mod_cast exact
    have exponents : (2 : ℚ) ^ ((e : Int) - 1075) * 2 ^ (1075 - e) = 2 ^ (e - 1075) := by
      have places : (e : Int) - 1075 + (1075 - e : Nat) = (e - 1075 : Nat) := by omega
      rw [← zpow_natCast 2 (1075 - e), ← zpow_add₀ two_ne_zero, places, zpow_natCast]
    have nonzero : (2 : ℚ) ^ (1075 - e) ≠ 0 := by positivity
    refine mul_right_cancel₀ nonzero ?_
    rw [← scaled, mul_assoc, exponents]

/-! ## Decimals -/

/-- A decimal in the interval of a double, by the short way: one product or quotient of two
doubles that are exact. -/
theorem ofScientific_short {isQuotient : Bool} {k : Nat} (canonical : b.Canonical)
    (pos : 0 < m) (small : m < 2 ^ 53 ∧ k ≤ 22)
    (covers : b.Covers (if isQuotient then (m : ℚ) / 10 ^ k else m * 10 ^ k)) :
    Float.ofScientific m isQuotient k =
      .ofModel (.pack (.finite .positive b.m b.q canonical.pos)) := by
  obtain ⟨m₁, q₁, pos₁, read₁, bits₁, value₁⟩ := unpack_toFloat pos small.1
  obtain ⟨m₂, q₂, pos₂, read₂, value₂⟩ :=
    unpack_powersOfTen (n := k) (by simp [Float.exactlyRepresentablePowersOfTen]; omega)
  rw [← value₁, ← value₂] at covers
  rw [Float.ofScientific, dif_pos small]
  cases isQuotient with
  | true =>
    change Float.ofModel (.pack (UnpackedFloat.div .binary64 _ _)) = _
    rw [read₁, read₂, div_of_covers canonical covers]
  | false =>
    change Float.ofModel (.pack (UnpackedFloat.mul .binary64 _ _)) = _
    rw [read₁, read₂, mul_of_covers canonical covers (bits₁.trans (Nat.le_mul_of_pos_right _ pos₂))]

/-- A decimal in the interval of a double, by the long way: one product or quotient of natural
numbers. -/
theorem unpacked_ofScientific (canonical : b.Canonical) (pos : 0 < m)
    (low : -(2 ^ 11 + m.log2 : Int) ≤ e) (high : e ≤ 2 ^ 11) (covers : b.Covers (m * 10 ^ e)) :
    UnpackedFloat.ofScientific .binary64 m e = .finite .positive b.m b.q canonical.pos := by
  rw [UnpackedFloat.ofScientific, dif_neg pos.ne', if_neg (by simpa using high),
    if_neg (by simpa using low)]
  -- The significand is widened first, so that a product has enough bits to be rounded once.
  have width : Format.binary64.mantissaBits = 53 := rfl
  simp only [width, Nat.shiftLeft_eq]
  split_ifs with whole
  · obtain ⟨k, rfl⟩ := Int.eq_ofNat_of_zero_le whole
    refine mul_of_covers canonical ?_ ?_
    · have value : ((m * 2 ^ 53 : Nat) : ℚ) * 2 ^ (-(53 : Nat) : Int) *
          ((10 ^ (k : Int).toNat : Nat) * 2 ^ (0 : Int)) = m * 10 ^ (k : Int) := by
        rw [zpow_neg, zpow_natCast, zpow_natCast, zpow_zero, Int.toNat_natCast]
        push_cast
        field_simp
        norm_num
      rwa [value]
    · calc 2 ^ 52 ≤ m * 2 ^ 53 := by omega
        _ ≤ m * 2 ^ 53 * 10 ^ (k : Int).toNat := Nat.le_mul_of_pos_right _ (Nat.pow_pos (by decide))
  · obtain ⟨k, rfl⟩ : ∃ k : Nat, e = -k := ⟨(-e).toNat, by omega⟩
    refine div_of_covers canonical ?_
    have value : (m : ℚ) * 2 ^ (0 : Int) / ((10 ^ (- -(k : Int)).toNat : Nat) * 2 ^ (0 : Int)) =
        m * 10 ^ (-(k : Int)) := by
      push_cast
      rw [zpow_neg, zpow_natCast, neg_neg, Int.toNat_natCast]
      field_simp
    rwa [value]

/-- A decimal in the interval of a double becomes that double, whichever way it takes. -/
theorem ofScientific_of_covers (canonical : b.Canonical) (pos : 0 < m)
    (low : -(2 ^ 11 + m.log2 : Int) ≤ e) (high : e ≤ 2 ^ 11) (covers : b.Covers (m * 10 ^ e)) :
    Float.ofScientific m (e < 0) e.natAbs =
      .ofModel (.pack (.finite .positive b.m b.q canonical.pos)) := by
  -- Up to these bounds both the number and the power of ten are doubles without rounding.
  by_cases small : m < 2 ^ 53 ∧ e.natAbs ≤ 22
  · refine ofScientific_short canonical pos small ?_
    by_cases negative : e < 0
    · obtain ⟨k, rfl⟩ : ∃ k : Nat, e = -k := ⟨(-e).toNat, by omega⟩
      rw [zpow_neg, zpow_natCast, ← div_eq_mul_inv] at covers
      rwa [decide_eq_true negative, if_pos rfl, Int.natAbs_neg, Int.natAbs_natCast]
    · obtain ⟨k, rfl⟩ := Int.eq_ofNat_of_zero_le (not_lt.mp negative)
      rw [zpow_natCast] at covers
      rwa [decide_eq_false negative, if_neg Bool.false_ne_true, Int.natAbs_natCast]
  · have exponent : (if decide (e < 0) = true then Int.negOfNat e.natAbs else .ofNat e.natAbs) =
        e := by
      split_ifs with negative <;> simp only [decide_eq_true_eq] at negative
      · rw [Int.negOfNat_eq, Int.ofNat_eq_natCast]
        omega
      · rw [Int.ofNat_eq_natCast]
        omega
    rw [Float.ofScientific, dif_neg small, exponent]
    change Float.ofModel (.pack (UnpackedFloat.ofScientific .binary64 m e)) = _
    rw [unpacked_ofScientific canonical pos low high covers]

/-! ## Lengths -/

/-- The digits of a number bound it from both sides. -/
theorem pow_length_le (pos : 0 < m) :
    10 ^ ((toString m).length - 1) ≤ m ∧ m < 10 ^ (toString m).length := by
  have filled : 0 < (toString m).length := Nat.length_repr_pos
  refine ⟨?_, (Nat.length_repr_le_iff filled).mp le_rfl⟩
  by_contra below
  rw [not_le] at below
  by_cases one : (toString m).length = 1
  · rw [one] at below
    omega
  · have := (Nat.length_repr_le_iff (by omega)).mpr below
    rw [Nat.toString_eq_repr] at *
    omega

theorem pow_two_le_pow_ten : (2 : ℚ) ^ (1075 : Int) ≤ 10 ^ (325 : Int) :=
  calc (2 : ℚ) ^ (1075 : Int) = (2 ^ 43) ^ 25 := by rw [← pow_mul, ← zpow_natCast]; rfl
    _ ≤ (10 ^ 13) ^ 25 := by gcongr; norm_num
    _ = 10 ^ (325 : Int) := by rw [← pow_mul, ← zpow_natCast]; rfl

/-- What a double covers is no less than half of the least double. -/
theorem le_of_covers_self {v : ℚ} (canonical : b.Canonical) (covers : b.Covers v) :
    2 ^ (-1075 : Int) ≤ v := by
  have bound : b.low * 2 ^ (b.q - 2) ≤ v := by
    rcases covers.1 with above | ⟨-, atEnd⟩
    · exact above.le
    · exact atEnd.le
  have low : 2 ≤ b.low := by
    have := canonical.pos
    unfold Binary.low
    split_ifs <;> omega
  have least := canonical.least
  calc (2 : ℚ) ^ (-1075 : Int) = 2 * 2 ^ (-1076 : Int) := zpow_one_add₀ two_ne_zero (-1076)
    _ ≤ b.low * 2 ^ (b.q - 2) := by
      gcongr
      · exact_mod_cast low
      · norm_num
      · omega
    _ ≤ v := bound

/-- A decimal in the interval of a double is neither too large nor too small to be expanded. -/
theorem lead_of_covers (canonical : b.Canonical) (bounded : b.q ≤ 971) (pos : 0 < m)
    (covers : b.Covers (m * 10 ^ e)) :
    -330 ≤ (toString m).length + e ∧ (toString m).length + e ≤ 330 := by
  obtain ⟨atLeast, below⟩ := pow_length_le pos
  have filled : 0 < (toString m).length := Nat.length_repr_pos
  generalize (toString m).length = len at *
  -- Least and greatest doubles lie between `10 ^ -325` and `10 ^ 325`, and a decimal lies between
  -- the powers of ten around its first digit.
  have lower : (10 : ℚ) ^ (-325 : Int) < 10 ^ (len + e) :=
    calc (10 : ℚ) ^ (-325 : Int) ≤ 2 ^ (-1075 : Int) := by
          rw [zpow_neg, zpow_neg]
          exact inv_anti₀ (by positivity) pow_two_le_pow_ten
      _ ≤ m * 10 ^ e := le_of_covers_self canonical covers
      _ < 10 ^ len * 10 ^ e := by gcongr; exact_mod_cast below
      _ = 10 ^ (len + e) := by rw [zpow_add₀ (by norm_num), zpow_natCast]
  have upper : (10 : ℚ) ^ ((len - 1 : Nat) + e) < 10 ^ (325 : Int) :=
    calc (10 : ℚ) ^ ((len - 1 : Nat) + e) = 10 ^ (len - 1) * 10 ^ e := by
          rw [zpow_add₀ (by norm_num), zpow_natCast]
      _ ≤ m * 10 ^ e := by gcongr; exact_mod_cast atLeast
      _ < 2 ^ (b.q + 53) := lt_of_covers canonical covers
      _ ≤ 2 ^ (1075 : Int) := by gcongr; norm_num; omega
      _ ≤ 10 ^ (325 : Int) := pow_two_le_pow_ten
  have ten : (1 : ℚ) < 10 := by norm_num
  rw [zpow_lt_zpow_iff_right₀ ten] at lower upper
  omega

/-- A decimal in the interval of a double is read as that double. -/
theorem ofScientific_eq (finite : valueOf x = .finite b) (nonzero : b.m ≠ 0) (pos : 0 < m)
    (covers : b.Covers (m * 10 ^ e)) : ofScientific b.negative m e = x := by
  obtain ⟨canonical, bounded⟩ := canonical_of_valueOf_eq_finite finite nonzero
  obtain ⟨low, high⟩ := lead_of_covers canonical bounded pos covers
  have unpacked : x.toModel.unpack = .finite (signOf b.negative) b.m b.q canonical.pos := by
    rw [unpack_toModel, finite, Value.unpacked, dif_neg nonzero]
  have magnitude : Float.ofScientific m (e < 0) e.natAbs =
      .ofModel (.pack (.finite .positive b.m b.q canonical.pos)) := by
    -- A digit is worth more than three bits, so the bounds on digits imply those on bits.
    have digits : (toString m).length - 1 ≤ m.log2 :=
      (Nat.le_log2 pos.ne').mpr
        ((Nat.pow_le_pow_left (by decide) _).trans (pow_length_le pos).1)
    have filled : 0 < (toString m).length := Nat.length_repr_pos
    exact ofScientific_of_covers canonical pos (by omega) (by omega) covers
  -- Neither of the two shortcuts for decimals out of range is taken.
  have notSmall : ¬ (m = 0 ∨ (toString m).length + e < -330) := by omega
  have notLarge : ¬ (toString m).length + e > 330 := by omega
  rw [← pack_unpack_toModel x, unpacked]
  simp only [ofScientific, if_neg notSmall, if_neg notLarge, magnitude]
  cases b.negative with
  | true =>
    change Float.ofModel (.pack (UnpackedFloat.neg (Float.Model.unpack (.pack _)))) = _
    rw [unpack_pack canonical bounded]
    rfl
  | false => rfl

end BattleMaps.Decimal
