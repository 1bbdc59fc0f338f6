import BattleMaps.Proofs.Decimal.Scientific

/-!
# Integers beyond all doubles

The largest double is `2 ^ 1024 - 2 ^ 971`, and the next power of two would be out of range. An
integer is read as an infinity from the middle between the two on: there the even neighbour is the
power of two.

## Main definitions

* `overflowBound` — the least natural number that is read as an infinity

## Main results

* `isNearest_roundDiv` — what a quotient is rounded to is nearest to it
* `isInf_pack` — which canonical values are packed as an infinity
* `overflowBound_le_iff` — which numbers have too many bits, before rounding or after it
* `isInf_ofScientific_iff` — which integers are read as an infinity
-/

namespace BattleMaps.Decimal

open Float.Model Float.Model.UnpackedFloat

variable {num den m : Nat} {b : Binary} {sign : Sign}

/-- The least natural number that is rounded beyond the largest double: the middle between that and
the next power of two. -/
def overflowBound : Nat := 2 ^ 1024 - 2 ^ 970

/-! ## Rounding -/

/-- What a quotient is rounded to is nearest to it. -/
theorem isNearest_roundDiv (pos : 0 < den) : IsNearest num den (roundDiv num den) := by
  have split := Nat.div_add_mod num den
  have small := Nat.mod_lt num pos
  have here : 2 * (num / den) * den = 2 * (den * (num / den)) := by ring
  have next : 2 * (num / den + 1) * den = 2 * (den * (num / den)) + 2 * den := by ring
  unfold roundDiv IsNearest
  generalize num / den = n at *
  generalize num % den = r at *
  rcases order : compare (2 * r) den with _ | _ | _ <;>
    simp only [Nat.compare_eq_lt, Nat.compare_eq_gt, Nat.compare_eq_eq] at order ⊢
  · rw [here]
    omega
  · split_ifs with even
    · rw [here]
      omega
    · rw [next]
      omega
  · rw [next]
    omega

/-! ## Packing -/

/-- A canonical value is packed as an infinity exactly if its exponent is too large. -/
theorem isInf_pack (canonical : b.Canonical) :
    (Float.ofModel (.pack (.finite sign b.m b.q canonical.pos))).isInf = true ↔ 972 ≤ b.q := by
  change (Float.Model.unpack (.pack (.finite sign b.m b.q canonical.pos))).isInf = true ↔ _
  by_cases bounded : b.q ≤ 971
  · rw [unpack_pack canonical bounded]
    exact ⟨fun h => absurd h Bool.false_ne_true, fun h => by omega⟩
  · have := canonical.normal
    have log : b.m.log2 = 52 :=
      (Nat.log2_eq_iff canonical.pos.ne').mpr ⟨by omega, canonical.lt⟩
    have beyond : 2 ^ Format.binary64.exponentBits ≤ (b.q + Format.binary64.exponentBias +
        Format.binary64.mantissaBitsWithoutImplicit).toNat + 1 := by
      change 2048 ≤ (b.q + 1023 + 52).toNat + 1
      omega
    have packed : UnpackedFloat.pack .binary64 (.finite sign b.m b.q canonical.pos) =
        packedInfinity .binary64 sign := by
      rw [UnpackedFloat.pack]
      exact if_pos beyond
    change (UnpackedFloat.unpack .binary64 (UnpackedFloat.pack .binary64 _)).isInf = true ↔ _
    rw [packed, iff_true_right (by omega)]
    cases sign <;> rfl

/-- A change of sign makes no infinity and undoes none. -/
theorem isInf_neg (x : Float) : (-x).isInf = x.isInf := by
  change (Float.Model.unpack (.pack (UnpackedFloat.neg x.toModel.unpack))).isInf =
    x.toModel.unpack.isInf
  rw [unpack_toModel x]
  cases value : valueOf x with
  | nan => rfl
  | infinite negative => cases negative <;> rfl
  | finite b =>
    rw [Value.unpacked]
    split_ifs with zero
    · cases b.negative <;> rfl
    · obtain ⟨canonical, bounded⟩ := canonical_of_valueOf_eq_finite value zero
      change (Float.Model.unpack (.pack (.finite _ b.m b.q canonical.pos))).isInf = false
      rw [unpack_pack canonical bounded]
      rfl

/-! ## Integers -/

theorem lt_overflowBound (small : m.log2 ≤ 1022) : m < overflowBound :=
  calc m < 2 ^ (m.log2 + 1) := Nat.lt_log2_self
    _ ≤ 2 ^ 1023 := Nat.pow_le_pow_right Nat.two_pos (by omega)
    _ < overflowBound := by
      unfold overflowBound
      omega

theorem overflowBound_le (large : 1024 ≤ m.log2) : overflowBound ≤ m :=
  calc overflowBound ≤ 2 ^ 1024 := by
        unfold overflowBound
        omega
    _ ≤ 2 ^ m.log2 := Nat.pow_le_pow_right Nat.two_pos large
    _ ≤ m := Nat.log2_self_le (by rintro rfl; simp at large)

/-- Of the numbers of 1024 bits those from the bound on are rounded up to the next power of two. -/
theorem carries_iff {r : Nat} (log : m.log2 = 1023)
    (nearest : IsNearest (m * 2 ^ 53) (2 ^ (m.log2 + 1)) r) (room : r ≤ 2 ^ 53) :
    r = 2 ^ 53 ↔ overflowBound ≤ m := by
  obtain ⟨least, greatest⟩ := nearest
  rw [log] at least greatest
  unfold overflowBound
  constructor
  · rintro rfl
    omega
  · intro above
    by_contra below
    omega

/-- From the bound on, a number has too many bits or is rounded up to one with too many. -/
theorem overflowBound_le_iff {r : Nat}
    (nearest : IsNearest (m * 2 ^ 53) (2 ^ (m.log2 + 1)) r) (room : r ≤ 2 ^ 53) :
    overflowBound ≤ m ↔ 1024 ≤ m.log2 ∨ m.log2 = 1023 ∧ r = 2 ^ 53 := by
  rcases lt_trichotomy m.log2 1023 with small | log | large
  · exact iff_of_false (lt_overflowBound (by omega)).not_ge (by omega)
  · rw [← carries_iff log nearest room]
    omega
  · exact iff_of_true (overflowBound_le large) (.inl large)

/-- Widened by fifty-three bits, a number has fifty-three of them in front of those that rounding
drops. -/
theorem widened_bounds (pos : 0 < m) :
    2 ^ 52 ≤ m * 2 ^ 53 / 2 ^ (m.log2 + 1) ∧ m * 2 ^ 53 / 2 ^ (m.log2 + 1) < 2 ^ 53 := by
  have low := Nat.log2_self_le pos.ne'
  have high : m < 2 ^ (m.log2 + 1) := Nat.lt_log2_self
  have unit := Nat.two_pow_pos (m.log2 + 1)
  rw [Nat.le_div_iff_mul_le unit, Nat.div_lt_iff_lt_mul unit]
  rw [Nat.pow_succ] at high ⊢
  omega

/-- What the widened number is rounded to has fifty-three bits, or is the next power of two. -/
theorem bounds_of_isNearest (pos : 0 < m) {r : Nat}
    (nearest : IsNearest (m * 2 ^ 53) (2 ^ (m.log2 + 1)) r) : 2 ^ 52 ≤ r ∧ r ≤ 2 ^ 53 := by
  have unit := Nat.two_pow_pos (m.log2 + 1)
  refine ⟨(widened_bounds pos).1.trans (div_le_of_isNearest unit nearest), ?_⟩
  by_contra far
  have high : m < 2 ^ (m.log2 + 1) := Nat.lt_log2_self
  have := Nat.mul_le_mul_right (2 ^ (m.log2 + 1)) (Nat.lt_of_not_le far)
  have := nearest.1
  rw [Nat.mul_assoc] at this
  omega

theorem ofScientific_eq_roundWithAccuracy (pos : 0 < m) :
    UnpackedFloat.ofScientific .binary64 m 0 =
      roundWithAccuracy .binary64 .positive (m * 2 ^ 53) (-53) .exact := by
  have width : Format.binary64.mantissaBits = 53 := rfl
  have range : (2 : Int) ^ Format.binary64.exponentBits = 2048 := rfl
  rw [UnpackedFloat.ofScientific, dif_neg pos.ne', if_neg (by decide), if_neg (by omega),
    if_pos le_rfl]
  simp only [width, Nat.shiftLeft_eq]
  change roundWithAccuracy .binary64 _ (m * 2 ^ 53 * 10 ^ 0) _ _ = _
  rw [Nat.pow_zero, Nat.mul_one]
  rfl

/-- What a number is rounded to if rounding does not carry. -/
theorem ofScientific_eq_of_isNearest (canonical : b.Canonical) (pos : 0 < m)
    (exponent : b.q = m.log2 - 52) (nearest : IsNearest (m * 2 ^ 53) (2 ^ (m.log2 + 1)) b.m) :
    UnpackedFloat.ofScientific .binary64 m 0 = .finite .positive b.m b.q canonical.pos := by
  have rounded := @roundWithAccuracy_eq (m * 2 ^ 53) 1 (m.log2 + 1) (-53) .positive b canonical
    Nat.one_pos (by omega) (by rwa [Nat.one_mul])
    (.inl (by rw [Nat.one_mul]; exact (widened_bounds pos).1))
  rw [Nat.div_one, Nat.mod_one] at rounded
  exact (ofScientific_eq_roundWithAccuracy pos).trans rounded

/-- What a number is rounded to if rounding carries. -/
theorem ofScientific_eq_of_carry (pos : 0 < m)
    (nearest : IsNearest (m * 2 ^ 53) (2 ^ (m.log2 + 1)) (2 ^ 53)) :
    UnpackedFloat.ofScientific .binary64 m 0 =
      .finite .positive (2 ^ 52) (m.log2 - 52 + 1) (Nat.two_pow_pos 52) := by
  obtain ⟨filled, room⟩ := widened_bounds pos
  have rounded := @roundWithAccuracy_eq_of_carry (m * 2 ^ 53) 1 (m.log2 + 1) (-53) (m.log2 - 52)
    .positive Nat.one_pos (by omega) (by omega) (by rwa [Nat.one_mul]) (by rwa [Nat.one_mul])
    (by rwa [Nat.one_mul])
  rw [Nat.div_one, Nat.mod_one] at rounded
  exact (ofScientific_eq_roundWithAccuracy pos).trans rounded

/-- A natural number is rounded to a canonical value, whose exponent is too large exactly from the
bound on. -/
theorem exists_unpacked_ofScientific (pos : 0 < m) :
    ∃ (b : Binary) (canonical : b.Canonical),
      UnpackedFloat.ofScientific .binary64 m 0 = .finite .positive b.m b.q canonical.pos ∧
        (972 ≤ b.q ↔ overflowBound ≤ m) := by
  obtain ⟨r, nearest⟩ : ∃ r, IsNearest (m * 2 ^ 53) (2 ^ (m.log2 + 1)) r :=
    ⟨_, isNearest_roundDiv (Nat.two_pow_pos _)⟩
  obtain ⟨low, high⟩ := bounds_of_isNearest pos nearest
  have beyond := overflowBound_le_iff nearest high
  rcases high.lt_or_eq with stays | rfl
  · obtain ⟨b, canonical, rfl, exponent⟩ :=
      exists_canonical (q := m.log2 - 52) low stays (by omega)
    refine ⟨b, canonical, ofScientific_eq_of_isNearest canonical pos exponent nearest, ?_⟩
    rw [exponent, beyond]
    omega
  · obtain ⟨b, canonical, significand, exponent⟩ :=
      exists_canonical (m := 2 ^ 52) (q := m.log2 - 52 + 1) le_rfl (by decide) (by omega)
    refine ⟨b, canonical, ?_, ?_⟩
    · simp only [significand, exponent, ofScientific_eq_of_carry pos nearest]
    · rw [exponent, beyond]
      omega

/-- A number of at most fifty-three bits is read as it is. -/
theorem isInf_ofScientific_of_small (pos : 0 < m) (small : m < 2 ^ 53) :
    (Float.ofScientific m false 0).isInf = false := by
  obtain ⟨b, k, canonical, -, -, exponent, -, value⟩ := exists_canonical_shifted pos small
  have covers : b.Covers (m * 10 ^ (0 : Int)) := by
    rw [zpow_zero, mul_one, ← value]
    exact canonical.covers_self
  have read := ofScientific_of_covers canonical pos (by omega) (by omega) covers
  change Float.ofScientific m false 0 = _ at read
  rw [read, Bool.eq_false_iff, ne_eq, isInf_pack canonical]
  omega

/-- An integer is read as an infinity exactly if its magnitude reaches the bound. -/
theorem isInf_ofScientific_iff (negative : Bool) (m : Nat) :
    (ofScientific negative m 0).isInf ↔ overflowBound ≤ m := by
  have signed (x : Float) : (if negative then -x else x).isInf = x.isInf := by
    cases negative with
    | true => exact isInf_neg x
    | false => rfl
  simp only [ofScientific, signed]
  split_ifs with zero long
  · obtain rfl := zero.resolve_right (by omega)
    exact iff_of_false Bool.false_ne_true (by unfold overflowBound; omega)
  · have pos : 0 < m := by omega
    have atLeast := (pow_length_le pos).1
    have beyond : overflowBound ≤ m :=
      calc overflowBound ≤ 10 ^ 330 := by unfold overflowBound; omega
        _ ≤ 10 ^ ((toString m).length - 1) := Nat.pow_le_pow_right (by decide) (by omega)
        _ ≤ m := atLeast
    exact iff_of_true (by decide +kernel) beyond
  · have pos : 0 < m := by omega
    change (Float.ofScientific m false 0).isInf ↔ _
    by_cases small : m < 2 ^ 53
    · have below : m < overflowBound := small.trans_le (by unfold overflowBound; omega)
      rw [isInf_ofScientific_of_small pos small]
      exact iff_of_false Bool.false_ne_true (by omega)
    · obtain ⟨b, canonical, rounded, beyond⟩ := exists_unpacked_ofScientific pos
      have wide : ¬ (m < 2 ^ 53 ∧ 0 ≤ 22) := by omega
      rw [Float.ofScientific, dif_neg wide]
      change (Float.ofModel (.pack (UnpackedFloat.ofScientific .binary64 m 0))).isInf = true ↔ _
      rw [rounded, isInf_pack canonical, beyond]

end BattleMaps.Decimal
