import BattleMaps.Proofs.Decimal.Interval
import BattleMaps.Proofs.Decimal.Scientific

/-!
# Shortest decimals read back

Whichever grid the search for a short decimal stops at, the decimal that it selects lies in the
interval of the double, and dropping trailing zeros does not move it. So reading the decimal
gives the double back, however its digits are spread over the text.

## Main results

* `covers_shortest` — the selected decimal lies in the interval
* `ofScientific_eq_of_value_eq` — a decimal of the same value is read as the double
* `ofScientific_zero`, `ofScientific_infinite` — the doubles that have no interval
-/

namespace BattleMaps.Decimal

open Float.Model Float.Model.UnpackedFloat

variable {x : Float} {b : Binary} {d : Dec} {m : Nat} {e : Int}

/-! ## Selected decimals -/

theorem readsBack_of_onGrid_eq_some (h : b.onGrid e = some d) : b.readsBack d = true := by
  unfold Binary.onGrid at h
  dsimp only at h
  split at h
  · simp at h
  · obtain rfl := Option.some.inj h
    assumption
  · obtain rfl := Option.some.inj h
    assumption
  · split at h <;> obtain rfl := Option.some.inj h
    · assumption
    · assumption
    · split_ifs <;> assumption

/-- The exact value as a decimal is the value. -/
theorem value_exact : b.exact.value = b.m * 2 ^ b.q := by
  unfold Binary.exact Dec.value
  split_ifs with whole
  · obtain ⟨k, exponent⟩ := Int.eq_ofNat_of_zero_le whole
    rw [cast_scaled, exponent]
    simp
  · obtain ⟨k, exponent⟩ : ∃ k : Nat, b.q = -k := ⟨(-b.q).toNat, by omega⟩
    have ten : (10 : ℚ) ^ k = 5 ^ k * 2 ^ k := by rw [← mul_pow]; norm_num
    rw [cast_scaled, exponent, neg_neg, Int.toNat_natCast, zpow_neg, zpow_neg, zpow_natCast,
      zpow_natCast, zpow_natCast, ten]
    push_cast
    field_simp

/-- Dropping zeros into the exponent does not change the value. -/
theorem value_stripZeros (fuel : Nat) : (d.stripZeros fuel).value = d.value := by
  induction fuel generalizing d with
  | zero => rfl
  | succ fuel ih =>
    rw [Dec.stripZeros]
    split_ifs with trailing
    · have whole : (10 : ℚ) * (d.digits / 10 : Nat) = d.digits := by
        exact_mod_cast Nat.mul_div_cancel' (Nat.dvd_of_mod_eq_zero trailing.1)
      rw [ih, Dec.value, Dec.value, zpow_add_one₀ (by norm_num), ← whole]
      ring
    · rfl

/-- The selected decimal lies in the interval. -/
theorem covers_shortest (canonical : b.Canonical) : b.Covers (shortest b).value := by
  rw [shortest, if_neg canonical.pos.ne']
  dsimp only
  rw [value_stripZeros]
  -- Nothing is claimed about how short the decimal is: whichever grid it comes from, it was tested.
  cases found : (List.range 17).findSome? fun n => b.onGrid (b.scale - Int.ofNat (n + 1)) with
  | none =>
    rw [Option.getD_none, value_exact]
    exact canonical.covers_self
  | some d =>
    obtain ⟨n, -, selected⟩ := List.exists_of_findSome?_eq_some found
    exact readsBack_iff.mp (readsBack_of_onGrid_eq_some selected)

theorem digits_ne_zero_of_covers (canonical : b.Canonical) (covers : b.Covers (m * 10 ^ e)) :
    m ≠ 0 := by
  have bound := le_of_covers_self canonical covers
  rintro rfl
  rw [Nat.cast_zero, zero_mul] at bound
  exact absurd bound (not_le.mpr (by positivity))

theorem shortest_zero (zero : b.m = 0) : shortest b = ⟨0, 0⟩ := if_pos zero

/-! ## Reading back -/

/-- A decimal of the same value as the selected one is read as the double. -/
theorem ofScientific_eq_of_value_eq (finite : valueOf x = .finite b) (nonzero : b.m ≠ 0)
    (same : (m : ℚ) * 10 ^ e = (shortest b).value) : ofScientific b.negative m e = x := by
  obtain ⟨canonical, -⟩ := canonical_of_valueOf_eq_finite finite nonzero
  have covers : b.Covers (m * 10 ^ e) := same ▸ covers_shortest canonical
  exact ofScientific_eq finite nonzero
    (Nat.pos_of_ne_zero (digits_ne_zero_of_covers canonical covers)) covers

theorem ofScientific_zero (finite : valueOf x = .finite b) (zero : b.m = 0) :
    ofScientific b.negative 0 e = x := by
  have signed : ∀ negative : Bool, (if negative then -Float.ofScientific 0 false 0
      else Float.ofScientific 0 false 0) = .ofModel (.pack (.zero (signOf negative))) := by
    rintro (_ | _) <;> rfl
  rw [← pack_unpack_toModel x, unpack_toModel, finite, Value.unpacked, dif_pos zero, ← signed]
  simp [ofScientific]

theorem ofScientific_infinite {negative : Bool} (infinite : valueOf x = .infinite negative) :
    ofScientific negative 1 400 = x := by
  rw [← pack_unpack_toModel x, unpack_toModel, infinite, Value.unpacked]
  -- Both signs are computed; what is left is the packing of two fixed values.
  clear infinite
  revert negative
  decide +kernel

theorem ofBits_nan (nan : valueOf x = .nan) : Float.ofBits 0x7FF8000000000000 = x := by
  rw [← pack_unpack_toModel x, unpack_toModel, nan, Value.unpacked]
  rfl

end BattleMaps.Decimal
