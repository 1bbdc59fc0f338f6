import BattleMaps.Proofs.Decimal.Rounding

/-!
# The bits of a double

A double is kept as sixty-four bits: a sign, an exponent and a fraction. The value that the
library reads off the bits and the one that arithmetic on doubles works with are the same, and
nothing is lost when a value is packed into bits again.

## Main definitions

* `Value.unpacked` — a value in the form that arithmetic on doubles works with

## Main results

* `canonical_of_valueOf_eq_finite` — the bits give the significand its canonical form
* `unpack_toModel` — arithmetic reads the same value off the bits
* `pack_unpack_toModel` — a double is its packed value
* `unpack_pack` — packing a canonical value loses nothing
-/

namespace BattleMaps.Decimal

open Float.Model Float.Model.UnpackedFloat

variable {x : Float} {b : Binary} {sign : Sign}

/-- A sign from whether it is a minus. -/
def signOf (negative : Bool) : Sign := if negative then .negative else .positive

/-- A value in the form that arithmetic on doubles works with. -/
def Value.unpacked : Value → UnpackedFloat
  | .nan => .notANumber
  | .infinite negative => .infinity (signOf negative)
  | .finite b =>
    if h : b.m = 0 then .zero (signOf b.negative)
    else .finite (signOf b.negative) b.m b.q (Nat.pos_of_ne_zero h)

/-! ## The three parts -/

theorem toNat_unpackMantissa (u : UInt64) :
    (@unpackMantissa .binary64 u.toBitVec).toNat = (u &&& 0xFFFFFFFFFFFFF).toNat := by
  simp [unpackMantissa, Nat.and_two_pow_sub_one_eq_mod u.toNat 52]

theorem toNat_unpackExponent (u : UInt64) :
    (@unpackExponent .binary64 u.toBitVec).toNat = ((u >>> 52) &&& 0x7FF).toNat := by
  simp [unpackExponent, Nat.and_two_pow_sub_one_eq_mod _ 11]

theorem toNat_unpackSign (u : UInt64) :
    (@unpackSign .binary64 u.toBitVec).toNat = (u >>> 63).toNat := by
  have small : u.toNat / 2 ^ 63 < 2 := Nat.div_lt_of_lt_mul u.toNat_lt
  simpa [unpackSign, Nat.shiftRight_eq_div_pow] using small

theorem signOf_unpackSign (u : UInt64) :
    Sign.ofBitVec (@unpackSign .binary64 u.toBitVec) = signOf (u >>> 63 == 1) := by
  have bit := toNat_unpackSign u
  have small : (u >>> 63).toNat < 2 := bit ▸ (@unpackSign .binary64 u.toBitVec).isLt
  have zero : @unpackSign .binary64 u.toBitVec = 0#1 ↔ (u >>> 63).toNat = 0 := by
    rw [← BitVec.toNat_inj, bit]
    rfl
  have one : (u >>> 63 == 1) = true ↔ (u >>> 63).toNat = 1 := by
    rw [beq_iff_eq, ← UInt64.toNat_inj]
    rfl
  simp only [Sign.ofBitVec, signOf, zero, one]
  split_ifs <;> first | rfl | omega

theorem toNat_append_fraction (fraction : BitVec 52) :
    (1#1 ++ fraction).toNat = 2 ^ 52 + fraction.toNat := by
  rw [BitVec.toNat_append, ← Nat.shiftLeft_add_eq_or_of_lt fraction.isLt]
  simp [Nat.shiftLeft_eq]

/-- The value that the library reads off the bits is the one that arithmetic works with. -/
theorem unpack_toBitVec (u : UInt64) :
    UnpackedFloat.unpack .binary64 u.toBitVec = (Value.ofBits u).unpacked := by
  have noFraction : @unpackMantissa .binary64 u.toBitVec = 0#52 ↔
      (u &&& 0xFFFFFFFFFFFFF).toNat = 0 := by
    rw [← toNat_unpackMantissa, ← BitVec.toNat_inj]
    rfl
  have least : @unpackExponent .binary64 u.toBitVec = 0#11 ↔
      ((u >>> 52) &&& 0x7FF).toNat = 0 := by
    rw [← toNat_unpackExponent, ← BitVec.toNat_inj]
    rfl
  have greatest : @unpackExponent .binary64 u.toBitVec = -1#11 ↔
      ((u >>> 52) &&& 0x7FF).toNat = 0x7FF := by
    rw [← toNat_unpackExponent, ← BitVec.toNat_inj]
    rfl
  unfold UnpackedFloat.unpack Value.ofBits
  simp only [signOf_unpackSign, toNat_append_fraction, toNat_unpackMantissa, toNat_unpackExponent,
    noFraction, least, greatest]
  have bias : (Format.binary64.exponentBias : Int) = 1023 := rfl
  split_ifs with special empty zero empty
  · rfl
  · rfl
  · simp [Value.unpacked, empty]
  · rw [Value.unpacked, dif_neg empty]
    simp [zero, bias]
  · simp [Value.unpacked, bias]

/-- Arithmetic reads the same value off a double. -/
theorem unpack_toModel (x : Float) : x.toModel.unpack = (valueOf x).unpacked :=
  unpack_toBitVec x.toBits

/-! ## The form that the bits give -/

/-- The bits of a finite double give its significand the canonical form, and an exponent that is
not too large. -/
theorem canonical_of_valueOf_eq_finite (h : valueOf x = .finite b) (nonzero : b.m ≠ 0) :
    b.Canonical ∧ b.q ≤ 971 := by
  have fraction : (x.toBits &&& 0xFFFFFFFFFFFFF).toNat < 2 ^ 52 := by
    rw [← toNat_unpackMantissa]
    exact (@unpackMantissa .binary64 x.toBits.toBitVec).isLt
  have exponent : ((x.toBits >>> 52) &&& 0x7FF).toNat < 2 ^ 11 := by
    rw [← toNat_unpackExponent]
    exact (@unpackExponent .binary64 x.toBits.toBitVec).isLt
  unfold valueOf Value.ofBits at h
  dsimp only at h
  -- From here on only the bounds of the two parts count.
  generalize (x.toBits &&& 0xFFFFFFFFFFFFF).toNat = f at *
  generalize ((x.toBits >>> 52) &&& 0x7FF).toNat = e at *
  split_ifs at h with special _ zero
  · obtain rfl := Value.finite.inj h
    dsimp only at nonzero
    refine ⟨⟨?_, ?_, ?_, ?_, ?_⟩, ?_⟩ <;> dsimp only
    all_goals grind
  · obtain rfl := Value.finite.inj h
    refine ⟨⟨?_, ?_, ?_, ?_, ?_⟩, ?_⟩ <;> dsimp only
    all_goals grind

/-! ## Packing -/

theorem pack_normal {m : Nat} {q : Int} (pos : 0 < m) (low : 2 ^ 52 ≤ m) (high : m < 2 ^ 53)
    (least : -1074 ≤ q) (greatest : q ≤ 971) :
    UnpackedFloat.pack .binary64 (.finite sign m q pos) =
      packComponents .binary64 sign (.ofNat 11 (q + 1075).toNat) (.ofNat 52 m) := by
  -- Packing looks at the number of bits: with all of them the first one is left out.
  have log : m.log2 = 52 := (Nat.log2_eq_iff (by omega)).mpr ⟨low, high⟩
  have biased : (q + Format.binary64.exponentBias + (52 : Nat)).toNat = (q + 1075).toNat := by
    change (q + 1023 + 52).toNat = _
    omega
  simp only [UnpackedFloat.pack, log, biased]
  rw [if_neg (by omega), if_pos (by decide)]

theorem pack_subnormal {m : Nat} (pos : 0 < m) (high : m < 2 ^ 52) :
    UnpackedFloat.pack .binary64 (.finite sign m (-1074) pos) =
      packComponents .binary64 sign 0#11 (.ofNat 52 m) := by
  have log : m.log2 < 52 := (Nat.log2_lt pos.ne').mpr high
  have short : ¬ m.log2 + 1 = Format.binary64.mantissaBits := by
    change ¬ m.log2 + 1 = 53
    omega
  rw [UnpackedFloat.pack]
  simp only
  rw [if_neg (by decide), if_neg short]

/-- With its first bit set, a significand leaves that bit to the exponent. -/
theorem unpack_pack_normal (canonical : b.Canonical) (bounded : b.q ≤ 971)
    (normal : 2 ^ 52 ≤ b.m) :
    UnpackedFloat.unpack .binary64 (UnpackedFloat.pack .binary64
      (.finite sign b.m b.q canonical.pos)) = .finite sign b.m b.q canonical.pos := by
  have bias : (Format.binary64.exponentBias : Int) = 1023 := rfl
  have least := canonical.least
  have exponent : (BitVec.ofNat 11 (b.q + 1075).toNat).toNat = (b.q + 1075).toNat := by
    rw [BitVec.toNat_ofNat]
    omega
  have notGreatest : BitVec.ofNat 11 (b.q + 1075).toNat ≠ -1#11 := by
    rw [ne_eq, ← BitVec.toNat_inj, exponent]
    change ¬ (b.q + 1075).toNat = 2047
    omega
  have notLeast : BitVec.ofNat 11 (b.q + 1075).toNat ≠ 0#11 := by
    rw [ne_eq, ← BitVec.toNat_inj, exponent]
    change ¬ (b.q + 1075).toNat = 0
    omega
  have fraction : 2 ^ 52 + (BitVec.ofNat 52 b.m).toNat = b.m := by
    have := canonical.lt
    rw [BitVec.toNat_ofNat]
    omega
  rw [pack_normal canonical.pos normal canonical.lt least bounded]
  simp only [UnpackedFloat.unpack, unpackMantissa_packComponents, unpackExponent_packComponents,
    unpackSign_packComponents, Sign.ofBitVec_toBitVec, toNat_append_fraction, exponent, fraction,
    bias]
  rw [if_neg notGreatest, if_neg notLeast]
  congr 1
  omega

/-- Without it, the exponent field is zero. -/
theorem unpack_pack_subnormal (canonical : b.Canonical) (subnormal : ¬ 2 ^ 52 ≤ b.m) :
    UnpackedFloat.unpack .binary64 (UnpackedFloat.pack .binary64
      (.finite sign b.m b.q canonical.pos)) = .finite sign b.m b.q canonical.pos := by
  have least := canonical.normal.resolve_left subnormal
  have fraction : (BitVec.ofNat 52 b.m).toNat = b.m := by
    rw [BitVec.toNat_ofNat]
    omega
  have filled : BitVec.ofNat 52 b.m ≠ 0#52 := by
    rw [ne_eq, ← BitVec.toNat_inj, fraction]
    exact canonical.pos.ne'
  have packed := @pack_subnormal sign _ canonical.pos (by omega)
  simp only [least, packed, UnpackedFloat.unpack, unpackMantissa_packComponents,
    unpackExponent_packComponents, unpackSign_packComponents, Sign.ofBitVec_toBitVec, fraction]
  rw [if_neg (by decide), if_pos trivial, dif_neg filled]
  rfl

/-- Packing a canonical value loses nothing. -/
theorem unpack_pack (canonical : b.Canonical) (bounded : b.q ≤ 971) :
    (Float.Model.pack (.finite sign b.m b.q canonical.pos)).unpack =
      .finite sign b.m b.q canonical.pos := by
  change UnpackedFloat.unpack .binary64 (UnpackedFloat.pack .binary64 _) = _
  by_cases normal : 2 ^ 52 ≤ b.m
  · exact unpack_pack_normal canonical bounded normal
  · exact unpack_pack_subnormal canonical normal

/-- Packing the value of a double gives the double back. -/
theorem pack_unpack_toModel (x : Float) :
    Float.ofModel (Float.Model.pack x.toModel.unpack) = x := by
  obtain ⟨⟨bits, valid⟩⟩ := x
  simp only [Float.Model.pack, Float.Model.unpack, pack_unpack_of_valid valid]

end BattleMaps.Decimal
