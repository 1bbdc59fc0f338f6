import BattleMaps.Proofs.Text.Utf8
import BattleMaps.Text.Percent

/-!
# Encoded paths read back

An encoded path spells the bytes of the path, one after the other: a character that stands for
itself is its only byte, and every other byte is spelled by its two digits. So an encoded path reads
back as the path, and none of its characters separates the parts of an address.

## Main results

* `mem_encode` — the characters of an encoded path
* `units_encode` — an encoded path spells the bytes of the path
* `decode_encode` — an encoded path reads back
-/

namespace BattleMaps.Text

/-! ## Digits -/

theorem Hex.value?_upperDigit : ∀ d < 16, value? (upperDigit d) = some d := by
  decide

namespace Percent

theorem isPlain_upperDigit : ∀ d < 16, isPlain (Hex.upperDigit d) = true := by
  decide

variable {c : Char} {b : UInt8} {rest : List Char}

/-- A byte is spelled by a percent sign and two digits. -/
theorem encodeByte_eq :
    encodeByte b = ['%', Hex.upperDigit (b.toNat / 16), Hex.upperDigit (b.toNat % 16)] := by
  have small := b.toNat_lt
  have high : b.toNat / 16 % 16 = b.toNat / 16 := by omega
  simp only [encodeByte, Hex.upper, Hex.spell, high, List.nil_append, List.singleton_append]

/-! ## Characters -/

/-- A character that stands for itself is ASCII, and no percent sign. -/
theorem bounds_of_isPlain (plain : isPlain c = true) : c.toNat < 0x80 ∧ c ≠ '%' := by
  rcases Bool.or_eq_true_iff.mp plain with letter | mark
  · refine ⟨?_, ?_⟩
    · delta Char.isAlphanum Char.isAlpha Char.isUpper Char.isLower Char.isDigit at letter
      simp only [Bool.or_eq_true, Bool.and_eq_true, decide_eq_true_eq,
        UInt32.le_iff_toNat_le] at letter
      change c.val.toNat < 0x80
      rcases letter with (⟨-, last⟩ | ⟨-, last⟩) | ⟨-, last⟩ <;>
        exact lt_of_le_of_lt last (by decide)
    · rintro rfl
      exact absurd letter (by decide)
  · have listed : c ∈ ['-', '.', '_', '~', '/'] := List.contains_iff_mem.mp mark
    simp only [List.mem_cons, List.not_mem_nil, or_false] at listed
    rcases listed with rfl | rfl | rfl | rfl | rfl <;> exact ⟨by decide, by decide⟩

/-- An encoded path is made of characters that stand for themselves and of percent signs. -/
theorem mem_encode {s : String} (member : c ∈ (encode s).toList) : isPlain c = true ∨ c = '%' := by
  rw [encode, String.toList_ofList, List.mem_flatMap] at member
  obtain ⟨d, -, member⟩ := member
  split_ifs at member with plain
  · rw [List.mem_singleton] at member
    exact .inl (member ▸ plain)
  · obtain ⟨b, -, member⟩ := List.mem_flatMap.mp member
    have small := b.toNat_lt
    rw [encodeByte_eq] at member
    simp only [List.mem_cons, List.not_mem_nil, or_false] at member
    rcases member with rfl | rfl | rfl
    · exact .inr rfl
    · exact .inl (isPlain_upperDigit _ (by omega))
    · exact .inl (isPlain_upperDigit _ (by omega))

/-! ## Reading back -/

theorem units_encodeByte : units (encodeByte b ++ rest) = .byte b.toNat :: units rest := by
  have small := b.toNat_lt
  have whole : 16 * (b.toNat / 16) + b.toNat % 16 = b.toNat := Nat.div_add_mod ..
  rw [encodeByte_eq]
  simp only [List.cons_append, List.nil_append, units,
    Hex.value?_upperDigit _ (show b.toNat / 16 < 16 by omega),
    Hex.value?_upperDigit _ (show b.toNat % 16 < 16 by omega), whole]

theorem units_encodeBytes (bytes : Bytes) :
    units (bytes.flatMap encodeByte ++ rest) =
      bytes.map (fun b => .byte b.toNat) ++ units rest := by
  induction bytes with
  | nil => rfl
  | cons b bytes ih =>
    rw [List.flatMap_cons, List.append_assoc, units_encodeByte, ih, List.map_cons, List.cons_append]

theorem units_of_isPlain (plain : isPlain c = true) :
    units (c :: rest) = .byte c.toNat :: units rest := by
  obtain ⟨ascii, notPercent⟩ := bounds_of_isPlain plain
  rw [units]
  · rw [if_pos ascii]
  · intro h l others same
    exact absurd same notPercent

/-- An encoded path spells the bytes of the path. -/
theorem units_encode (s : String) :
    units (encode s).toList = (Utf8.encode s).map fun b => .byte b.toNat := by
  rw [encode, String.toList_ofList, Utf8.encode]
  induction s.toList with
  | nil => rfl
  | cons c cs ih =>
    rw [List.flatMap_cons, List.flatMap_cons, List.map_append]
    split_ifs with plain
    · obtain ⟨ascii, -⟩ := bounds_of_isPlain plain
      have single : Utf8.encodeChar c = [UInt8.ofNat c.toNat] := if_pos ascii
      rw [List.singleton_append, units_of_isPlain plain, ih, single, List.map_singleton,
        List.singleton_append, Utf8.toNat_ofNat (by omega)]
    · rw [units_encodeBytes, ih]

/-- What bytes spell as units they spell as bytes. -/
theorem spelled_bytes (s : Utf8.State) (bytes : Bytes) :
    spelled s (bytes.map fun b => .byte b.toNat) = Utf8.piecesFrom s bytes := by
  induction bytes generalizing s with
  | nil => rfl
  | cons b bytes ih => exact congrArg ((Utf8.step s b.toNat).1 ++ ·) (ih _)

/-- An encoded path reads back. -/
@[simp] theorem decode_encode (s : String) : decode (encode s) = s := by
  have spells : spelled {} (units (encode s).toList) = s.toList.map some := by
    rw [units_encode, spelled_bytes]
    exact Utf8.pieces_encode s
  rw [decode, spells, List.map_map]
  exact (congrArg String.ofList (List.map_id _)).trans String.ofList_toList

end Percent

end BattleMaps.Text
