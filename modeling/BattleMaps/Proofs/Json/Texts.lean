import BattleMaps.Json.Reader
import BattleMaps.Json.Writer
import Mathlib.Data.Char
import Mathlib.Tactic.IntervalCases

/-!
# Written texts read back

A written text consists of escapes and plain characters, one group for each character of the
text, and the reader takes one group at a time. A numeric escape is read together with the
character behind it, so the statements speak of what follows; inside a text something always
follows, if only the closing quote.

## Main results

* `unit?_lower` — four written hexadecimal digits are read as their number
* `readText_writeChar` — the reader takes exactly what was written for one character
* `readText_flatMap_writeChar` — and so the whole text
-/

namespace BattleMaps.Json

variable {start pos n : Nat} {done rest : List Char} {c e : Char}

/-! ## Numeric escapes -/

theorem value?_lowerDigit (h : n < 16) : Text.Hex.value? (Text.Hex.lowerDigit n) = some n := by
  interval_cases n <;> decide

/-- The four hexadecimal digits of a sixteen-bit unit, most significant first. -/
theorem lower_four :
    Text.Hex.lower 4 n =
      [Text.Hex.lowerDigit (n / 16 / 16 / 16 % 16), Text.Hex.lowerDigit (n / 16 / 16 % 16),
        Text.Hex.lowerDigit (n / 16 % 16), Text.Hex.lowerDigit (n % 16)] := rfl

theorem unit?_lower (h : n < 0x10000) :
    unit? (Text.Hex.lowerDigit (n / 16 / 16 / 16 % 16)) (Text.Hex.lowerDigit (n / 16 / 16 % 16))
      (Text.Hex.lowerDigit (n / 16 % 16)) (Text.Hex.lowerDigit (n % 16)) = some n := by
  simp only [unit?, value?_lowerDigit (Nat.mod_lt _ (by decide : 16 > 0)), Option.bind_eq_bind,
    Option.bind_some, Option.pure_def, Option.some.injEq]
  omega

/-- A numeric escape that is no first half of a pair is read by itself, whatever follows. -/
theorem readText_unit {x a b c d : Char} (spelled : unit? x a b c = some n)
    (high : isHighHalf n = false) :
    readText start done ('\\' :: 'u' :: x :: a :: b :: c :: d :: rest) pos =
      readText start (unitChar n :: done) (d :: rest) (pos + 6) := by
  -- The reader looks ahead for a second escape; without a first half the two cases end alike.
  by_cases paired : ∃ e f g h i tail, d = '\\' ∧ rest = 'u' :: e :: f :: g :: h :: i :: tail
  · obtain ⟨e, f, g, h, i, tail, rfl, rfl⟩ := paired
    rw [readText.eq_4]
    simp [spelled, high]
  · rw [readText.eq_5]
    · simp [spelled]
    · rintro e f g h i tail rfl rfl
      exact paired ⟨e, f, g, h, i, tail, rfl, rfl⟩

/-- A written unit that is no half of a pair is read as its character. -/
theorem readText_unitEscape (small : n < 0x10000) (high : isHighHalf n = false)
    (low : isLowHalf n = false) :
    readText start done (unitEscape n ++ e :: rest) pos =
      readText start (Char.ofNat n :: done) (e :: rest) (pos + 6) := by
  have isChar : unitChar n = Char.ofNat n := by simp [unitChar, high, low]
  rw [← isChar]
  exact readText_unit (unit?_lower small) high

/-- Two written units that form a pair are read as one character. -/
theorem readText_unitEscape_pair {m : Nat} (small : n < 0x400) (small' : m < 0x400) :
    readText start done (unitEscape (0xD800 + n) ++ unitEscape (0xDC00 + m) ++ e :: rest) pos =
      readText start (Char.ofNat (0x10000 + n * 0x400 + m) :: done) (e :: rest) (pos + 12) := by
  have high : isHighHalf (0xD800 + n) = true := by simp [isHighHalf]; omega
  have low : isLowHalf (0xDC00 + m) = true := by simp [isLowHalf]; omega
  rw [unitEscape, unitEscape, lower_four, lower_four]
  simp only [List.cons_append, List.nil_append]
  rw [readText.eq_4, unit?_lower (by omega), unit?_lower (by omega)]
  simp [high, low]

/-! ## Characters -/

theorem readText_plain (quote : c ≠ '"') (escape : c ≠ '\\') (visible : 0x20 ≤ c.toNat) :
    readText start done (c :: rest) pos = readText start (c :: done) rest (pos + 1) := by
  rw [readText.eq_7]
  · rw [if_neg (by omega)]
  all_goals grind

theorem readText_escape {letter : Char} (short : letter ≠ 'u')
    (known : unescape? letter = some c) :
    readText start done ('\\' :: letter :: rest) pos =
      readText start (c :: done) rest (pos + 2) := by
  rw [readText.eq_6]
  · simp [short, known]
  all_goals grind

/-- A character of sixteen bits is no half of a pair. -/
theorem not_half_toNat (c : Char) : isHighHalf c.toNat = false ∧ isLowHalf c.toNat = false := by
  have valid : c.toNat.isValidChar := c.valid
  simp only [isHighHalf, isLowHalf, Bool.and_eq_false_imp, decide_eq_true_eq,
    decide_eq_false_iff_not, Nat.isValidChar] at *
  omega

/-- The reader takes exactly what was written for one character. -/
theorem readText_writeChar :
    readText start done (writeChar c ++ e :: rest) pos =
      readText start (c :: done) (e :: rest) (pos + (writeChar c).length) := by
  obtain ⟨high, low⟩ := not_half_toNat c
  unfold writeChar
  split_ifs with special newline ret tab back feed visible small
  · rcases special with rfl | rfl <;> exact readText_escape (by decide) rfl
  · exact readText_escape (by decide) (by rw [newline]; rfl)
  · exact readText_escape (by decide) (by rw [ret]; rfl)
  · exact readText_escape (by decide) (by rw [tab]; rfl)
  · exact readText_escape (by decide) (by rw [back]; rfl)
  · exact readText_escape (by decide) (by rw [feed]; rfl)
  · exact readText_plain (fun quote => special (.inl quote)) (fun slash => special (.inr slash))
      visible.1
  · rw [readText_unitEscape small high low, Char.ofNat_toNat]
    rfl
  · have valid : c.toNat.isValidChar := c.valid
    simp only [Nat.isValidChar] at valid
    rw [readText_unitEscape_pair (by omega) (by omega)]
    -- the two halves are quotient and remainder of what lies above the sixteen bits
    have whole : 0x10000 + (c.toNat - 0x10000) / 0x400 * 0x400 + (c.toNat - 0x10000) % 0x400 =
        c.toNat := by omega
    rw [whole, Char.ofNat_toNat]
    rfl

/-- The reader takes exactly what was written for a text. -/
theorem readText_flatMap_writeChar {cs : List Char} :
    readText start done (cs.flatMap writeChar ++ '"' :: rest) pos =
      .ok (done.reverse ++ cs, ⟨rest, pos + (cs.flatMap writeChar).length + 1⟩) := by
  induction cs generalizing done pos with
  | nil => simp [readText]
  | cons c cs ih =>
    -- Something stands behind every character, if only the closing quote.
    obtain ⟨e, tail, split⟩ : ∃ e tail, cs.flatMap writeChar ++ '"' :: rest = e :: tail :=
      List.exists_cons_of_ne_nil (by simp)
    rw [List.flatMap_cons, List.append_assoc, split, readText_writeChar, ← split, ih]
    simp [Nat.add_assoc]

end BattleMaps.Json
