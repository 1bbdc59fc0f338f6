import BattleMaps.Text.Utf8
import Mathlib.Data.Char
import Mathlib.Data.List.Basic

/-!
# Characters and their bytes

The bytes of a character take the reader from one place between characters to the next, and what it
has gathered on the way is the code point of the character. So a text is what its bytes spell.

## Main results

* `piecesFrom_encodeChar` — the bytes of a character spell it, whatever follows
* `pieces_encode` — the bytes of a text spell its characters
-/

namespace BattleMaps.Text.Utf8

variable {s : State} {b n : Nat} {rest : Bytes}

/-! ## Single bytes -/

theorem toNat_ofNat (small : n < 0x100) : (UInt8.ofNat n).toNat = n := by
  rw [UInt8.toNat_ofNat']
  omega

theorem piecesFrom_cons (small : b < 0x100) :
    piecesFrom s (UInt8.ofNat b :: rest) = (step s b).1 ++ piecesFrom (step s b).2 rest := by
  rw [piecesFrom, toNat_ofNat small]

/-- The first byte of a character with others to come sets what is owed. -/
theorem piecesFrom_of_start (begins : start b = ([], s)) (small : b < 0x100) :
    piecesFrom {} (UInt8.ofNat b :: rest) = piecesFrom s rest := by
  rw [piecesFrom_cons small, step, if_pos rfl, begins, List.nil_append]

/-- A byte with others to come after it pays a part of what is owed. -/
theorem piecesFrom_of_owed (owed : 1 < s.owed) (low : s.low ≤ b) (high : b ≤ s.high)
    (small : b < 0x100) :
    piecesFrom s (UInt8.ofNat b :: rest) =
      piecesFrom { owed := s.owed - 1, code := 64 * s.code + (b - 0x80) } rest := by
  have paid : step s b = ([], { owed := s.owed - 1, code := 64 * s.code + (b - 0x80) }) := by
    rw [step, if_neg (by omega), if_pos ⟨low, high⟩]
    exact if_neg (by omega)
  rw [piecesFrom_cons small, paid, List.nil_append]

/-- The last byte completes the character. -/
theorem piecesFrom_of_last (owed : s.owed = 1) (low : s.low ≤ b) (high : b ≤ s.high)
    (small : b < 0x100) :
    piecesFrom s (UInt8.ofNat b :: rest) =
      some (Char.ofNat (64 * s.code + (b - 0x80))) :: piecesFrom {} rest := by
  have paid : step s b = ([some (Char.ofNat (64 * s.code + (b - 0x80)))], {}) := by
    rw [step, if_neg (by omega), if_pos ⟨low, high⟩]
    exact if_pos owed
  rw [piecesFrom_cons small, paid, List.singleton_append]

theorem start_two (low : 0xC2 ≤ b) (high : b < 0xE0) :
    start b = ([], { owed := 1, code := b - 0xC0 }) := by
  rw [start, if_neg (by omega), if_neg (by omega), if_pos high]

theorem start_three (low : 0xE0 ≤ b) (high : b < 0xF0) :
    start b = ([], { owed := 2, low := if b = 0xE0 then 0xA0 else 0x80,
                     high := if b = 0xED then 0x9F else 0xBF, code := b - 0xE0 }) := by
  rw [start, if_neg (by omega), if_neg (by omega), if_neg (by omega), if_pos high]

theorem start_four (low : 0xF0 ≤ b) (high : b < 0xF5) :
    start b = ([], { owed := 3, low := if b = 0xF0 then 0x90 else 0x80,
                     high := if b = 0xF4 then 0x8F else 0xBF, code := b - 0xF0 }) := by
  rw [start, if_neg (by omega), if_neg (by omega), if_neg (by omega), if_neg (by omega),
    if_pos high]

/-! ## Characters -/

/-- A character is no surrogate and lies below the end of the code space. -/
theorem toNat_bounds (c : Char) : c.toNat < 0xD800 ∨ 0xDFFF < c.toNat ∧ c.toNat < 0x110000 :=
  c.valid

/-- The bytes of a character spell it, whatever follows. -/
theorem piecesFrom_encodeChar (c : Char) (rest : Bytes) :
    piecesFrom {} (encodeChar c ++ rest) = some c :: piecesFrom {} rest := by
  have bounds := toNat_bounds c
  have whole : ∀ n, n = c.toNat → Char.ofNat n = c := by
    rintro n rfl
    exact Char.ofNat_toNat c
  unfold encodeChar
  dsimp only
  -- One case for each length: the first byte sets what is owed, and every other one pays a part.
  split_ifs with one two three
  · have first : step {} c.toNat = ([some c], {}) := by
      rw [step, if_pos rfl, start, if_pos one, Char.ofNat_toNat]
    rw [List.singleton_append, piecesFrom_cons (by omega), first, List.singleton_append]
  · rw [List.cons_append, List.singleton_append,
      piecesFrom_of_start (start_two (by omega) (by omega)) (by omega),
      piecesFrom_of_last rfl (by dsimp only; omega) (by dsimp only; omega) (by omega),
      whole _ (by dsimp only; omega)]
  · rw [List.cons_append, List.cons_append, List.singleton_append,
      piecesFrom_of_start (start_three (by omega) (by omega)) (by omega),
      piecesFrom_of_owed Nat.one_lt_two (by dsimp only; split_ifs <;> omega)
        (by dsimp only; split_ifs <;> omega) (by omega),
      piecesFrom_of_last rfl (by dsimp only; omega) (by dsimp only; omega) (by omega),
      whole _ (by dsimp only; omega)]
  · rw [List.cons_append, List.cons_append, List.cons_append, List.singleton_append,
      piecesFrom_of_start (start_four (by omega) (by omega)) (by omega),
      piecesFrom_of_owed (by dsimp only; omega) (by dsimp only; split_ifs <;> omega)
        (by dsimp only; split_ifs <;> omega) (by omega),
      piecesFrom_of_owed (by dsimp only; omega) (by dsimp only; omega) (by dsimp only; omega)
        (by omega),
      piecesFrom_of_last rfl (by dsimp only; omega) (by dsimp only; omega) (by omega),
      whole _ (by dsimp only; omega)]

/-- The bytes of a text spell its characters. -/
theorem pieces_encode (s : String) : pieces (encode s) = s.toList.map some := by
  rw [pieces, encode]
  induction s.toList with
  | nil => rfl
  | cons c cs ih => rw [List.flatMap_cons, piecesFrom_encodeChar, ih, List.map_cons]

end BattleMaps.Text.Utf8
