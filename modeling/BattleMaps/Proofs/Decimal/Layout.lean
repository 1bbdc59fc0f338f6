import BattleMaps.Proofs.Decimal.Interval
import BattleMaps.Proofs.Text.Digits

/-!
# Decimals as numerals

The layout of a decimal puts the point somewhere among its digits, pads with zeros, or adds an
exponent. Whatever it does, the text is a numeral, that is a whole part, a fraction and perhaps an
exponent, and the numeral stands for the same number.

## Main definitions

* `Numeral` — digits before and after the point, and an exponent
* `Numeral.WellFormed` — what every reader of numbers accepts as a number with a fraction
* `Spells` — whether a text is a numeral of the value of a decimal

## Main results

* `spells_layout` — a layout is a numeral of the same value
-/

namespace BattleMaps.Decimal

/-- A numeral without its sign. -/
structure Numeral where
  whole : List Char
  fraction : List Char
  exponent : Option Int

namespace Numeral

/-- The text of a numeral. -/
def chars (n : Numeral) : List Char :=
  n.whole ++ (if n.fraction.isEmpty then [] else '.' :: n.fraction) ++
    n.exponent.elim [] exponentText

/-- All digits of a numeral as one natural number. -/
def digits (n : Numeral) : Nat := Nat.ofDigitChars 10 (n.whole ++ n.fraction) 0

/-- The exponent of the last digit. -/
def place (n : Numeral) : Int := n.exponent.getD 0 - n.fraction.length

/-- The number that a numeral stands for. -/
def value (n : Numeral) : ℚ := n.digits * 10 ^ n.place

/-- Whether a numeral has digits in front, no zero in front of others, and a fraction or an
exponent. -/
structure WellFormed (n : Numeral) : Prop where
  whole_isDigit : ∀ c ∈ n.whole, c.isDigit
  fraction_isDigit : ∀ c ∈ n.fraction, c.isDigit
  lead : n.whole = ['0'] ∨ n.whole ≠ [] ∧ n.whole.head? ≠ some '0'
  isReal : n.fraction ≠ [] ∨ n.exponent.isSome

end Numeral

/-- Whether a text is a numeral of the value of a decimal. -/
def Spells (cs : List Char) (d : Dec) : Prop :=
  ∃ n : Numeral, n.WellFormed ∧ cs = n.chars ∧ n.value = d.value

variable {d : Dec} {cs : List Char} {k : Nat}

/-! ## Digits -/

theorem isDigit_of_mem_replicate {c : Char} (member : c ∈ List.replicate k '0') : c.isDigit := by
  rw [List.eq_of_mem_replicate member]
  rfl

/-- Digits that begin like a positive number begin without a zero. -/
theorem lead_of_head?_eq {n : Nat} (pos : 0 < n) (same : cs.head? = (Nat.toDigits 10 n).head?) :
    cs ≠ [] ∧ cs.head? ≠ some '0' := by
  refine ⟨fun empty => ?_, same ▸ Text.head_toDigits_ne_zero pos⟩
  rw [empty, List.head?_nil, eq_comm, List.head?_eq_none_iff] at same
  exact Nat.toDigits_ne_nil same

/-! ## The forms of the layout -/

/-- A numeral whose digits are those of the decimal has its value if its last digit has the place
of the decimal's last digit. -/
theorem Numeral.value_eq {n : Numeral} (digits : n.digits = d.digits) (place : n.place = d.exp) :
    n.value = d.value := by
  rw [value, digits, place, Dec.value]

/-- Zeros behind the digits. -/
theorem spells_padded (exp : d.exp = k) (lead : d.digits ≠ 0 ∨ k = 0) :
    Spells (Nat.toDigits 10 d.digits ++ List.replicate k '0' ++ ['.', '0']) d := by
  refine ⟨⟨Nat.toDigits 10 d.digits ++ List.replicate k '0', ['0'], none⟩, ⟨?_, ?_, ?_, ?_⟩, ?_, ?_⟩
  · intro c member
    rcases List.mem_append.mp member with member | member
    · exact Text.isDigit_of_mem_toDigits member
    · exact isDigit_of_mem_replicate member
  · simp
  · by_cases zero : d.digits = 0
    · obtain rfl := lead.resolve_left (not_not.mpr zero)
      rw [zero]
      exact .inl rfl
    · exact .inr (lead_of_head?_eq (Nat.pos_of_ne_zero zero)
        (List.head?_append_of_ne_nil _ Nat.toDigits_ne_nil))
  · simp
  · simp [Numeral.chars]
  · have digits :
        Nat.ofDigitChars 10 (Nat.toDigits 10 d.digits ++ List.replicate k '0' ++ ['0']) 0 =
          d.digits * 10 ^ k * 10 := by
      simp [Nat.ofDigitChars_append, Nat.ofDigitChars_cons]
      ring
    simp only [Numeral.value, Numeral.digits, Numeral.place, digits, Dec.value, exp]
    push_cast
    simp

/-- The point among the digits. -/
theorem spells_split (pos : 0 < k) (inside : k < (Nat.toDigits 10 d.digits).length)
    (exp : d.exp = k - (Nat.toDigits 10 d.digits).length) (nonzero : d.digits ≠ 0) :
    Spells ((Nat.toDigits 10 d.digits).take k ++ '.' :: (Nat.toDigits 10 d.digits).drop k) d := by
  have filled : (Nat.toDigits 10 d.digits).drop k ≠ [] := by
    rw [ne_eq, List.drop_eq_nil_iff]
    omega
  refine ⟨⟨(Nat.toDigits 10 d.digits).take k, (Nat.toDigits 10 d.digits).drop k, none⟩,
    ⟨?_, ?_, ?_, ?_⟩, ?_, ?_⟩
  · exact fun c member => Text.isDigit_of_mem_toDigits (List.mem_of_mem_take member)
  · exact fun c member => Text.isDigit_of_mem_toDigits (List.mem_of_mem_drop member)
  · refine .inr (lead_of_head?_eq (Nat.pos_of_ne_zero nonzero) ?_)
    rw [List.head?_take, if_neg (by omega)]
  · exact .inl filled
  · simp [Numeral.chars, filled]
  · refine Numeral.value_eq ?_ ?_
    · simp [Numeral.digits]
    · simp [Numeral.place]
      omega

/-- Zeros between the point and the digits. -/
theorem spells_small (exp : d.exp = -(k + (Nat.toDigits 10 d.digits).length)) :
    Spells ('0' :: '.' :: (List.replicate k '0' ++ Nat.toDigits 10 d.digits)) d := by
  refine ⟨⟨['0'], List.replicate k '0' ++ Nat.toDigits 10 d.digits, none⟩, ⟨?_, ?_, ?_, ?_⟩, ?_, ?_⟩
  · simp
  · intro c member
    rcases List.mem_append.mp member with member | member
    · exact isDigit_of_mem_replicate member
    · exact Text.isDigit_of_mem_toDigits member
  · exact .inl rfl
  · simp
  · simp [Numeral.chars]
  · refine Numeral.value_eq ?_ ?_
    · simp [Numeral.digits, Nat.ofDigitChars_append, Nat.ofDigitChars_cons]
    · simp [Numeral.place]
      omega

/-- An exponent behind the digits. -/
theorem spells_scientific (nonzero : d.digits ≠ 0) :
    Spells ((Nat.toDigits 10 d.digits).take 1 ++
      (if ((Nat.toDigits 10 d.digits).drop 1).isEmpty then []
        else '.' :: (Nat.toDigits 10 d.digits).drop 1) ++
      exponentText (d.exp + (Nat.toDigits 10 d.digits).length - 1)) d := by
  have filled : 0 < (Nat.toDigits 10 d.digits).length := Nat.length_toDigits_pos
  refine ⟨⟨(Nat.toDigits 10 d.digits).take 1, (Nat.toDigits 10 d.digits).drop 1,
    some (d.exp + (Nat.toDigits 10 d.digits).length - 1)⟩, ⟨?_, ?_, ?_, ?_⟩, rfl, ?_⟩
  · exact fun c member => Text.isDigit_of_mem_toDigits (List.mem_of_mem_take member)
  · exact fun c member => Text.isDigit_of_mem_toDigits (List.mem_of_mem_drop member)
  · refine .inr (lead_of_head?_eq (Nat.pos_of_ne_zero nonzero) ?_)
    rw [List.head?_take, if_neg (by omega)]
  · exact .inr rfl
  · refine Numeral.value_eq ?_ ?_
    · simp only [Numeral.digits, List.take_append_drop, Nat.ofDigitChars_ten_toDigits]
    · simp only [Numeral.place, Option.getD_some, List.length_drop]
      omega

/-- Every form of the layout is a numeral of the same value. -/
theorem spells_layout (lead : d.digits ≠ 0 ∨ d.exp = 0) : Spells (layout d) d := by
  have digits : (toString d.digits).toList = Nat.toDigits 10 d.digits := by
    rw [Nat.toString_eq_repr, Nat.toList_repr]
  have filled : 0 < (Nat.toDigits 10 d.digits).length := Nat.length_toDigits_pos
  unfold layout
  rw [digits]
  dsimp only
  -- The cases are those of the layout: written out with zeros behind, with the point inside, or
  -- with zeros in front, and otherwise with an exponent.
  by_cases short : -4 ≤ d.exp + (Nat.toDigits 10 d.digits).length - 1 ∧
      d.exp + (Nat.toDigits 10 d.digits).length - 1 < 16
  · rw [if_pos short]
    split_ifs with whole inside
    · exact spells_padded (by omega) (by omega)
    · exact spells_split (by omega) (by omega) (by omega) (by omega)
    · exact spells_small (by omega)
  · rw [if_neg short]
    -- zero is written out, so it never has an exponent
    refine spells_scientific fun zero => short ?_
    rw [lead.resolve_left (not_not.mpr zero), zero]
    decide

end BattleMaps.Decimal
