import BattleMaps.Json.Lenient
import BattleMaps.Proofs.Decimal.Integers
import BattleMaps.Proofs.Json.Numbers
import BattleMaps.Proofs.Text.Trim

/-!
# Integers that come as texts

A text of digits is read as a double, so what it is taken for is the nearest double of the integer
that it spells. Blanks around the digits are passed over.

## Main definitions

* `Decimal.IsPlain` — whether a character stands for itself in a numeral

## Main results

* `Decimal.numeral?_of_isPlain` — a text of plain characters is a numeral as it stands
* `Decimal.signed?_digits` — digits after a sign spell the double nearest to their number
* `Json.wholeNumber?_text` — what a text of digits is taken for
* `Json.wholeNumber?_text_eq_self_iff` — which texts of digits are taken for what they spell
-/

namespace BattleMaps

variable {s : String} {cs : List Char} {c : Char} {n : Int}

/-! ## Numerals -/

theorem Text.bounds_of_isDigit (digit : c.isDigit) : 0x30 ≤ c.toNat ∧ c.toNat ≤ 0x39 := by
  simpa [Char.isDigit, UInt32.le_iff_toNat_le] using digit

/-- A digit has no lower case of its own. -/
theorem Text.toLower_of_isDigit (digit : c.isDigit) : c.toLower = c := by
  have bounds := bounds_of_isDigit digit
  have notUpper : ¬ (c.val ≥ 'A'.val ∧ c.val ≤ 'Z'.val) := by
    rw [ge_iff_le, UInt32.le_iff_toNat_le, UInt32.le_iff_toNat_le]
    change ¬ (65 ≤ c.toNat ∧ c.toNat ≤ 90)
    omega
  rw [Char.toLower]
  exact dif_neg notUpper

namespace Decimal

/-- Whether a character is visible, ASCII and no underscore. -/
def IsPlain (c : Char) : Prop := 0x21 ≤ c.toNat ∧ c.toNat ≤ 0x7E ∧ c ≠ '_'

theorem isPlain_of_isDigit (digit : c.isDigit) : IsPlain c := by
  have bounds := Text.bounds_of_isDigit digit
  refine ⟨by omega, by omega, ?_⟩
  rintro rfl
  exact absurd digit (by decide)

theorem toAsciiNumeral_of_isPlain (plain : IsPlain c) : toAsciiNumeral c = c :=
  if_pos (by have := plain.2.1; omega)

theorem isAsciiBlank_of_isPlain (plain : IsPlain c) : isAsciiBlank c = false := by
  obtain ⟨low, -, -⟩ := plain
  have notSpace : c ≠ ' ' := by
    rintro rfl
    exact absurd low (by decide)
  have notControl : ¬ c ≤ '\r' := by
    rw [Char.le_def, UInt32.le_iff_toNat_le]
    change ¬ c.toNat ≤ 13
    omega
  simp [isAsciiBlank, notSpace, notControl]

/-- Without underscores there is nothing to ungroup. -/
theorem ungroup_of_isPlain {before : Bool} (plain : ∀ c ∈ cs, IsPlain c) :
    ungroup before cs = some cs := by
  induction cs generalizing before with
  | nil => rfl
  | cons c rest ih =>
    rw [ungroup, ih fun d member => plain d (List.mem_cons_of_mem _ member)]
    · rfl
    · exact (plain c (List.mem_cons_self ..)).2.2

/-- A text of visible ASCII characters is a numeral as it stands. -/
theorem numeral?_of_isPlain (plain : ∀ c ∈ s.toList, IsPlain c) : numeral? s = some s.toList := by
  have ascii : s.toList.map toAsciiNumeral = s.toList :=
    (List.map_congr_left fun c member => toAsciiNumeral_of_isPlain (plain c member)).trans
      (List.map_id _)
  have stays : ∀ cs : List Char, (∀ c ∈ cs, IsPlain c) → cs.dropWhile isAsciiBlank = cs := by
    rintro (_ | ⟨c, rest⟩) plain
    · rfl
    · have visible := isAsciiBlank_of_isPlain (plain c (List.mem_cons_self ..))
      exact List.dropWhile_cons_of_neg (by rw [visible]; exact Bool.false_ne_true)
  rw [numeral?, ascii, stays _ plain, stays _ fun c member => plain c (List.mem_reverse.mp member),
    List.reverse_reverse, ungroup_of_isPlain plain]

/-- Digits after a sign spell the double nearest to their number. -/
theorem signed?_digits {negative : Bool} (isDigit : ∀ c ∈ cs, c.isDigit) (filled : cs ≠ []) :
    signed? (Json.signChars negative ++ cs) =
      some (ofScientific negative (Nat.ofDigitChars 10 cs 0) 0) := by
  obtain ⟨c, rest, rfl⟩ := List.exists_cons_of_ne_nil filled
  have digit := isDigit c (List.mem_cons_self ..)
  have sign : splitSign (Json.signChars negative ++ c :: rest) = (negative, c :: rest) := by
    cases negative with
    | true => rfl
    | false =>
      have notMinus : c ≠ '-' := by
        rintro rfl
        exact absurd digit (by decide)
      have notPlus : c ≠ '+' := by
        rintro rfl
        exact absurd digit (by decide)
      change splitSign (c :: rest) = _
      rw [splitSign]
      · exact fun _ same => notMinus (List.cons.inj same).1
      · exact fun _ same => notPlus (List.cons.inj same).1
  -- A word starts with a letter.
  have notWord : ∀ word : String, (∀ d ∈ word.toList.head?, d.isDigit = false) →
      String.ofList ((c :: rest).map Char.toLower) ≠ word := by
    rintro word letter rfl
    rw [String.toList_ofList, List.map_cons, Text.toLower_of_isDigit digit] at letter
    exact absurd digit (by rw [letter c rfl]; exact Bool.false_ne_true)
  have values : (c :: rest).filterMap Text.asciiDigit? ≠ [] := by
    rw [Text.filterMap_asciiDigit? isDigit]
    simp
  rw [signed?, sign]
  dsimp only
  rw [if_neg (not_or.mpr ⟨notWord "inf" (by simp), notWord "infinity" (by simp)⟩),
    if_neg (notWord "nan" (by simp)), unsigned?, Json.splitDigits_eq isDigit]
  simp only [List.isEmpty_iff, values, false_and, if_false, List.append_nil, exponent?,
    Option.map_some, Text.ofDigits_filterMap_asciiDigit? isDigit, List.length_nil, Nat.cast_zero,
    sub_zero]

/-- An integer is written in visible ASCII characters. -/
theorem isPlain_toString (n : Int) : ∀ c ∈ (toString n).toList, IsPlain c := by
  rw [Json.toList_toString_int]
  intro c member
  rcases List.mem_append.mp member with member | member
  · rw [Json.signChars] at member
    split_ifs at member
    · rw [List.mem_singleton.mp member]
      exact ⟨by decide, by decide, by decide⟩
    · exact absurd member List.not_mem_nil
  · exact isPlain_of_isDigit (Text.isDigit_of_mem_toDigits member)

/-- The written form of an integer spells the double nearest to it. -/
theorem ofText?_toString (n : Int) :
    ofText? (toString n) = some (ofScientific (n < 0) n.natAbs 0) := by
  rw [ofText?, numeral?_of_isPlain (isPlain_toString n), Option.bind_some,
    Json.toList_toString_int,
    signed?_digits (fun _ member => Text.isDigit_of_mem_toDigits member) Nat.toDigits_ne_nil,
    Nat.ofDigitChars_ten_toDigits]

end Decimal

/-! ## Texts -/

theorem Text.nonBlank?_toString (n : Int) : nonBlank? (toString n) = some (toString n) := by
  have visible : ∀ c ∈ (toString n).toList, ¬ isBlank c = true := fun c member => by
    obtain ⟨low, high, -⟩ := Decimal.isPlain_toString n c member
    rw [isBlank_eq_false_of_graphic low high]
    exact Bool.false_ne_true
  have trimmed : trimChars (toString n).toList = (toString n).toList :=
    trimChars_eq_self_iff.mpr
      ⟨fun _ => visible _ (List.get_mem _ _), fun _ => visible _ (List.getLast_mem _)⟩
  refine nonBlank?_eq_some_iff.mpr ⟨by rw [trim, trimmed, String.ofList_toList], fun empty => ?_⟩
  have none := congrArg String.toList empty
  rw [Json.toList_toString_int, String.toList_empty, List.append_eq_nil_iff] at none
  exact Nat.toDigits_ne_nil none.2

namespace Json

theorem wholeNumber?_text_eq (padded : Text.IsPadded s (toString n)) :
    (Json.text s).wholeNumber? = Decimal.integer? (Decimal.ofScientific (n < 0) n.natAbs 0) := by
  obtain ⟨trimmed, -⟩ :=
    Text.nonBlank?_eq_some_iff.mp (padded.nonBlank?_eq (Text.nonBlank?_toString n))
  rw [wholeNumber?, trimmed, Decimal.ofText?_toString, Option.bind_some]

/-- A text of digits, with blanks around it or not, is taken for the nearest double of what it
spells, and for nothing where there is none. -/
theorem wholeNumber?_text (padded : Text.IsPadded s (toString n)) :
    (Json.text s).wholeNumber? =
      if n.natAbs < Decimal.overflowBound then some (Decimal.nearestInteger n) else none := by
  rw [wholeNumber?_text_eq padded, Decimal.integer?_ofScientific]

/-- A text of digits is taken for what it spells exactly if that is a double. -/
theorem wholeNumber?_text_eq_self_iff (padded : Text.IsPadded s (toString n)) :
    (Json.text s).wholeNumber? = some n ↔ ∃ x, Decimal.IsInteger x n := by
  rw [wholeNumber?_text_eq padded, Decimal.integer?_ofScientific_eq_self_iff]

end Json

end BattleMaps
