import BattleMaps.Proofs.Json.RoundTrip

/-!
# The characters of written values

Whatever a value holds, its text consists of printable ASCII characters: texts are escaped, and
words and numbers are spelled with few characters anyway.

## Main definitions

* `isAtomChar` — the characters of words and numbers
* `isPrintable` — the printable ASCII characters

## Main results

* `isAtomChar_of_mem_writeChars` — words and numbers are spelled with the characters for them
* `isPrintable_of_mem_writeChars` — every written value is printable
-/

namespace BattleMaps.Json

variable {c : Char} {v : Json} {depth n : Nat} {parts : List (List Char)}

/-- The characters that words and numbers are spelled with. -/
def isAtomChar (c : Char) : Bool := c.isAlphanum || ['+', '-', '.'].contains c

/-- The printable ASCII characters. -/
def isPrintable (c : Char) : Bool := ' ' ≤ c && c ≤ '~'

/-- Whether a value is written as a word or a number. -/
def isAtom : Json → Bool
  | .null | .bool _ | .int _ | .real _ => true
  | _ => false

/-! ## Words and numbers -/

theorem isAtomChar_of_isDigit (digit : c.isDigit) : isAtomChar c := by
  simp [isAtomChar, Char.isAlphanum, digit]

theorem isAtomChar_of_mem_signChars {negative : Bool} (found : c ∈ signChars negative) :
    isAtomChar c := by
  cases negative with
  | true =>
    obtain rfl := List.mem_singleton.mp found
    decide
  | false => contradiction

theorem isAtomChar_of_mem_toString_int {m : Int} (found : c ∈ (toString m).toList) :
    isAtomChar c := by
  rw [toList_toString_int, List.mem_append] at found
  rcases found with sign | digit
  · exact isAtomChar_of_mem_signChars sign
  · exact isAtomChar_of_isDigit (Text.isDigit_of_mem_toDigits digit)

theorem isAtomChar_of_mem_exponentText {e : Int} (found : c ∈ Decimal.exponentText e) :
    isAtomChar c := by
  obtain ⟨digits, spelled, -, isDigit, -⟩ := exists_exponentText e
  rw [spelled, List.mem_cons, List.mem_cons] at found
  rcases found with rfl | rfl | digit
  · decide
  · split_ifs <;> decide
  · exact isAtomChar_of_isDigit (isDigit c digit)

theorem isAtomChar_of_mem_numeral {m : Decimal.Numeral} (form : m.WellFormed)
    (found : c ∈ m.chars) : isAtomChar c := by
  rw [Decimal.Numeral.chars, List.mem_append, List.mem_append] at found
  rcases found with (whole | fraction) | exponent
  · exact isAtomChar_of_isDigit (form.whole_isDigit c whole)
  · split_ifs at fraction
    · contradiction
    · rcases List.mem_cons.mp fraction with rfl | digit
      · decide
      · exact isAtomChar_of_isDigit (form.fraction_isDigit c digit)
  · cases given : m.exponent with
    | none => simp [given] at exponent
    | some e =>
      rw [given] at exponent
      exact isAtomChar_of_mem_exponentText exponent

theorem isAtomChar_of_mem_render {x : Float}
    (found : c ∈ (Decimal.render numberWords x).toList) : isAtomChar c := by
  cases value : Decimal.valueOf x with
  | nan =>
    rw [Decimal.render, value] at found
    have word : numberWords.nan.toList.all isAtomChar := by decide
    exact List.all_eq_true.mp word c found
  | infinite negative =>
    rw [Decimal.render, value] at found
    have word : ((if negative then "-" else "") ++ numberWords.infinity).toList.all isAtomChar := by
      cases negative <;> decide
    exact List.all_eq_true.mp word c found
  | finite b =>
    obtain ⟨m, form, chars, -⟩ := exists_numeral_render value
    rw [chars, List.mem_append] at found
    rcases found with sign | number
    · exact isAtomChar_of_mem_signChars sign
    · exact isAtomChar_of_mem_numeral form number

/-- Words and numbers are spelled with the characters for them. -/
theorem isAtomChar_of_mem_writeChars (atom : v.isAtom) (found : c ∈ writeChars v) :
    isAtomChar c := by
  cases v with
  | null =>
    have word : (writeChars .null).all isAtomChar := by decide
    exact List.all_eq_true.mp word c found
  | bool b =>
    have word : (writeChars (.bool b)).all isAtomChar := by cases b <;> decide
    exact List.all_eq_true.mp word c found
  | int m =>
    rw [writeChars] at found
    exact isAtomChar_of_mem_toString_int found
  | real x =>
    rw [writeChars] at found
    exact isAtomChar_of_mem_render found
  | _ => contradiction

/-! ## Texts -/

/-- An escape consists of a backslash and characters that a word could have. -/
theorem eq_or_isAtomChar_of_mem_unitEscape (found : c ∈ unitEscape n) :
    c = '\\' ∨ isAtomChar c := by
  have isHex : ∀ m < 16, isAtomChar (Text.Hex.lowerDigit m) := by decide
  rw [unitEscape, lower_four] at found
  simp only [List.mem_cons, List.not_mem_nil, or_false] at found
  rcases found with rfl | rfl | rfl | rfl | rfl | rfl
  · exact .inl rfl
  · exact .inr (by decide)
  all_goals exact .inr (isHex _ (Nat.mod_lt _ (by decide)))

/-- A character is written as itself, or as an escape. -/
theorem mem_writeChar {d : Char} (found : d ∈ writeChar c) :
    d = c ∧ isPrintable c ∨ d = '\\' ∨ isAtomChar d := by
  have short (letter : Char) (known : isAtomChar letter) (found : d ∈ ['\\', letter]) :
      d = c ∧ isPrintable c ∨ d = '\\' ∨ isAtomChar d := by
    rcases List.mem_cons.mp found with rfl | found
    · exact .inr (.inl rfl)
    · obtain rfl := List.mem_singleton.mp found
      exact .inr (.inr known)
  unfold writeChar at found
  split_ifs at found with special newline ret tab back feed visible small
  · rcases List.mem_cons.mp found with rfl | found
    · exact .inr (.inl rfl)
    · obtain rfl := List.mem_singleton.mp found
      exact .inl ⟨rfl, by rcases special with rfl | rfl <;> decide⟩
  · exact short 'n' (by decide) found
  · exact short 'r' (by decide) found
  · exact short 't' (by decide) found
  · exact short 'b' (by decide) found
  · exact short 'f' (by decide) found
  · obtain rfl := List.mem_singleton.mp found
    exact .inl ⟨rfl, by simpa [isPrintable] using visible⟩
  · exact .inr (eq_or_isAtomChar_of_mem_unitEscape found)
  · rcases List.mem_append.mp found with first | second
    · exact .inr (eq_or_isAtomChar_of_mem_unitEscape first)
    · exact .inr (eq_or_isAtomChar_of_mem_unitEscape second)

/-! ## Whole values -/

theorem isPrintable_of_isAtomChar (atom : isAtomChar c) : isPrintable c := by
  simp only [isAtomChar, Char.isAlphanum, Char.isAlpha, Char.isUpper, Char.isLower, Char.isDigit,
    Bool.or_eq_true, Bool.and_eq_true, decide_eq_true_eq, UInt32.le_iff_toNat_le, ge_iff_le,
    List.contains_iff_mem, List.mem_cons, List.not_mem_nil, or_false] at atom
  simp only [isPrintable, Bool.and_eq_true, decide_eq_true_eq, Char.le_def, UInt32.le_iff_toNat_le]
  change (((65 ≤ c.toNat ∧ c.toNat ≤ 90) ∨ 97 ≤ c.toNat ∧ c.toNat ≤ 122) ∨
    48 ≤ c.toNat ∧ c.toNat ≤ 57) ∨ c = '+' ∨ c = '-' ∨ c = '.' at atom
  change 32 ≤ c.toNat ∧ c.toNat ≤ 126
  rcases atom with ((upper | lower) | digit) | rfl | rfl | rfl
  · omega
  · omega
  · omega
  all_goals decide

theorem isPrintable_of_mem_writeText {s : String} (found : c ∈ writeText s) : isPrintable c := by
  simp only [writeText, List.mem_cons, List.mem_append, List.mem_flatMap, List.not_mem_nil,
    or_false] at found
  rcases found with (rfl | ⟨d, -, written⟩) | rfl
  · decide
  · rcases mem_writeChar written with ⟨rfl, plain⟩ | rfl | atom
    · exact plain
    · decide
    · exact isPrintable_of_isAtomChar atom
  · decide

theorem mem_commaSeparated (found : c ∈ commaSeparated parts) :
    c = ',' ∨ ∃ part ∈ parts, c ∈ part := by
  induction parts with
  | nil => contradiction
  | cons first others ih =>
    cases others with
    | nil => exact .inr ⟨first, List.mem_singleton_self _, found⟩
    | cons next others =>
      rw [commaSeparated_cons_cons, List.mem_append, List.mem_cons] at found
      rcases found with there | rfl | found
      · exact .inr ⟨first, List.mem_cons_self .., there⟩
      · exact .inl rfl
      · rcases ih found with rfl | ⟨part, listed, there⟩
        · exact .inl rfl
        · exact .inr ⟨part, List.mem_cons_of_mem _ listed, there⟩

/-- Every written value is printable. -/
theorem isPrintable_of_mem_writeChars (regular : Regular depth v) (found : c ∈ writeChars v) :
    isPrintable c := by
  induction regular generalizing c with
  | text s =>
    rw [writeChars] at found
    exact isPrintable_of_mem_writeText found
  | array inside ih =>
    rw [writeChars_array] at found
    simp only [List.mem_cons, List.mem_append, List.not_mem_nil, or_false] at found
    rcases found with rfl | found | rfl
    · decide
    · rcases mem_commaSeparated found with rfl | ⟨part, listed, there⟩
      · decide
      · obtain ⟨item, member, rfl⟩ := List.mem_map.mp listed
        exact ih item member there
    · decide
  | object distinct inside ih =>
    rw [writeChars_object] at found
    simp only [List.mem_cons, List.mem_append, List.not_mem_nil, or_false] at found
    rcases found with rfl | found | rfl
    · decide
    · rcases mem_commaSeparated found with rfl | ⟨part, listed, there⟩
      · decide
      · obtain ⟨m, member, rfl⟩ := List.mem_map.mp listed
        rw [writeMember, List.mem_append, List.mem_cons] at there
        rcases there with key | rfl | value
        · exact isPrintable_of_mem_writeText key
        · decide
        · exact ih m (mem_sortByKey.mp member) value
    · decide
  | _ => exact isPrintable_of_isAtomChar (isAtomChar_of_mem_writeChars rfl found)

theorem toList_write : v.write.toList = writeChars v := by rw [write, String.toList_ofList]

theorem isPrintable_of_mem_write (regular : Regular depth v) (found : c ∈ v.write.toList) :
    isPrintable c := by
  rw [toList_write] at found
  exact isPrintable_of_mem_writeChars regular found

end BattleMaps.Json
