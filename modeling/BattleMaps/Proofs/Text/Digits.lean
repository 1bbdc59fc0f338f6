import BattleMaps.Text.Digit
import Mathlib.Data.Char
import Mathlib.Data.List.Basic
import Mathlib.Data.List.TakeWhile
import Mathlib.Tactic.IntervalCases

/-!
# Decimal numerals

Numbers are written by the standard library and read by the functions of this one. Both mean the
same by a decimal digit and by a list of digits.

## Main results

* `isAsciiDigit_eq_isDigit` — the two notions of a digit agree
* `ofDigits_filterMap_asciiDigit?` — the two readings of a list of digits agree
* `head_toDigits_ne_zero` — a positive number is written without a leading zero
-/

namespace BattleMaps.Text

variable {c : Char} {cs rest : List Char} {n : Nat}

theorem isAsciiDigit_eq_isDigit : isAsciiDigit c = c.isDigit := by
  simp [isAsciiDigit, Char.isDigit, Char.le_def]

theorem asciiDigit?_of_isDigit (digit : c.isDigit) :
    asciiDigit? c = some (c.toNat - '0'.toNat) := by
  rw [← isAsciiDigit_eq_isDigit] at digit
  simp only [isAsciiDigit, Bool.and_eq_true, decide_eq_true_eq] at digit
  exact if_pos digit

/-- The values of digits, one for each. -/
theorem filterMap_asciiDigit? (digits : ∀ c ∈ cs, c.isDigit) :
    cs.filterMap asciiDigit? = cs.map fun c => c.toNat - '0'.toNat := by
  induction cs with
  | nil => rfl
  | cons c rest ih =>
    rw [List.filterMap_cons, asciiDigit?_of_isDigit (digits c (List.mem_cons_self ..)),
      List.map_cons, ih fun c member => digits c (List.mem_cons_of_mem _ member)]

/-- The two readings of a list of digits agree. -/
theorem ofDigits_filterMap_asciiDigit? (digits : ∀ c ∈ cs, c.isDigit) :
    ofDigits (cs.filterMap asciiDigit?) = Nat.ofDigitChars 10 cs 0 := by
  rw [filterMap_asciiDigit? digits, ofDigits, List.foldl_map, Nat.ofDigitChars]

theorem isDigit_of_mem_toDigits (member : c ∈ Nat.toDigits 10 n) : c.isDigit :=
  Nat.isDigit_of_mem_toDigits (by decide) (by decide) member

/-- A positive number is written without a leading zero. -/
theorem head_toDigits_ne_zero (pos : 0 < n) : (Nat.toDigits 10 n).head? ≠ some '0' := by
  induction n using Nat.strongRecOn with
  | ind n ih =>
    -- The first digit is that of the tenth part, down to a single digit.
    by_cases small : n < 10
    · interval_cases n <;> decide
    · rw [Nat.toDigits_of_base_le (by decide) (by omega),
        List.head?_append_of_ne_nil _ Nat.toDigits_ne_nil]
      exact ih (n / 10) (by omega) (by omega)

/-- The digits in front of a text that goes on with something else. -/
theorem takeWhile_isAsciiDigit_append (digits : ∀ c ∈ cs, c.isDigit)
    (stop : ∀ c ∈ rest.head?, c.isDigit = false) : (cs ++ rest).takeWhile isAsciiDigit = cs := by
  rw [List.takeWhile_append_of_pos (fun c member => by
    rw [isAsciiDigit_eq_isDigit]; exact digits c member)]
  cases rest with
  | nil => simp
  | cons c rest => simp [isAsciiDigit_eq_isDigit, stop c rfl]

end BattleMaps.Text
