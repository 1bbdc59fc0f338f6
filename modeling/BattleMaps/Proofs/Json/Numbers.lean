import BattleMaps.Json.Reader
import BattleMaps.Json.Writer
import BattleMaps.Proofs.Decimal.Layout
import BattleMaps.Proofs.Decimal.Shortest

/-!
# Written numbers read back

The reader takes a number apart into a sign, a whole part, a fraction and an exponent, each as
long as it can be. If what follows the number can be part of none of them, the parts are those
that were written, so integers and doubles come back as they were.

## Main definitions

* `EndsNumber` — whether no number goes on with a text
* `signChars`, `pointed` — a sign and a fraction, where they are written

## Main results

* `readNumber_int` — a written integer is read as itself
* `readNumber_numeral` — a numeral is read as the double nearest to it
* `readAtom_real` — a written double is read as itself
-/

namespace BattleMaps.Json

open Decimal (Numeral exponentText)

/-- Whether no number goes on with a text. -/
def EndsNumber (rest : List Char) : Prop :=
  ∀ c ∈ rest.head?, c.isDigit = false ∧ c ≠ '.' ∧ c ≠ 'e' ∧ c ≠ 'E'

/-- The sign in front of a number. -/
def signChars (negative : Bool) : List Char := if negative then ['-'] else []

variable {negative : Bool} {whole fraction exponent rest : List Char} {pos : Nat} {e : Int}

/-! ## The sign -/

/-- A sign is told by its character; no digit is taken for one. -/
theorem head?_signChars {cs : List Char} (digit : ∀ c ∈ cs.head?, c.isDigit) :
    ((signChars negative ++ cs).head? == some '-') = negative := by
  cases negative with
  | true => rfl
  | false =>
    rw [signChars, if_neg Bool.false_ne_true, List.nil_append, beq_eq_false_iff_ne]
    exact fun minus => absurd (digit '-' minus) (by decide)

theorem drop_signChars {cs : List Char} :
    (if negative then (signChars negative ++ cs).drop 1 else signChars negative ++ cs) = cs := by
  cases negative <;> rfl

theorem length_signChars : (signChars negative).length = if negative then 1 else 0 := by
  cases negative <;> rfl

/-! ## The parts -/

theorem wholePart_append (digits : ∀ c ∈ whole, c.isDigit)
    (lead : whole = ['0'] ∨ whole ≠ [] ∧ whole.head? ≠ some '0')
    (stop : ∀ c ∈ rest.head?, c.isDigit = false) : wholePart (whole ++ rest) = whole := by
  -- A lone zero ends the whole part at once; any other digit goes on with the digits behind it.
  rcases lead with rfl | ⟨filled, lead⟩
  · rfl
  · obtain ⟨c, cs, rfl⟩ := List.exists_cons_of_ne_nil filled
    have read := Text.takeWhile_isAsciiDigit_append digits stop
    rw [List.cons_append, wholePart.eq_2]
    · exact read
    · intro tail same
      exact lead (congrArg some (List.cons.inj same).1)

theorem fractionPart_append (digits : ∀ c ∈ fraction, c.isDigit) (filled : fraction ≠ [])
    (stop : ∀ c ∈ rest.head?, c.isDigit = false) :
    fractionPart ('.' :: fraction ++ rest) = '.' :: fraction := by
  have read : digitsOf (fraction ++ rest) = fraction :=
    Text.takeWhile_isAsciiDigit_append digits stop
  rw [List.cons_append, fractionPart]
  simp only [read]

theorem fractionPart_eq_nil (stop : ∀ c ∈ rest.head?, c ≠ '.') : fractionPart rest = [] := by
  cases rest with
  | nil => rfl
  | cons c rest => exact fractionPart.eq_2 _ fun _ same => stop c rfl (List.cons.inj same).1

theorem exponentPart_eq_nil (stop : ∀ c ∈ rest.head?, c ≠ 'e' ∧ c ≠ 'E') :
    exponentPart rest = [] := by
  cases rest with
  | nil => rfl
  | cons c rest =>
    obtain ⟨small, capital⟩ := stop c rfl
    exact if_neg (not_or.mpr ⟨small, capital⟩)

/-- The digits of an exponent, at least two of them. -/
theorem exists_exponentText (e : Int) :
    ∃ digits : List Char, exponentText e = 'e' :: (if e < 0 then '-' else '+') :: digits ∧
      digits ≠ [] ∧ (∀ c ∈ digits, c.isDigit) ∧ Nat.ofDigitChars 10 digits 0 = e.natAbs := by
  have spelled : (toString e.natAbs).toList = Nat.toDigits 10 e.natAbs := by
    rw [Nat.toString_eq_repr, Nat.toList_repr]
  refine ⟨_, rfl, ?_, ?_, ?_⟩ <;> rw [spelled] <;> split_ifs
  · simp
  · exact Nat.toDigits_ne_nil
  · intro c member
    rcases List.mem_cons.mp member with rfl | member
    · rfl
    · exact Text.isDigit_of_mem_toDigits member
  · exact fun c => Text.isDigit_of_mem_toDigits
  · rw [Nat.ofDigitChars_cons]
    exact Nat.ofDigitChars_ten_toDigits
  · exact Nat.ofDigitChars_ten_toDigits

theorem exponentPart_exponentText (stop : ∀ c ∈ rest.head?, c.isDigit = false) :
    exponentPart (exponentText e ++ rest) = exponentText e := by
  obtain ⟨digits, spelled, filled, isDigit, -⟩ := exists_exponentText e
  have read : digitsOf (digits ++ rest) = digits := Text.takeWhile_isAsciiDigit_append isDigit stop
  rw [spelled]
  split_ifs
  all_goals
    unfold exponentPart
    simp [read]

theorem splitDigits_eq {digits : List Char} (isDigit : ∀ c ∈ digits, c.isDigit) :
    Decimal.splitDigits digits = (digits.filterMap Text.asciiDigit?, []) := by
  have front : (digits ++ []).takeWhile Text.isAsciiDigit = digits :=
    Text.takeWhile_isAsciiDigit_append isDigit (by simp)
  have back : digits.dropWhile Text.isAsciiDigit = [] := by
    refine List.dropWhile_eq_nil_iff.mpr fun c member => ?_
    rw [Text.isAsciiDigit_eq_isDigit]
    exact isDigit c member
  rw [List.append_nil] at front
  rw [Decimal.splitDigits, front, back]

theorem exponent?_exponentText : Decimal.exponent? (exponentText e) = some e := by
  obtain ⟨digits, spelled, filled, isDigit, value⟩ := exists_exponentText e
  rw [spelled]
  have number := Text.ofDigits_filterMap_asciiDigit? isDigit
  have nonempty : digits.filterMap Text.asciiDigit? ≠ [] := by
    rw [Text.filterMap_asciiDigit? isDigit]
    simpa using filled
  obtain ⟨n, ns, values⟩ := List.exists_cons_of_ne_nil nonempty
  split_ifs with negative
  all_goals
    simp only [Decimal.exponent?, Decimal.splitSign, splitDigits_eq isDigit, values, true_or,
      if_true]
    rw [← values, number, value]
  · exact congrArg some (by omega)
  · exact congrArg some (by rw [if_neg Bool.false_ne_true]; omega)

/-! ## Parts that need not be there -/

/-- A fraction behind its point, which is written only where digits follow it. -/
def pointed (fraction : List Char) : List Char :=
  if fraction.isEmpty then [] else '.' :: fraction

theorem pointed_eq_nil_iff : pointed fraction = [] ↔ fraction = [] := by
  cases fraction <;> simp [pointed]

theorem drop_pointed : (pointed fraction).drop 1 = fraction := by
  cases fraction <;> rfl

theorem fractionPart_pointed (digits : ∀ c ∈ fraction, c.isDigit)
    (stop : ∀ c ∈ rest.head?, c.isDigit = false ∧ c ≠ '.') :
    fractionPart (pointed fraction ++ rest) = pointed fraction := by
  unfold pointed
  split_ifs with empty
  · exact fractionPart_eq_nil fun c head => (stop c head).2
  · exact fractionPart_append digits (by simpa using empty) fun c head => (stop c head).1

/-- A whole part ends in front of a fraction as it does in front of what follows that. -/
theorem noDigit_of_pointed (stop : ∀ c ∈ rest.head?, c.isDigit = false) :
    ∀ c ∈ (pointed fraction ++ rest).head?, c.isDigit = false := by
  unfold pointed
  split_ifs
  · exact stop
  · rintro _ ⟨⟩
    rfl

theorem elim_exponentText_eq_nil_iff {exponent : Option Int} :
    exponent.elim [] exponentText = [] ↔ exponent = none := by
  cases exponent with
  | none => simp
  | some e =>
    obtain ⟨digits, spelled, -⟩ := exists_exponentText e
    simp [spelled]

theorem exponentPart_elim {exponent : Option Int} (stop : EndsNumber rest) :
    exponentPart (exponent.elim [] exponentText ++ rest) = exponent.elim [] exponentText := by
  cases exponent with
  | none => exact exponentPart_eq_nil fun c head => (stop c head).2.2
  | some e => exact exponentPart_exponentText fun c head => (stop c head).1

/-- A fraction ends in front of an exponent as it does in front of what follows that. -/
theorem noDigit_of_elim {exponent : Option Int} (stop : EndsNumber rest) :
    ∀ c ∈ (exponent.elim [] exponentText ++ rest).head?, c.isDigit = false ∧ c ≠ '.' := by
  cases exponent with
  | none => exact fun c head => ⟨(stop c head).1, (stop c head).2.1⟩
  | some e =>
    obtain ⟨digits, spelled, -⟩ := exists_exponentText e
    rw [Option.elim_some, spelled]
    rintro _ ⟨⟩
    decide

theorem chars_eq (n : Numeral) :
    n.chars = n.whole ++ pointed n.fraction ++ n.exponent.elim [] exponentText := rfl

theorem exponent?_elim (exponent : Option Int) :
    (Decimal.exponent? (exponent.elim [] exponentText)).getD 0 = exponent.getD 0 := by
  cases exponent with
  | none => rfl
  | some e => exact congrArg (Option.getD · 0) exponent?_exponentText

/-! ## Whole numbers -/

/-- Taking a number apart gives the parts that it was put together from. -/
theorem readNumber_append (isDigit : ∀ c ∈ whole, c.isDigit)
    (lead : whole = ['0'] ∨ whole ≠ [] ∧ whole.head? ≠ some '0')
    (readWhole : wholePart (whole ++ (fraction ++ (exponent ++ rest))) = whole)
    (readFraction : fractionPart (fraction ++ (exponent ++ rest)) = fraction)
    (readExponent : exponentPart (exponent ++ rest) = exponent) :
    readNumber ⟨signChars negative ++ (whole ++ (fraction ++ (exponent ++ rest))), pos⟩ =
      let n := Text.ofDigits (whole.filterMap Text.asciiDigit?)
      let c : Cursor := ⟨rest, pos + (signChars negative ++ whole ++ fraction ++ exponent).length⟩
      if fraction = [] ∧ exponent = [] then
        if whole.length > Decimal.maxIntegerDigits then .error (.longInteger whole.length)
        else .ok (.int (if negative then -n else n), c)
      else
        .ok (.real (Decimal.ofScientific negative
          (Text.ofDigits (whole.filterMap Text.asciiDigit? ++
            (fraction.drop 1).filterMap Text.asciiDigit?))
          ((Decimal.exponent? exponent).getD 0 -
            ((fraction.drop 1).filterMap Text.asciiDigit?).length)), c) := by
  have filled : whole ≠ [] := by
    rcases lead with rfl | ⟨filled, -⟩
    · simp
    · exact filled
  have digit : ∀ c ∈ (whole ++ (fraction ++ (exponent ++ rest))).head?, c.isDigit := by
    intro c head
    rw [List.head?_append_of_ne_nil _ filled] at head
    exact isDigit c (List.mem_of_mem_head? head)
  have afterFraction : (whole ++ (fraction ++ (exponent ++ rest))).drop
      (whole.length + fraction.length) = exponent ++ rest := by
    rw [← List.append_assoc, ← List.length_append, List.drop_left]
  -- The reader drops the parts by their lengths, all at once.
  have after : Cursor.drop ⟨signChars negative ++ (whole ++ (fraction ++ (exponent ++ rest))), pos⟩
      ((if negative = true then 1 else 0) + whole.length + fraction.length + exponent.length) =
      ⟨rest, pos + (signChars negative ++ whole ++ fraction ++ exponent).length⟩ := by
    rw [← length_signChars, ← List.length_append, ← List.length_append, ← List.length_append,
      Cursor.drop]
    simp only [← List.append_assoc, List.drop_left]
  have count : (whole.filterMap Text.asciiDigit?).length = whole.length := by
    rw [Text.filterMap_asciiDigit? isDigit, List.length_map]
  unfold readNumber
  simp only [head?_signChars digit, drop_signChars, readWhole, List.drop_left, readFraction,
    afterFraction, readExponent, after, count, List.isEmpty_iff, if_neg filled]

theorem toList_toString_int (n : Int) :
    (toString n).toList = signChars (n < 0) ++ Nat.toDigits 10 n.natAbs := by
  cases n with
  | ofNat m =>
    rw [signChars, if_neg (by simp)]
    exact Nat.toList_repr
  | negSucc m =>
    rw [signChars, if_pos (by simp)]
    change ("-" ++ (m + 1).repr).toList = _
    rw [String.toList_append, Nat.toList_repr]
    rfl

/-- A natural number is written with a zero in front only if it is zero. -/
theorem lead_toDigits (n : Nat) :
    Nat.toDigits 10 n = ['0'] ∨ Nat.toDigits 10 n ≠ [] ∧ (Nat.toDigits 10 n).head? ≠ some '0' := by
  rcases n.eq_zero_or_pos with rfl | pos
  · exact .inl rfl
  · exact .inr ⟨Nat.toDigits_ne_nil, Text.head_toDigits_ne_zero pos⟩

/-- A written integer is read as itself, if it has few enough digits. -/
theorem readNumber_int {n : Int} (stop : EndsNumber rest) :
    readNumber ⟨(toString n).toList ++ rest, pos⟩ =
      if isShort n then .ok (.int n, ⟨rest, pos + (toString n).length⟩)
      else .error (.longInteger (Nat.toDigits 10 n.natAbs).length) := by
  have isDigit := fun c => Text.isDigit_of_mem_toDigits (c := c) (n := n.natAbs)
  have read := @readNumber_append (n < 0) _ [] [] rest pos
    isDigit (lead_toDigits n.natAbs)
    (wholePart_append isDigit (lead_toDigits n.natAbs) fun c head => (stop c head).1)
    (fractionPart_eq_nil fun c head => (stop c head).2.1)
    (exponentPart_eq_nil fun c head => (stop c head).2.2)
  simp only [List.nil_append, List.append_nil, ← List.append_assoc, ← toList_toString_int,
    Text.ofDigits_filterMap_asciiDigit? isDigit, Nat.ofDigitChars_ten_toDigits, and_self, if_true,
    String.length_toList] at read
  have signed : (if decide (n < 0) = true then -(n.natAbs : Int) else n.natAbs) = n := by
    split_ifs with negative <;> simp only [decide_eq_true_eq] at negative <;> omega
  -- Reading refuses the integers that writing refuses, since a sign counts for neither.
  have limit : isShort n ↔ ¬ (Nat.toDigits 10 n.natAbs).length > Decimal.maxIntegerDigits := by
    rw [isShort, ← String.length_toList, Nat.toString_eq_repr, Nat.toList_repr,
      decide_eq_true_eq, not_lt]
  rw [read, signed, if_congr limit rfl rfl, ite_not]

/-- A numeral is read as the double nearest to it. -/
theorem readNumber_numeral {n : Numeral} (form : n.WellFormed) (stop : EndsNumber rest) :
    readNumber ⟨signChars negative ++ n.chars ++ rest, pos⟩ =
      .ok (.real (Decimal.ofScientific negative n.digits n.place),
        ⟨rest, pos + (signChars negative ++ n.chars).length⟩) := by
  obtain ⟨whole, fraction, exponent⟩ := n
  obtain ⟨wholeDigit, fractionDigit, lead, isReal⟩ := form
  dsimp only at *
  -- Each part ends where the next one starts, so what follows is known back to front: first behind
  -- the fraction, then behind the whole part.
  have behindFraction : ∀ c ∈ (exponent.elim [] exponentText ++ rest).head?,
      c.isDigit = false ∧ c ≠ '.' := noDigit_of_elim stop
  have behindWhole : ∀ c ∈ (pointed fraction ++ (exponent.elim [] exponentText ++ rest)).head?,
      c.isDigit = false := noDigit_of_pointed fun c head => (behindFraction c head).1
  have read := @readNumber_append negative _ _ _ rest pos wholeDigit lead
    (wholePart_append wholeDigit lead behindWhole)
    (fractionPart_pointed fractionDigit behindFraction) (exponentPart_elim stop)
  -- A numeral with neither a fraction nor an exponent would be read as an integer.
  have notInteger : ¬ (pointed fraction = [] ∧ exponent.elim [] exponentText = []) := by
    rw [pointed_eq_nil_iff, elim_exponentText_eq_nil_iff]
    rintro ⟨rfl, rfl⟩
    simp at isReal
  have allDigit : ∀ c ∈ whole ++ fraction, c.isDigit := fun c member =>
    (List.mem_append.mp member).elim (wholeDigit c) (fractionDigit c)
  have count : (fraction.filterMap Text.asciiDigit?).length = fraction.length := by
    rw [Text.filterMap_asciiDigit? fractionDigit, List.length_map]
  dsimp only at read
  rw [if_neg notInteger, drop_pointed, ← List.filterMap_append,
    Text.ofDigits_filterMap_asciiDigit? allDigit, count, exponent?_elim] at read
  rw [chars_eq, Numeral.digits, Numeral.place]
  simpa only [List.append_assoc] using read

/-! ## Words and numbers -/

/-- What starts like a number is none of the words. -/
theorem readAtom_eq_readNumber {cs : List Char} (start : ∃ c ∈ cs.head?, c.isDigit) :
    readAtom ⟨signChars negative ++ cs, pos⟩ = readNumber ⟨signChars negative ++ cs, pos⟩ := by
  obtain ⟨c, head, digit⟩ := start
  obtain ⟨rest, rfl⟩ := List.head?_eq_some_iff.mp head
  have apart : 'n' ≠ c ∧ 't' ≠ c ∧ 'f' ≠ c ∧ 'N' ≠ c ∧ 'I' ≠ c ∧ '-' ≠ c := by
    refine ⟨?_, ?_, ?_, ?_, ?_, ?_⟩ <;> rintro rfl <;> exact absurd digit (by decide)
  have notWord : literals.find? (fun literal =>
      literal.1.isPrefixOf (signChars negative ++ c :: rest)) = none := by
    cases negative <;> simp [literals, signChars, List.isPrefixOf, apart]
  rw [readAtom]
  simp only [notWord]

theorem exists_cons_toDigits (n : Nat) : ∃ c cs, Nat.toDigits 10 n = c :: cs ∧ c.isDigit := by
  obtain ⟨c, cs, digits⟩ := List.exists_cons_of_ne_nil (Nat.toDigits_ne_nil (n := n) (b := 10))
  have member : c ∈ Nat.toDigits 10 n := digits ▸ List.mem_cons_self ..
  exact ⟨c, cs, digits, Text.isDigit_of_mem_toDigits member⟩

theorem exists_cons_chars {n : Numeral} (form : n.WellFormed) :
    ∃ c cs, n.chars = c :: cs ∧ c.isDigit := by
  have filled : n.whole ≠ [] := by
    rcases form.lead with zero | ⟨filled, -⟩
    · rw [zero]
      exact List.cons_ne_nil _ _
    · exact filled
  obtain ⟨c, cs, digits⟩ := List.exists_cons_of_ne_nil filled
  have digit := form.whole_isDigit c (digits ▸ List.mem_cons_self ..)
  exact ⟨c, _, by rw [Numeral.chars, digits]; rfl, digit⟩

/-- A written integer is read as itself, if it has few enough digits. -/
theorem readAtom_int {n : Int} (stop : EndsNumber rest) :
    readAtom ⟨(toString n).toList ++ rest, pos⟩ =
      if isShort n then .ok (.int n, ⟨rest, pos + (toString n).length⟩)
      else .error (.longInteger (Nat.toDigits 10 n.natAbs).length) := by
  rw [← readNumber_int stop, toList_toString_int, List.append_assoc]
  obtain ⟨c, cs, digits, digit⟩ := exists_cons_toDigits n.natAbs
  exact readAtom_eq_readNumber ⟨c, by simp [digits], digit⟩

/-- A written finite double is a numeral that is read as the double. -/
theorem exists_numeral_render {x : Float} {b : Decimal.Binary}
    (finite : Decimal.valueOf x = .finite b) :
    ∃ n : Numeral, n.WellFormed ∧
      (Decimal.render numberWords x).toList = signChars b.negative ++ n.chars ∧
      Decimal.ofScientific b.negative n.digits n.place = x := by
  have lead : (Decimal.shortest b).digits ≠ 0 ∨ (Decimal.shortest b).exp = 0 := by
    by_cases zero : b.m = 0
    · exact .inr (by rw [Decimal.shortest_zero zero])
    · obtain ⟨canonical, -⟩ := Decimal.canonical_of_valueOf_eq_finite finite zero
      exact .inl (Decimal.digits_ne_zero_of_covers canonical (Decimal.covers_shortest canonical))
  obtain ⟨n, form, layout, same⟩ := Decimal.spells_layout lead
  refine ⟨n, form, ?_, ?_⟩
  · rw [Decimal.render, finite, ← layout]
    cases negative : b.negative <;> simp [signChars, negative]
  · by_cases zero : b.m = 0
    -- Zero has no interval, but a numeral of the value zero has no other digits.
    · have nothing : n.digits = 0 := by
        have ten : (10 : ℚ) ^ n.place ≠ 0 := by positivity
        rw [Decimal.shortest_zero zero, Numeral.value, Decimal.Dec.value, Nat.cast_zero,
          zero_mul] at same
        exact_mod_cast (mul_eq_zero.mp same).resolve_right ten
      rw [nothing, Decimal.ofScientific_zero finite zero]
    · exact Decimal.ofScientific_eq_of_value_eq finite zero same

/-- A written double is read as itself. -/
theorem readAtom_real {x : Float} (stop : EndsNumber rest) :
    readAtom ⟨(Decimal.render numberWords x).toList ++ rest, pos⟩ =
      .ok (.real x, ⟨rest, pos + (Decimal.render numberWords x).length⟩) := by
  cases value : Decimal.valueOf x with
  | nan =>
    rw [Decimal.render, value, ← Decimal.ofBits_nan value]
    rfl
  | infinite negative =>
    rw [Decimal.render, value, ← Decimal.ofScientific_infinite value]
    cases negative <;> rfl
  | finite b =>
    obtain ⟨n, form, chars, back⟩ := exists_numeral_render value
    obtain ⟨c, cs, spelled, digit⟩ := exists_cons_chars form
    rw [← String.length_toList, chars, List.append_assoc,
      readAtom_eq_readNumber ⟨c, by rw [spelled]; rfl, digit⟩, ← List.append_assoc,
      readNumber_numeral form stop, back]

end BattleMaps.Json
