import BattleMaps.Proofs.Json.Characters
import BattleMaps.Proofs.Success

/-!
# Why a text is refused

The reader refuses a text that is not malformed for one of two reasons only, and both can be seen in
the text without reading it: too many digits stand in a row, or a bracket opens inside of too many
others. Brackets inside texts do not count, so whoever counts brackets has to know where texts begin
and end.

## Main definitions

* `countChar` — counts the brackets that are open, texts aside
* `Passes` — whether a reader that takes some characters leaves as many brackets open as before
* `Sound` — whether a reader passes over what it takes, and has a reason where it stops

## Main results

* `passes_readText` — the reader and the count agree on where texts end
* `sound_readValue` — the reader of values is sound
* `passesLimit_of_read_eq_error` — whatever is refused passes a limit
-/

namespace BattleMaps.Json

variable {α : Type} {k depth fuel start pos n : Nat} {c : Char} {fault : Fault}
  {done cs rest more taken : List Char}

/-! ## Counting brackets -/

def isOpening (c : Char) : Bool := c = '[' || c = '\x7b'

def isClosing (c : Char) : Bool := c = ']' || c = '\x7d'

/-- Whether a character stands outside of texts, in a text, or behind a backslash in a text. -/
inductive Zone where
  | outside
  | inText
  | escaped

/-- What a character changes in the zone and in the number of brackets that are open. -/
def countChar : Zone × Nat → Char → Zone × Nat
  | (.outside, opened), c =>
    if c = '"' then (.inText, opened)
    else if isOpening c then (.outside, opened + 1)
    else if isClosing c then (.outside, opened - 1)
    else (.outside, opened)
  | (.inText, opened), c =>
    if c = '"' then (.outside, opened)
    else if c = '\\' then (.escaped, opened)
    else (.inText, opened)
  | (.escaped, opened), _ => (.inText, opened)

/-- Whether a character is neither a quote nor a bracket. -/
def isInert (c : Char) : Bool := c != '"' && !isOpening c && !isClosing c

theorem countChar_inert (inert : isInert c) : countChar (.outside, k) c = (.outside, k) := by
  simp only [isInert, Bool.and_eq_true, bne_iff_ne, Bool.not_eq_true'] at inert
  obtain ⟨⟨quote, opening⟩, closing⟩ := inert
  simp [countChar, quote, opening, closing]

theorem countChar_opening (opening : isOpening c) :
    countChar (.outside, k) c = (.outside, k + 1) := by
  have apart : c ≠ '"' := by
    rintro rfl
    contradiction
  rw [countChar, if_neg apart, if_pos opening]

theorem countChar_closing (closing : isClosing c) :
    countChar (.outside, k) c = (.outside, k - 1) := by
  have apart : c ≠ '"' := by
    rintro rfl
    contradiction
  have notOpening : ¬ isOpening c := by
    simp only [isClosing, Bool.or_eq_true, decide_eq_true_eq] at closing
    rcases closing with rfl | rfl <;> decide
  rw [countChar, if_neg apart, if_neg notOpening, if_pos closing]

theorem countChar_inText (quote : c ≠ '"') (slash : c ≠ '\\') :
    countChar (.inText, k) c = (.inText, k) := by
  rw [countChar, if_neg quote, if_neg slash]

theorem isInert_of_isAtomChar (atom : isAtomChar c) : isInert c := by
  by_contra special
  simp only [isInert, isOpening, isClosing, Bool.and_eq_true, bne_iff_ne, Bool.not_eq_true',
    Bool.or_eq_false_iff, decide_eq_false_iff_not, ← not_or, not_not] at special
  rcases special with (rfl | rfl | rfl) | rfl | rfl <;> exact absurd atom (by decide)

theorem isInert_of_isSpace (space : isSpace c) : isInert c := by
  simp only [isSpace, Bool.or_eq_true, decide_eq_true_eq] at space
  rcases space with ((rfl | rfl) | rfl) | rfl <;> decide

/-! ## What is passed over -/

/-- Whether the characters in front of the rest of a text end outside of texts and leave as many
brackets open as there were before them. -/
def Passes (zone : Zone) (cs rest : List Char) : Prop :=
  ∃ taken, cs = taken ++ rest ∧ ∀ k, taken.foldl countChar (zone, k) = (.outside, k)

theorem Passes.refl (cs : List Char) : Passes .outside cs cs := ⟨[], rfl, fun _ => rfl⟩

theorem Passes.trans {zone : Zone} (h : Passes zone cs rest) (h' : Passes .outside rest more) :
    Passes zone cs more := by
  obtain ⟨front, rfl, counted⟩ := h
  obtain ⟨back, rfl, counted'⟩ := h'
  refine ⟨front ++ back, (List.append_assoc ..).symm, fun k => ?_⟩
  rw [List.foldl_append, counted, counted']

/-- Further characters in front do no harm if the count goes through them. -/
theorem Passes.append {zone zone' : Zone} (front : List Char) (h : Passes zone rest more)
    (through : ∀ k, front.foldl countChar (zone', k) = (zone, k)) :
    Passes zone' (front ++ rest) more := by
  obtain ⟨taken, rfl, counted⟩ := h
  refine ⟨front ++ taken, (List.append_assoc ..).symm, fun k => ?_⟩
  rw [List.foldl_append, through, counted]

theorem passes_append (inert : ∀ c ∈ taken, isInert c) : Passes .outside (taken ++ rest) rest := by
  refine (Passes.refl rest).append taken fun k => ?_
  induction taken with
  | nil => rfl
  | cons c taken ih =>
    obtain ⟨first, others⟩ := List.forall_mem_cons.mp inert
    rw [List.foldl_cons, countChar_inert first, ih others]

theorem passes_cons (inert : isInert c) : Passes .outside (c :: rest) rest :=
  (Passes.refl rest).append [c] fun _ => countChar_inert inert

theorem passes_skipSpaces (before : Cursor) :
    Passes .outside before.chars before.skipSpaces.chars := by
  have spaces : ∀ c ∈ before.chars.takeWhile isSpace, isInert c := fun c found =>
    isInert_of_isSpace (List.mem_takeWhile_imp found)
  have parted := List.prefix_iff_eq_append.mp (List.takeWhile_prefix (l := before.chars) isSpace)
  rw [← parted]
  exact passes_append spaces

theorem chars_drop_one {next : Cursor} (split : next.chars = c :: rest) :
    (next.drop 1).chars = rest := by
  rw [Cursor.drop, split, List.drop_one, List.tail_cons]

/-- Behind a separator and the blanks after it no more brackets are open than before. -/
theorem Passes.behind {next : Cursor} (h : Passes .outside cs next.skipSpaces.chars)
    (head : next.skipSpaces.chars.head? = some c) (inert : isInert c) :
    Passes .outside cs (next.skipSpaces.drop 1).skipSpaces.chars := by
  obtain ⟨rest, split⟩ := List.head?_eq_some_iff.mp head
  have separator : Passes .outside next.skipSpaces.chars (next.skipSpaces.drop 1).chars := by
    rw [chars_drop_one split, split]
    exact passes_cons inert
  exact (h.trans separator).trans (passes_skipSpaces _)

/-- What stands between two brackets is passed over with them. -/
theorem Passes.enclosed {close : Char} (h : Passes .outside cs (close :: rest))
    (opening : isOpening c) (closing : isClosing close) : Passes .outside (c :: cs) rest := by
  obtain ⟨taken, rfl, counted⟩ := h
  refine ⟨c :: (taken ++ [close]), by simp, fun k => ?_⟩
  rw [List.foldl_cons, countChar_opening opening, List.foldl_append, counted, List.foldl_cons,
    countChar_closing closing, Nat.add_sub_cancel, List.foldl_nil]

/-! ## Texts -/

theorem ne_of_value?_eq_some (digit : Text.Hex.value? c = some n) : c ≠ '"' ∧ c ≠ '\\' := by
  constructor <;> rintro rfl <;> contradiction

/-- The digits of a numeric escape are neither quotes nor backslashes. -/
theorem Passes.unitEscape {a b d : Char} (h : Passes .inText rest more)
    (unit : unit? a b c d = some n) :
    Passes .inText ('\\' :: 'u' :: a :: b :: c :: d :: rest) more := by
  simp only [unit?, Option.bind_eq_bind, Option.bind_eq_some_iff] at unit
  obtain ⟨_, first, _, second, _, third, _, fourth, -⟩ := unit
  have digit {x : Char} {m k : Nat} (value : Text.Hex.value? x = some m) :
      countChar (.inText, k) x = (.inText, k) :=
    countChar_inText (ne_of_value?_eq_some value).1 (ne_of_value?_eq_some value).2
  refine h.append ['\\', 'u', a, b, c, d] fun k => ?_
  change [a, b, c, d].foldl countChar (.inText, k) = (.inText, k)
  simp only [List.foldl_cons, List.foldl_nil, digit first, digit second, digit third, digit fourth]

/-- The reader and the count agree on where texts end. -/
theorem passes_readText {after : Cursor}
    (h : readText start done cs pos = .ok (rest, after)) : Passes .inText cs after.chars := by
  -- The reader goes on behind a numeric escape, a pair of them, a short escape and a plain
  -- character; it ends at the quote, and everywhere else it stops.
  fun_induction readText with
  | case2 done cs pos =>
    obtain ⟨-, rfl⟩ := Prod.mk.inj (Except.ok.inj h)
    exact (Passes.refl cs).append ['"'] fun _ => rfl
  | case6 _ _ _ _ _ _ _ _ _ _ _ _ _ first _ _ second _ _ ih =>
    exact ((ih h).unitEscape second).unitEscape first
  | case7 _ _ _ _ _ _ _ _ _ _ _ _ _ unit _ _ _ _ ih => exact (ih h).unitEscape unit
  | case8 _ _ _ _ _ _ _ _ _ _ _ _ _ unit _ ih => exact (ih h).unitEscape unit
  | case10 _ _ _ _ _ _ _ _ _ _ unit ih => exact (ih h).unitEscape unit
  | case13 _ letter _ _ _ _ _ _ _ ih => exact (ih h).append ['\\', letter] fun _ => rfl
  | case15 done c cs pos quote bare _ _ escape _ ih =>
    have slash : c ≠ '\\' := by
      rintro rfl
      cases cs with
      | nil => exact bare rfl rfl
      | cons letter cs => exact escape letter cs rfl rfl
    exact (ih h).append [c] fun _ => countChar_inText quote slash
  | _ => contradiction

/-- A text is not read only if it is malformed. -/
theorem malformed_of_readText_eq_error (h : readText start done cs pos = .error fault) :
    ∃ what place, fault = .malformed what place := by
  fun_induction readText with
  | case2 => contradiction
  | case6 | case7 | case8 | case10 | case13 | case15 => exact ‹readText _ _ _ _ = _ → _› h
  | _ => exact ⟨_, _, (Except.error.inj h).symm⟩

/-! ## Reasons -/

/-- Whether so many digits stand in a row, and they are too many for an integer. -/
def HasLongRun (cs : List Char) (n : Nat) : Prop :=
  Decimal.maxIntegerDigits < n ∧
    ∃ run, run <:+: cs ∧ run.length = n ∧ ∀ c ∈ run, c.isDigit

/-- Whether a bracket of the given kind opens inside of as many others as are given. -/
def HasDeepBracket (cs : List Char) (bracket : Char) (depth : Nat) : Prop :=
  ∃ front rest, cs = front ++ bracket :: rest ∧
    ∀ k, front.foldl countChar (.outside, k) = (.outside, k + depth)

/-- The bracket that a list or an object opens with. -/
def bracketOf (inArray : Bool) : Char := if inArray then '[' else '\x7b'

/-- Whether a fault has its reason in a text that is read with so much nesting still allowed. -/
def Explains (depth : Nat) (cs : List Char) : Fault → Prop
  | .malformed _ _ => True
  | .longInteger digits => HasLongRun cs digits
  | .deepNesting inArray => HasDeepBracket cs (bracketOf inArray) depth

/-- What the rest of a text explains, the text explains. -/
theorem Passes.explains (h : Passes .outside cs rest) (reason : Explains depth rest fault) :
    Explains depth cs fault := by
  obtain ⟨taken, rfl, counted⟩ := h
  cases fault with
  | malformed => trivial
  | longInteger n =>
    obtain ⟨long, run, inside, length, digits⟩ := reason
    exact ⟨long, run, inside.trans (List.suffix_append taken rest).isInfix, length, digits⟩
  | deepNesting inArray =>
    obtain ⟨front, behind, rfl, counted'⟩ := reason
    refine ⟨taken ++ front, behind, (List.append_assoc ..).symm, fun k => ?_⟩
    rw [List.foldl_append, counted, counted']

/-- Behind a bracket one level less of nesting is allowed. -/
theorem Explains.opening (opening : isOpening c) (reason : Explains depth rest fault) :
    Explains (depth + 1) (c :: rest) fault := by
  cases fault with
  | malformed => trivial
  | longInteger n =>
    obtain ⟨long, run, inside, length, digits⟩ := reason
    exact ⟨long, run, inside.trans (List.suffix_cons c rest).isInfix, length, digits⟩
  | deepNesting inArray =>
    obtain ⟨front, behind, rfl, counted⟩ := reason
    refine ⟨c :: front, behind, rfl, fun k => ?_⟩
    rw [List.foldl_cons, countChar_opening opening, counted, Nat.add_right_comm, Nat.add_assoc]

/-- Whether a reader that starts at the given text leaves as many brackets open as before, apart
from those that are closed behind what it takes, or else stops for a reason in the text. -/
def SoundAt (depth : Nat) (closing cs : List Char) : Except Fault (α × Cursor) → Prop
  | .ok (_, after) => Passes .outside cs (closing ++ after.chars)
  | .error fault => Explains depth cs fault

/-- Whether a reader is sound wherever it starts. -/
def Sound (depth : Nat) (reader : Cursor → Except Fault (α × Cursor)) : Prop :=
  ∀ before : Cursor, SoundAt depth [] before.chars (reader before)

section Rules

variable {β : Type} {closing closing' : List Char} {result : Except Fault (α × Cursor)}

theorem SoundAt.behind (h : SoundAt depth closing rest result) (passes : Passes .outside cs rest) :
    SoundAt depth closing cs result := by
  match result, h with
  | .ok _, h => exact passes.trans h
  | .error _, h => exact passes.explains h

/-- What is sound up to the closing bracket is sound with the opening one. -/
theorem SoundAt.enclosed {close : Char} (h : SoundAt depth [close] cs result)
    (opening : isOpening c) (closing : isClosing close) :
    SoundAt (depth + 1) [] (c :: cs) result := by
  match result, h with
  | .error _, h => exact h.opening opening
  | .ok _, h => exact Passes.enclosed h opening closing

/-- One reader goes on where another one ends. -/
theorem SoundAt.bind {next : α × Cursor → Except Fault (β × Cursor)}
    (h : SoundAt depth closing cs result)
    (step : ∀ a after, Passes .outside cs (closing ++ after.chars) →
      SoundAt depth closing' cs (next (a, after))) :
    SoundAt depth closing' cs (result >>= next) := by
  match result, h with
  | .ok (a, after), h => exact step a after h
  | .error _, h => exact h

end Rules

/-! ## Words and numbers -/

/-- Whether a text starts with the given characters of a word or a number. -/
structure Spells (front cs : List Char) : Prop where
  isPrefix : front <+: cs
  atoms : ∀ c ∈ front, isAtomChar c

theorem spells_nil : Spells [] cs := ⟨List.nil_prefix, by simp⟩

theorem Spells.cons (h : Spells taken cs) (atom : isAtomChar c) : Spells (c :: taken) (c :: cs) :=
  ⟨List.cons_prefix_cons.mpr ⟨rfl, h.isPrefix⟩, List.forall_mem_cons.mpr ⟨atom, h.atoms⟩⟩

/-- What stands behind the first characters is spelled together with them. -/
theorem Spells.append (h : Spells taken cs) (h' : Spells more (cs.drop taken.length)) :
    Spells (taken ++ more) cs := by
  constructor
  · rw [← List.prefix_iff_eq_append.mp h.isPrefix]
    exact (List.prefix_append_right_inj taken).mpr h'.isPrefix
  · exact List.forall_mem_append.mpr ⟨h.atoms, h'.atoms⟩

theorem Spells.passes (h : Spells taken cs) : Passes .outside cs (cs.drop taken.length) := by
  have inert : ∀ c ∈ taken, isInert c := fun c found => isInert_of_isAtomChar (h.atoms c found)
  nth_rewrite 1 [← List.prefix_iff_eq_append.mp h.isPrefix]
  exact passes_append inert

theorem isDigit_of_mem_digitsOf (found : c ∈ digitsOf cs) : c.isDigit := by
  rw [← Text.isAsciiDigit_eq_isDigit]
  exact List.mem_takeWhile_imp found

theorem spells_digitsOf : Spells (digitsOf cs) cs where
  isPrefix := List.takeWhile_prefix _
  atoms _ found := isAtomChar_of_isDigit (isDigit_of_mem_digitsOf found)

theorem isDigit_of_mem_wholePart (found : c ∈ wholePart cs) : c.isDigit := by
  unfold wholePart at found
  split at found
  · obtain rfl := List.mem_singleton.mp found
    decide
  · exact isDigit_of_mem_digitsOf found

theorem spells_wholePart : Spells (wholePart cs) cs := by
  unfold wholePart
  split
  · exact spells_nil.cons (by decide)
  · exact spells_digitsOf

theorem spells_fractionPart : Spells (fractionPart cs) cs := by
  unfold fractionPart
  split
  · rename_i rest
    have digits : Spells (digitsOf rest) rest := spells_digitsOf
    split
    · exact spells_nil
    · exact digits.cons (by decide)
  · exact spells_nil

theorem spells_exponentPart : Spells (exponentPart cs) cs := by
  unfold exponentPart
  split
  · rename_i mark rest
    split_ifs with exponent
    · have letter : isAtomChar mark := by rcases exponent with rfl | rfl <;> decide
      extract_lets sign
      have signed : Spells sign rest := by
        subst sign
        split
        · exact spells_nil.cons (by decide)
        · exact spells_nil.cons (by decide)
        · exact spells_nil
      have digits : Spells (sign ++ digitsOf (rest.drop sign.length)) rest :=
        signed.append spells_digitsOf
      split
      · exact spells_nil
      · exact digits.cons letter
    · exact spells_nil
  · exact spells_nil

theorem spells_signChars : Spells (signChars (cs.head? == some '-')) cs := by
  unfold signChars
  split_ifs with sign
  · obtain ⟨rest, rfl⟩ := List.head?_eq_some_iff.mp (beq_iff_eq.mp sign)
    exact spells_nil.cons (by decide)
  · exact spells_nil

/-- A number is refused for its digits only. -/
theorem sound_readNumber : Sound depth readNumber := by
  intro before
  unfold readNumber
  extract_lets negative body whole fraction exponent rest digits n places e x
  have behindSign : before.chars.drop (signChars negative).length = body := by
    cases sign : negative <;> simp [body, sign, signChars]
  have number : Spells (whole ++ fraction ++ exponent) body := by
    refine (spells_wholePart.append spells_fractionPart).append ?_
    rw [List.length_append]
    exact spells_exponentPart
  have passes : Passes .outside before.chars rest.chars := by
    have spelled : Spells (signChars negative ++ (whole ++ fraction ++ exponent)) before.chars :=
      spells_signChars.append (behindSign ▸ number)
    -- the reader drops the parts by their lengths, all at once
    have length : (signChars negative ++ (whole ++ fraction ++ exponent)).length =
        (if negative = true then 1 else 0) + whole.length + fraction.length + exponent.length := by
      simp only [List.length_append, signChars]
      split_ifs <;> simp only [List.length_singleton, List.length_nil] <;> omega
    have passes := spelled.passes
    rwa [length] at passes
  split_ifs with empty integral long
  · trivial
  · have isDigit : ∀ c ∈ whole, c.isDigit := fun c => isDigit_of_mem_wholePart
    have count : whole.length = digits.length := by
      rw [show digits = _ from Text.filterMap_asciiDigit? isDigit, List.length_map]
    have suffix : body <:+ before.chars := behindSign ▸ List.drop_suffix _ _
    exact ⟨long, whole, spells_wholePart.isPrefix.isInfix.trans suffix.isInfix, count, isDigit⟩
  all_goals exact passes

theorem sound_readAtom : Sound depth readAtom := by
  intro before
  unfold readAtom
  split
  · rename_i word value found
    have starts : word.isPrefixOf before.chars := by simpa using List.find?_some found
    have listed : literals.all fun literal => literal.1.all isAtomChar := by decide
    have atoms := List.all_eq_true.mp listed _ (List.mem_of_find?_eq_some found)
    exact Spells.passes ⟨List.isPrefixOf_iff_prefix.mp starts, List.all_eq_true.mp atoms⟩
  · exact sound_readNumber before

/-! ## Values -/

theorem sound_readText : SoundAt depth [] ('"' :: cs) (readText start done cs pos) := by
  cases read : readText start done cs pos with
  | ok _ => exact (passes_readText read).append ['"'] fun _ => rfl
  | error fault =>
    obtain ⟨what, place, rfl⟩ := malformed_of_readText_eq_error read
    trivial

/-- The loop over parts is sound up to the closing bracket. -/
theorem sound_readParts {close : Char} {part : Cursor → Except Fault (α × Cursor)}
    {collected : List α} {before : Cursor} (sound : Sound depth part) :
    SoundAt depth [close] before.chars (readParts close part fuel collected before) := by
  induction fuel generalizing collected before with
  | zero => trivial
  | succ fuel ih =>
    rw [readParts]
    refine (sound before).bind fun a next passed => ?_
    have passes := passed.trans (passes_skipSpaces next)
    dsimp only
    split_ifs with closed comma
    · obtain ⟨rest, split⟩ := List.head?_eq_some_iff.mp closed
      rw [split] at passes
      change Passes .outside _ (close :: (next.skipSpaces.drop 1).chars)
      rwa [chars_drop_one split]
    · exact ih.behind (passes.behind comma (by decide))
    · trivial

theorem sound_readMember {value : Cursor → Except Fault (Json × Cursor)}
    (sound : Sound depth value) : Sound depth (readMember value) := by
  intro before
  unfold readMember
  split
  · rename_i rest quoted
    rw [quoted]
    refine sound_readText.bind fun key next passed => ?_
    have passes := passed.trans (passes_skipSpaces next)
    dsimp only
    split
    · rename_i colon
      refine SoundAt.bind ((sound _).behind (passes.behind ?_ (by decide : isInert ':'))) ?_
      · rw [colon]
        rfl
      · exact fun _ _ passes => passes
    · trivial
  · trivial

theorem passes_behind_bracket {before : Cursor} (split : before.chars = c :: rest) :
    Passes .outside rest (before.drop 1).skipSpaces.chars := by
  have passes := passes_skipSpaces (before.drop 1)
  rwa [chars_drop_one split] at passes

/-- Between two brackets there is nothing, or something that is read up to the closing one. -/
theorem SoundAt.empty {close : Char} {before : Cursor} {a : α}
    (split : before.chars = close :: rest) :
    SoundAt depth [close] before.chars (.ok (a, before.drop 1)) := by
  change Passes .outside _ (close :: (before.drop 1).chars)
  rw [chars_drop_one split, split]
  exact Passes.refl _

/-- The reader of values is sound. -/
theorem sound_readValue : Sound depth (readValue fuel depth) := by
  -- A value inside a bracket is read with one level of nesting less.
  induction depth using Nat.strongRecOn with
  | ind depth ih =>
    intro before
    rw [readValue.eq_def]
    dsimp only
    split
    · trivial
    · rename_i quoted
      rw [quoted]
      exact sound_readText.bind fun _ _ passes => passes
    · rename_i rest opened
      split
      · exact ⟨[], rest, opened, fun _ => rfl⟩
      rw [opened]
      refine SoundAt.enclosed (.behind ?_ (passes_behind_bracket opened)) rfl
        (rfl : isClosing ']')
      split
      · exact .empty ‹_›
      · exact (sound_readParts (ih _ (Nat.lt_succ_self _))).bind fun _ _ passes => passes
    · rename_i rest opened
      split
      · exact ⟨[], rest, opened, fun _ => rfl⟩
      rw [opened]
      refine SoundAt.enclosed (.behind ?_ (passes_behind_bracket opened)) rfl
        (rfl : isClosing '\x7d')
      split
      · exact .empty ‹_›
      · exact (sound_readParts (sound_readMember (ih _ (Nat.lt_succ_self _)))).bind
          fun _ _ passes => passes
    · exact sound_readAtom before

/-! ## Whole texts -/

/-- Whether a text was refused, and is not malformed. -/
def ReadError.isLimit : ReadError → Bool
  | .malformed .. => false
  | .longInteger _ => true
  | .deepNesting _ => true

/-- Whether a text passes the limit that a refusal names. -/
def PassesLimit (cs : List Char) : ReadError → Prop
  | .malformed .. => False
  | .longInteger digits => HasLongRun cs digits
  | .deepNesting inArray => HasDeepBracket cs (bracketOf inArray) maxDepth

theorem explains_readDocument (h : readDocument cs = .error fault) :
    Explains maxDepth cs fault := by
  unfold readDocument at h
  split at h
  · obtain rfl := Except.error.inj h
    trivial
  have sound : SoundAt maxDepth [] cs
      (readValue cs.length maxDepth (Cursor.skipSpaces ⟨cs, 0⟩)) :=
    (sound_readValue _).behind (passes_skipSpaces ⟨cs, 0⟩)
  rcases bind_eq_error.mp h with stopped | ⟨⟨v, next⟩, read, h⟩
  · rw [stopped] at sound
    exact sound
  · dsimp only at h
    split at h
    · contradiction
    · obtain rfl := Except.error.inj h
      trivial

/-- A text that is refused passes the limit that is named. -/
theorem passesLimit_of_read_eq_error {s : String} {e : ReadError} (h : read s = .error e)
    (limit : e.isLimit) : PassesLimit s.toList e := by
  unfold read at h
  dsimp only at h
  cases document : readDocument s.toList with
  | ok v =>
    rw [document] at h
    contradiction
  | error fault =>
    rw [document] at h
    obtain rfl := Except.error.inj h
    have reason := explains_readDocument document
    cases fault with
    | malformed what pos => contradiction
    | longInteger digits => exact reason
    | deepNesting inArray => exact reason

end BattleMaps.Json
