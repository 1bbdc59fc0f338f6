import BattleMaps.Text.Blank
import Mathlib.Data.List.DropRight

/-!
# Trimmed texts

Trimming leaves a text that starts and ends with no blank, and such a text is left as it is. So
trimming twice is trimming once, and a text that was found not to be blank is its own trimmed
form.

## Main definitions

* `IsPadded` — whether a text is another one with blanks around it

## Main results

* `trimChars_eq_self_iff` — the trimmed texts are those without a blank at either end
* `trimChars_trimChars` — trimming is idempotent
* `trimChars_append` — trimming stops where something visible stands
* `nonBlank?_of_eq_some` — what `nonBlank?` yields is trimmed and not empty
-/

namespace BattleMaps.Text

variable {cs rest before behind : List Char} {c : Char} {s t : String}

theorem trimRight_eq_rdropWhile : trimRight cs = cs.rdropWhile isBlank := rfl

/-- The trimmed texts are those that neither start nor end with a blank. -/
theorem trimChars_eq_self_iff :
    trimChars cs = cs ↔
      (∀ h : 0 < cs.length, ¬ isBlank (cs.get ⟨0, h⟩)) ∧
        ∀ h : cs ≠ [], ¬ isBlank (cs.getLast h) := by
  constructor
  · intro trimmed
    -- A text that is trimmed has lost nothing at its start either, for lack of length.
    have shorter : (trimChars cs).length ≤ (trimLeft cs).length :=
      (List.rdropWhile_prefix isBlank (trimLeft cs)).length_le
    have left : trimLeft cs = cs := by
      refine (List.dropWhile_suffix isBlank).eq_of_length_le ?_
      rw [trimmed] at shorter
      exact shorter
    refine ⟨fun h => List.dropWhile_eq_self_iff.mp left h, fun h => ?_⟩
    rw [trimChars, left, trimRight_eq_rdropWhile] at trimmed
    exact List.rdropWhile_eq_self_iff.mp trimmed h
  · rintro ⟨first, last⟩
    have left : trimLeft cs = cs := List.dropWhile_eq_self_iff.mpr first
    rw [trimChars, left, trimRight_eq_rdropWhile]
    exact List.rdropWhile_eq_self_iff.mpr last

theorem trimChars_isInfix (cs : List Char) : trimChars cs <:+: cs :=
  (List.rdropWhile_prefix isBlank (trimLeft cs)).isInfix.trans
    (List.dropWhile_suffix isBlank).isInfix

theorem length_trimChars_le (cs : List Char) : (trimChars cs).length ≤ cs.length :=
  (trimChars_isInfix cs).length_le

/-- Trimming twice is trimming once. -/
@[simp] theorem trimChars_trimChars : trimChars (trimChars cs) = trimChars cs := by
  have start : trimChars cs <+: cs.dropWhile isBlank := List.rdropWhile_prefix isBlank _
  refine trimChars_eq_self_iff.mpr ⟨fun h => ?_, fun h => ?_⟩
  -- dropping blanks behind leaves the first character as it was
  · have first := List.dropWhile_get_zero_not isBlank cs (h.trans_le start.length_le)
    simpa [start.getElem h] using first
  · exact List.rdropWhile_last_not isBlank (trimLeft cs) h

@[simp] theorem trim_trim : trim (trim s) = trim s := by
  simp [trim]

theorem trimLeft_append (visible : isBlank c = false) :
    trimLeft (before ++ c :: rest) = trimLeft before ++ c :: rest := by
  have stops : (c :: rest).dropWhile isBlank = c :: rest :=
    List.dropWhile_cons_of_neg (by rw [visible]; exact Bool.false_ne_true)
  rw [trimLeft, List.dropWhile_append, stops, trimLeft]
  split_ifs with blank
  · rw [List.isEmpty_iff.mp blank, List.nil_append]
  · rfl

/-- The mirror image of the same for the other end. -/
theorem trimRight_append (visible : isBlank c = false) :
    trimRight (rest ++ c :: behind) = rest ++ c :: trimRight behind := by
  have mirrored : trimLeft (behind.reverse ++ c :: rest.reverse) =
      trimLeft behind.reverse ++ c :: rest.reverse := trimLeft_append visible
  rw [trimLeft, trimLeft] at mirrored
  simp [trimRight, mirrored]

/-- Trimming stops at a text that starts and ends with something visible. -/
theorem trimChars_append (trimmed : trimChars cs = cs) (filled : cs ≠ [])
    (before behind : List Char) :
    trimChars (before ++ cs ++ behind) = trimLeft before ++ cs ++ trimRight behind := by
  obtain ⟨first, last⟩ := trimChars_eq_self_iff.mp trimmed
  have left : trimLeft (before ++ (cs ++ behind)) = trimLeft before ++ (cs ++ behind) := by
    obtain ⟨c, rest, rfl⟩ := List.exists_cons_of_ne_nil filled
    exact trimLeft_append (by simpa using first (Nat.succ_pos _))
  have ends : cs = cs.dropLast ++ [cs.getLast filled] := (List.dropLast_append_getLast filled).symm
  have right : trimRight ((trimLeft before ++ cs.dropLast) ++ cs.getLast filled :: behind) =
      (trimLeft before ++ cs.dropLast) ++ cs.getLast filled :: trimRight behind :=
    trimRight_append (by simpa using last filled)
  rw [trimChars, List.append_assoc, left, ends]
  simpa using right

/-- Whether a text is another one with blanks around it. -/
def IsPadded (s t : String) : Prop :=
  ∃ before behind : String, before.toList.all isBlank ∧ behind.toList.all isBlank ∧
    s = before ++ t ++ behind

theorem IsPadded.refl (s : String) : IsPadded s s := ⟨"", "", rfl, rfl, by simp⟩

theorem nonBlank?_eq_some_iff : nonBlank? s = some t ↔ trim s = t ∧ t ≠ "" := by
  unfold nonBlank?
  by_cases empty : trim s = "" <;> grind [String.isEmpty_iff]

/-- What is left of a text that is not blank is trimmed and not empty. -/
theorem nonBlank?_of_eq_some (h : nonBlank? s = some t) : nonBlank? t = some t := by
  obtain ⟨rfl, filled⟩ := nonBlank?_eq_some_iff.mp h
  exact nonBlank?_eq_some_iff.mpr ⟨trim_trim, filled⟩

/-- Blanks around a text that is trimmed and not empty are passed over. -/
theorem IsPadded.nonBlank?_eq (padded : IsPadded s t) (proper : nonBlank? t = some t) :
    nonBlank? s = some t := by
  obtain ⟨before, behind, front, back, rfl⟩ := padded
  obtain ⟨trimmed, filled⟩ := nonBlank?_eq_some_iff.mp proper
  have trimmed' : trimChars t.toList = t.toList := by
    rw [← String.toList_ofList (l := trimChars t.toList)]
    exact congrArg String.toList trimmed
  have left : trimLeft before.toList = [] :=
    List.dropWhile_eq_nil_iff.mpr (List.all_eq_true.mp front)
  have right : trimRight behind.toList = [] := by
    rw [trimRight_eq_rdropWhile]
    exact List.rdropWhile_eq_nil_iff.mpr (List.all_eq_true.mp back)
  refine nonBlank?_eq_some_iff.mpr ⟨?_, filled⟩
  rw [trim, String.toList_append, String.toList_append, trimChars_append trimmed' (by simpa), left,
    right, List.nil_append, List.append_nil, String.ofList_toList]

/-- A visible ASCII character is no blank. -/
theorem isBlank_eq_false_of_graphic {c : Char} (low : 0x21 ≤ c.toNat) (high : c.toNat ≤ 0x7E) :
    isBlank c = false := by
  simp only [isBlank, inRanges, blankRanges, List.any_cons, List.any_nil]
  grind

theorem isBlank_eq_false_of_isDigit {c : Char} (h : c.isDigit) : isBlank c = false := by
  have digit : 0x30 ≤ c.toNat ∧ c.toNat ≤ 0x39 := by
    simpa [Char.isDigit, UInt32.le_iff_toNat_le] using h
  exact isBlank_eq_false_of_graphic (by omega) (by omega)

end BattleMaps.Text
