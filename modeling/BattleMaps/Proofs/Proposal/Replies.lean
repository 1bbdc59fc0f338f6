import BattleMaps.Proofs.Json.RoundTrip
import BattleMaps.Proofs.Text.Trim
import BattleMaps.Reply

/-!
# Replies that are objects

A model that answers with nothing but an object is understood: there are no blanks to trim, no
fence to look into, and the outermost braces are those of the object.

## Main results

* `read_write` — a reply that is a written object is read as the object
-/

namespace BattleMaps.Reply

open Json (Regular)

variable {cs body : List Char} {fields : Fields}

/-- Without a back quote there is no fence. -/
theorem splitFence_eq_none (plain : '\x60' ∉ cs) : splitFence cs = none := by
  induction cs with
  | nil => rfl
  | cons c rest ih =>
    rw [List.mem_cons, not_or] at plain
    have apart : fence.isPrefixOf (c :: rest) = false := by
      simp [fence, List.isPrefixOf, plain.1]
    rw [splitFence, apart, if_neg Bool.false_ne_true, ih plain.2]
    rfl

theorem fenced?_eq_none (plain : '\x60' ∉ cs) : fenced? cs = none := by
  rw [fenced?, splitFence_eq_none plain]
  rfl

/-- What stands between two outermost braces is found with them. -/
theorem braced?_eq_some : braced? ('{' :: (body ++ ['}'])) = some ('{' :: (body ++ ['}'])) := by
  have front : ('{' :: (body ++ ['}'])).dropWhile (· != '\x7b') = '{' :: (body ++ ['}']) :=
    List.dropWhile_cons_of_neg (by decide)
  have back : ('{' :: (body ++ ['}'])).reverse.dropWhile (· != '\x7d') =
      ('{' :: (body ++ ['}'])).reverse := by
    simp
  unfold braced?
  simp only [front, back, List.reverse_reverse]

theorem trimChars_braces : Text.trimChars ('{' :: (body ++ ['}'])) = '{' :: (body ++ ['}']) := by
  refine Text.trimChars_eq_self_iff.mpr ⟨fun _ => ?_, fun h => ?_⟩
  · simp only [List.get_eq_getElem, List.getElem_cons_zero]
    decide
  · have last : ('{' :: (body ++ ['}'])).getLast h = '}' := by simp
    rw [last]
    decide

/-- The text of an object that holds no block is found in a reply that is nothing else. -/
theorem object?_write (plain : fenced? (Json.writeChars (.object fields)) = none) :
    object? (Json.write (.object fields)) = some (Json.write (.object fields)) := by
  rw [Json.writeChars_object] at plain
  rw [object?, Json.write, String.toList_ofList, Json.writeChars_object, trimChars_braces, plain,
    Option.getD_none, braced?_eq_some]
  rfl

theorem read_eq_ok {s inside : String} (found : object? s = some inside)
    (isObject : Json.read inside = .ok (.object fields)) : read s = .ok fields := by
  rw [read, found]
  simp only [isObject]

/-- Putting members in order turns nothing but objects into objects. -/
theorem exists_eq_object {v : Json} (isObject : v.sorted = .object fields) :
    ∃ members, v = .object members := by
  cases v with
  | object members => exact ⟨members, rfl⟩
  | array items =>
    rw [Json.sorted_array] at isObject
    contradiction
  | _ => contradiction

/-- A reply that is a written object is read as the object, with its members in order, if the text
of the object holds no fenced block. -/
theorem read_write {v : Json} (regular : Regular Json.maxDepth v) (writable : v.isWritable)
    (plain : fenced? (Json.writeChars v) = none) (isObject : v.sorted = .object fields) :
    read v.write = .ok fields := by
  obtain ⟨members, rfl⟩ := exists_eq_object isObject
  refine read_eq_ok (object?_write plain) ?_
  rw [Json.read_write regular writable, isObject]

end BattleMaps.Reply
