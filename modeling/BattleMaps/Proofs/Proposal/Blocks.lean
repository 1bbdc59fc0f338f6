import BattleMaps.Proofs.Json.Rearrangement
import BattleMaps.Proofs.Json.Truncation
import BattleMaps.Proofs.Proposal.Fences

/-!
# Objects in replies and in blocks

A model answers with an object, or with a block that holds one. The fences are looked for in the
whole reply, the texts of the object included: three back quotes in a description count as a fence,
and two fences make a block. So an object is read for certain only from the texts of objects that
quote no block themselves.

## Main definitions

* `inBlock` — a text inside a fenced block

## Main results

* `fails_read_of_isCut` — an object that breaks off is not read
* `read_object` — when an object is read from a reply that is one, and from a block that holds one
* `quotedBlock_misread` — an object that quotes a block, and what is read instead
-/

namespace BattleMaps.Reply

open Json (Fails IsCut Rearranged Regular writeChars)

variable {cs before behind body p : List Char} {fields : Fields}

/-! ## Objects in replies -/

theorem fails_read {s : String} (h : ∀ inside, object? s = some inside → Fails (Json.read inside)) :
    Fails (read s) := by
  cases found : object? s with
  | none => exact ⟨.violation .noObject, by rw [read, found]⟩
  | some inside =>
    obtain ⟨e, failed⟩ := h inside found
    rw [read, found]
    simp only [failed]
    cases e <;> exact ⟨_, rfl⟩

/-- What is found between braces starts with the first opening one. -/
theorem prefix_of_braced?_eq_some (h : braced? cs = some body) :
    body <+: cs.dropWhile (· != '\x7b') := by
  unfold braced? at h
  dsimp only at h
  split at h
  · contradiction
  · obtain rfl := Option.some.inj h
    exact List.rdropWhile_prefix _ _

theorem length_le_of_braced?_eq_some (h : braced? cs = some body) : body.length ≤ cs.length :=
  (prefix_of_braced?_eq_some h).length_le.trans (List.dropWhile_suffix _).length_le

theorem dropWhile_of_opens (opens : p <+: '{' :: cs) : p.dropWhile (· != '\x7b') = p := by
  rcases List.prefix_cons_iff.mp opens with rfl | ⟨rest, rfl, -⟩
  · rfl
  · exact List.dropWhile_cons_of_neg (by decide)

/-- What a cut has left of an object is not read, whatever braces are left in it. -/
theorem fails_read_braced? (regular : Regular Json.maxDepth (.object fields))
    (writable : Json.isWritable (.object fields)) (cut : IsCut p (writeChars (.object fields))) :
    ∀ inside, (braced? p).map String.ofList = some inside → Fails (Json.read inside) := by
  intro inside found
  obtain ⟨body, taken, rfl⟩ := Option.map_eq_some_iff.mp found
  have opens := cut.1
  rw [Json.writeChars_object] at opens
  have short := prefix_of_braced?_eq_some taken
  rw [dropWhile_of_opens opens] at short
  exact Json.fails_read_of_isCut regular writable (cut.shorten short)

theorem isPrefix_trimChars (opens : p <+: '{' :: cs) : Text.trimChars p <+: p := by
  rcases List.prefix_cons_iff.mp opens with rfl | ⟨rest, rfl, -⟩
  · exact List.prefix_refl _
  · exact List.rdropWhile_prefix _ _

/-- An object that breaks off is not read, unless what is there of it holds a block. -/
theorem fails_read_of_isCut (regular : Regular Json.maxDepth (.object fields))
    (writable : Json.isWritable (.object fields)) (cut : IsCut p (writeChars (.object fields)))
    (plain : fenced? (Text.trimChars p) = none) : Fails (read (String.ofList p)) := by
  have opens := cut.1
  rw [Json.writeChars_object] at opens
  have cut' := cut.shorten (isPrefix_trimChars opens)
  refine fails_read fun inside found => ?_
  rw [object?, String.toList_ofList, plain] at found
  exact fails_read_braced? regular writable cut' inside found

theorem isCut_of_splitFence (first : splitFence cs = some (before, behind)) : IsCut before cs := by
  have parted := (splitFence_eq_some first).1
  rw [List.append_assoc] at parted
  refine ⟨⟨_, parted.symm⟩, fun same => ?_⟩
  have lengths := congrArg List.length parted
  rw [same, List.length_append, List.length_append, length_fence] at lengths
  omega

/-! ## Fenced blocks -/

/-- A text inside a fenced block, with the language tag and on lines of its own. -/
def inBlock (s : String) : String := "```json\n" ++ s ++ "\n```"

theorem toList_inBlock {s : String} :
    (inBlock s).toList = fence ++ ("json".toList ++ ('\n' :: (s.toList ++ '\n' :: fence))) := by
  rw [inBlock, String.toList_append, String.toList_append]
  simp [fence]

theorem trimChars_inBlock {s : String} :
    Text.trimChars (inBlock s).toList = (inBlock s).toList := by
  rw [toList_inBlock]
  refine Text.trimChars_eq_self_iff.mpr ⟨fun _ => ?_, fun h => ?_⟩
  · simp only [fence_append, List.get_eq_getElem, List.getElem_cons_zero]
    decide
  · have last : (fence ++ ("json".toList ++ ('\n' :: (s.toList ++ '\n' :: fence)))).getLast h =
        '\x60' := by
      simp [fence]
    rw [last]
    decide

theorem object?_inBlock {s : String}
    (first : splitFence ('\n' :: (s.toList ++ '\n' :: fence)) = some (before, behind)) :
    object? (inBlock s) = (braced? (Text.trimChars before)).map String.ofList := by
  have inside : fenced? (inBlock s).toList = some (Text.trimChars before) := by
    rw [toList_inBlock, fenced?_of_splitFence splitFence_fence_append, if_pos (by simp)]
    change (splitFence ('\n' :: (s.toList ++ '\n' :: fence))).map _ = _
    rw [first]
    rfl
  rw [object?, trimChars_inBlock, inside]
  rfl

/-- A block around a text without fences holds the text. -/
theorem splitFence_block_of_plain (plain : countFences cs = 0) :
    splitFence ('\n' :: (cs ++ '\n' :: fence)) = some ('\n' :: (cs ++ ['\n']), []) := by
  have apart : ¬ fence <+: '\n' :: (cs ++ '\n' :: fence) := not_fence_prefix_cons (by decide)
  rw [splitFence_cons apart, splitFence_append_cons_of_plain plain (by decide)]
  rfl

/-- A block around a text with a fence ends at the fence. -/
theorem splitFence_block_of_fenced (fenced : 0 < countFences cs) :
    ∃ before behind, splitFence ('\n' :: (cs ++ '\n' :: fence)) = some ('\n' :: before, behind) ∧
      IsCut before cs := by
  have apart : ¬ fence <+: '\n' :: (cs ++ '\n' :: fence) := not_fence_prefix_cons (by decide)
  obtain ⟨before, behind, first⟩ := exists_splitFence fenced
  refine ⟨before, behind ++ '\n' :: fence, ?_, isCut_of_splitFence first⟩
  rw [splitFence_cons apart, splitFence_append_cons_of_fenced fenced (by decide), first]
  rfl

theorem isPrefix_trimChars_newline (opens : p <+: '{' :: cs) :
    Text.trimChars ('\n' :: p) <+: p := by
  rcases List.prefix_cons_iff.mp opens with rfl | ⟨rest, rfl, -⟩
  · decide
  · exact List.rdropWhile_prefix _ _

theorem trimChars_lines :
    Text.trimChars ('\n' :: ('{' :: (body ++ ['}']) ++ ['\n'])) = '{' :: (body ++ ['}']) := by
  change Text.trimRight ('{' :: (body ++ ['}']) ++ ['\n']) = _
  rw [Text.trimRight_eq_rdropWhile, List.rdropWhile_concat_pos _ _ _ (by decide),
    ← List.cons_append, List.rdropWhile_concat_neg _ _ _ (by decide)]

/-- An object without fences is found in a block around it. -/
theorem object?_inBlock_of_plain (plain : countFences (writeChars (.object fields)) = 0) :
    object? (inBlock (Json.write (.object fields))) = some (Json.write (.object fields)) := by
  have first := splitFence_block_of_plain plain
  rw [← Json.toList_write] at first
  rw [object?_inBlock first, Json.toList_write, Json.writeChars_object, trimChars_lines,
    braced?_eq_some, Option.map_some, ← Json.writeChars_object, Json.write]

/-- An object with a fence breaks off where the fence is taken for the end of the block. -/
theorem fails_read_inBlock (regular : Regular Json.maxDepth (.object fields))
    (writable : Json.isWritable (.object fields))
    (fenced : 0 < countFences (writeChars (.object fields))) :
    Fails (read (inBlock (Json.write (.object fields)))) := by
  obtain ⟨before, behind, first, cut⟩ := splitFence_block_of_fenced fenced
  rw [← Json.toList_write] at first
  have opens := cut.1
  rw [Json.writeChars_object] at opens
  have cut' := cut.shorten (isPrefix_trimChars_newline opens)
  refine fails_read fun inside found => ?_
  rw [object?_inBlock first] at found
  exact fails_read_braced? regular writable cut' inside found

/-- The text of an object is found in a reply that is nothing else, unless it holds a block. -/
theorem object?_write_iff :
    object? (Json.write (.object fields)) = some (Json.write (.object fields)) ↔
      countFences (writeChars (.object fields)) ≤ 1 := by
  rw [← fenced?_eq_none_iff]
  refine ⟨fun found => ?_, object?_write⟩
  by_contra block
  obtain ⟨inside, inBlock⟩ := Option.ne_none_iff_exists'.mp block
  have trimmed : Text.trimChars (writeChars (.object fields)) = writeChars (.object fields) := by
    rw [Json.writeChars_object, trimChars_braces]
  rw [object?, Json.toList_write, trimmed, inBlock, Option.getD_some,
    Option.map_eq_some_iff] at found
  obtain ⟨body, taken, same⟩ := found
  -- the inside of a block is too short to be the whole text
  have short := length_lt_of_fenced?_eq_some inBlock
  have le := length_le_of_braced?_eq_some taken
  have whole : body = writeChars (.object fields) := by
    rw [← Json.toList_write, ← same, String.toList_ofList]
  rw [whole] at le
  omega

/-- The text of an object within the limits is found in a reply that is nothing else just if its
keys and texts hold at most one fence, and then the object is read. From a block around its text the
object is read if they hold none; with a fence inside, nothing is read from the block. -/
theorem read_object (regular : Regular Json.maxDepth (.object fields))
    (writable : Json.isWritable (.object fields)) :
    let text := Json.write (.object fields)
    (object? text = some text ↔ fenceCount (.object fields) ≤ 1) ∧
    (fenceCount (.object fields) ≤ 1 →
      ∃ found, read text = .ok found ∧ Rearranged (.object found) (.object fields)) ∧
    (fenceCount (.object fields) = 0 →
      ∃ found, read (inBlock text) = .ok found ∧ Rearranged (.object found) (.object fields)) ∧
    (0 < fenceCount (.object fields) → ∃ e, read (inBlock text) = .error e) := by
  intro text
  have same := regular.rearranged_sorted
  rw [Json.sorted_object] at same
  rw [← countFences_writeChars regular]
  refine ⟨object?_write_iff, fun few => ⟨_, ?_, same⟩, fun plain => ⟨_, ?_, same⟩, fun fenced => ?_⟩
  · exact read_write regular writable (fenced?_eq_none_iff.mpr few) Json.sorted_object
  · refine read_eq_ok (object?_inBlock_of_plain plain) ?_
    rw [Json.read_write regular writable, Json.sorted_object]
  · exact fails_read_inBlock regular writable fenced

/-- An object that has braces and back quotes at every level, but no fence. -/
def plainNote : Fields :=
  [("dmNote", .text "Roll `2d6` for the \x7d\x7b trap; ``twice`` if they run.\n"),
   ("``", .array [.null, .int (-3), .object [("id", .text "``")]]),
   ("confidence", .text "high \\ \"json\"")]

/-- An object with one fence, two levels down. -/
def fencedNote : Fields :=
  [("regions", .array [.object [("dmNote", .text "Scratched into the wall: \x7d```\x7b")]])]

theorem notes_read :
    (Regular Json.maxDepth (.object plainNote) ∧ fenceCount (.object plainNote) = 0 ∧
      ∃ found, read (inBlock (Json.write (.object plainNote))) = .ok found ∧
        Rearranged (.object found) (.object plainNote)) ∧
    Regular Json.maxDepth (.object fencedNote) ∧ fenceCount (.object fencedNote) = 1 ∧
      (∃ found, read (Json.write (.object fencedNote)) = .ok found ∧
        Rearranged (.object found) (.object fencedNote)) ∧
      ∃ e, read (inBlock (Json.write (.object fencedNote))) = .error e := by
  have regular : Regular Json.maxDepth (.object plainNote) := by decide +kernel
  have regular' : Regular Json.maxDepth (.object fencedNote) := by decide +kernel
  have none : fenceCount (.object plainNote) = 0 := by decide +kernel
  have one : fenceCount (.object fencedNote) = 1 := by decide +kernel
  obtain ⟨-, -, inside, -⟩ := read_object regular (by decide +kernel)
  obtain ⟨-, alone, -, breaks⟩ := read_object regular' (by decide +kernel)
  exact ⟨⟨regular, none, inside none⟩, regular', one, alone one.le, breaks (by omega)⟩

/-- An object with two fences, and braces between them. -/
def quotedBlock : Fields := [("dmNote", .text "```{}```")]

/-- The braces between the fences are taken for the object, and nothing is read from a block. -/
theorem quotedBlock_misread :
    Regular Json.maxDepth (.object quotedBlock) ∧ Json.isWritable (.object quotedBlock) ∧
      read (Json.write (.object quotedBlock)) = .ok [] ∧
      ¬ Rearranged (.object []) (.object quotedBlock) ∧
      ∃ e, read (inBlock (Json.write (.object quotedBlock))) = .error e := by
  have regular : Regular Json.maxDepth (.object quotedBlock) := by decide +kernel
  have writable : Json.isWritable (.object quotedBlock) := by decide +kernel
  refine ⟨regular, writable, ?_, ?_, fails_read_inBlock regular writable (by decide +kernel)⟩
  · have found : object? (Json.write (.object quotedBlock)) = some "{}" := by decide +kernel
    exact read_eq_ok found rfl
  · intro same
    cases same with
    | object _ _ keys _ => simpa [quotedBlock] using keys "dmNote"

end BattleMaps.Reply
