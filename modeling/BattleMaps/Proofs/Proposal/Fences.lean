import BattleMaps.Proofs.Json.Characters
import BattleMaps.Proofs.Proposal.Replies

/-!
# Counting fences

The first two fences of a text enclose its fenced block. A character other than a back quote keeps
fences apart, so those before and behind it are counted on their own. Back quotes are written as
they are, and nothing else is written with one: the fences of a written value are those of its keys
and texts.

## Main definitions

* `countFences` — how many fences stand in a text
* `fenceCount` — how many stand in the keys and texts of a value

## Main results

* `splitFence_eq_some` — the first fence is one of those that count
* `fenced?_eq_none_iff` — a fenced block takes two fences
* `countFences_writeChars` — writing brings in no fences and loses none
-/

namespace BattleMaps.Reply

open Json (Regular commaSeparated writeChar writeChars writeMember writeText)

variable {cs rest before behind body : List Char} {c : Char} {depth : Nat} {v : Json}
  {items : List Json} {fields : Fields}

/-! ## Counting fences -/

/-- How many fences stand in a text, one behind the other. -/
def countFences : List Char → Nat
  | '\x60' :: '\x60' :: '\x60' :: rest => countFences rest + 1
  | _ :: rest => countFences rest
  | [] => 0

theorem fence_append : fence ++ rest = '\x60' :: '\x60' :: '\x60' :: rest := rfl

theorem length_fence : fence.length = 3 := rfl

@[simp] theorem countFences_nil : countFences [] = 0 := rfl

@[simp] theorem countFences_fence_append : countFences (fence ++ rest) = countFences rest + 1 := rfl

theorem countFences_cons (plain : ¬ fence <+: c :: rest) :
    countFences (c :: rest) = countFences rest := by
  rw [countFences]
  rintro more rfl rfl
  exact plain (List.prefix_append fence more)

theorem not_fence_prefix_cons (apart : c ≠ '\x60') : ¬ fence <+: c :: rest := fun starts =>
  apart (List.cons_prefix_cons.mp starts).1.symm

/-- A text is empty, or starts with a fence, or with a character that starts none. -/
theorem fence_induction {motive : List Char → Prop} (cs : List Char) (nil : motive [])
    (fenced : ∀ rest, motive rest → motive (fence ++ rest))
    (plain : ∀ c rest, ¬ fence <+: c :: rest → motive rest → motive (c :: rest)) : motive cs := by
  induction cs using countFences.induct with
  | case1 rest ih => exact fenced rest ih
  | case2 c rest notFence ih =>
    refine plain c rest ?_ ih
    rintro ⟨more, same⟩
    obtain ⟨first, others⟩ := List.cons.inj (fence_append.symm.trans same)
    exact notFence more first.symm others.symm
  | case3 => exact nil

/-- A fence does not stretch over another character. -/
theorem fence_prefix_append_cons (apart : c ≠ '\x60') :
    fence <+: cs ++ c :: rest ↔ fence <+: cs := by
  match cs with
  | [] | [_] | [_, _] => simp [fence, List.cons_prefix_cons, apart.symm]
  | _ :: _ :: _ :: _ => simp [fence, List.cons_prefix_cons]

theorem not_fence_prefix_append_cons {d : Char} (plain : ¬ fence <+: d :: cs)
    (apart : c ≠ '\x60') : ¬ fence <+: d :: (cs ++ c :: rest) := by
  rwa [← List.cons_append, fence_prefix_append_cons apart]

/-- The fences before a character and those behind it are all there are. -/
theorem countFences_append_cons (apart : c ≠ '\x60') :
    countFences (cs ++ c :: rest) = countFences cs + countFences rest := by
  induction cs using fence_induction with
  | nil =>
    rw [List.nil_append, countFences_cons (not_fence_prefix_cons apart), countFences_nil, zero_add]
  | fenced more ih =>
    rw [List.append_assoc, countFences_fence_append, countFences_fence_append, ih]
    omega
  | plain d more plain ih =>
    rw [List.cons_append, countFences_cons (not_fence_prefix_append_cons plain apart),
      countFences_cons plain, ih]

/-- Brackets and quotes around a text do not count. -/
theorem countFences_enclosed {d : Char} (apart : c ≠ '\x60') (apart' : d ≠ '\x60') :
    countFences (c :: (cs ++ [d])) = countFences cs := by
  rw [countFences_cons (not_fence_prefix_cons apart), countFences_append_cons apart',
    countFences_nil, add_zero]

theorem countFences_append_of_plain (plain : '\x60' ∉ cs) :
    countFences (cs ++ rest) = countFences rest := by
  induction cs with
  | nil => rfl
  | cons c cs ih =>
    rw [List.mem_cons, not_or] at plain
    rw [List.cons_append, countFences_cons (not_fence_prefix_cons (Ne.symm plain.1)), ih plain.2]

/-! ## The first fence -/

@[simp] theorem splitFence_fence_append : splitFence (fence ++ rest) = some ([], rest) := rfl

theorem splitFence_cons (plain : ¬ fence <+: c :: rest) :
    splitFence (c :: rest) =
      (splitFence rest).map fun (before, behind) => (c :: before, behind) := by
  rw [splitFence, if_neg]
  rwa [List.isPrefixOf_iff_prefix]

theorem splitFence_eq_none_iff : splitFence cs = none ↔ countFences cs = 0 := by
  induction cs using fence_induction with
  | nil => exact ⟨fun _ => rfl, fun _ => rfl⟩
  | fenced rest _ => simp
  | plain c rest plain ih =>
    rw [splitFence_cons plain, countFences_cons plain, Option.map_eq_none_iff, ih]

/-- The first fence parts a text and is one of those that count. -/
theorem splitFence_eq_some (h : splitFence cs = some (before, behind)) :
    cs = before ++ fence ++ behind ∧ countFences cs = countFences behind + 1 := by
  induction cs using fence_induction generalizing before with
  | nil => contradiction
  | fenced rest _ =>
    obtain ⟨rfl, rfl⟩ := Prod.mk.inj (Option.some.inj h)
    exact ⟨rfl, rfl⟩
  | plain c rest plain ih =>
    rw [splitFence_cons plain, Option.map_eq_some_iff] at h
    obtain ⟨⟨front, back⟩, found, same⟩ := h
    obtain ⟨rfl, rfl⟩ := Prod.mk.inj same
    obtain ⟨parted, count⟩ := ih found
    exact ⟨by rw [parted]; rfl, by rw [countFences_cons plain, count]⟩

theorem exists_splitFence (fenced : 0 < countFences cs) :
    ∃ before behind, splitFence cs = some (before, behind) := by
  cases first : splitFence cs with
  | none =>
    have none := splitFence_eq_none_iff.mp first
    omega
  | some parts => exact ⟨parts.1, parts.2, rfl⟩

/-- Where no fence stands before a character, the first one is found behind it. -/
theorem splitFence_append_cons_of_plain (plain : countFences cs = 0) (apart : c ≠ '\x60') :
    splitFence (cs ++ c :: rest) =
      (splitFence rest).map fun (before, behind) => (cs ++ c :: before, behind) := by
  induction cs using fence_induction with
  | nil => exact splitFence_cons (not_fence_prefix_cons apart)
  | fenced more _ => simp at plain
  | plain d more notFence ih =>
    rw [countFences_cons notFence] at plain
    rw [List.cons_append, splitFence_cons (not_fence_prefix_append_cons notFence apart), ih plain,
      Option.map_map]
    rfl

/-- A fence before a character is found whatever stands behind it. -/
theorem splitFence_append_cons_of_fenced (fenced : 0 < countFences cs) (apart : c ≠ '\x60') :
    splitFence (cs ++ c :: rest) =
      (splitFence cs).map fun (before, behind) => (before, behind ++ c :: rest) := by
  induction cs using fence_induction with
  | nil => simp at fenced
  | fenced more _ => rw [List.append_assoc, splitFence_fence_append, splitFence_fence_append]; rfl
  | plain d more notFence ih =>
    rw [countFences_cons notFence] at fenced
    rw [List.cons_append, splitFence_cons (not_fence_prefix_append_cons notFence apart),
      splitFence_cons notFence, ih fenced, Option.map_map, Option.map_map]
    rfl

/-! ## The first block -/

theorem fenced?_of_splitFence (first : splitFence cs = some (before, behind)) :
    fenced? cs =
      (splitFence (if "json".toList.isPrefixOf behind then behind.drop 4 else behind)).map
        fun parts => Text.trimChars parts.1 := by
  rw [fenced?, first, Option.map_eq_bind]
  rfl

theorem countFences_drop_tag :
    countFences (if "json".toList.isPrefixOf cs then cs.drop 4 else cs) = countFences cs := by
  split_ifs with tagged
  · obtain ⟨rest, rfl⟩ := List.isPrefixOf_iff_prefix.mp tagged
    exact (countFences_append_of_plain (by decide)).symm
  · rfl

/-- A fenced block takes two fences. -/
theorem fenced?_eq_none_iff : fenced? cs = none ↔ countFences cs ≤ 1 := by
  cases first : splitFence cs with
  | none =>
    have count := splitFence_eq_none_iff.mp first
    rw [fenced?, first]
    exact ⟨fun _ => by omega, fun _ => rfl⟩
  | some parts =>
    obtain ⟨-, count⟩ := splitFence_eq_some first
    rw [fenced?_of_splitFence first, Option.map_eq_none_iff, splitFence_eq_none_iff,
      countFences_drop_tag]
    omega

/-- The inside of a block is shorter than the text, at least by the fences. -/
theorem length_lt_of_fenced?_eq_some (h : fenced? cs = some body) : body.length < cs.length := by
  cases first : splitFence cs with
  | none =>
    rw [fenced?, first] at h
    contradiction
  | some parts =>
    rw [fenced?_of_splitFence first, Option.map_eq_some_iff] at h
    obtain ⟨⟨inside, back⟩, second, rfl⟩ := h
    have opened := congrArg List.length (splitFence_eq_some first).1
    have closed := congrArg List.length (splitFence_eq_some second).1
    have tag : (if "json".toList.isPrefixOf parts.2 then parts.2.drop 4 else parts.2).length ≤
        parts.2.length := by
      split_ifs
      · exact (List.drop_suffix 4 parts.2).length_le
      · exact le_rfl
    have trimmed := Text.length_trimChars_le inside
    simp only [List.length_append, length_fence] at opened closed
    dsimp only
    omega

/-! ## Fences in written values -/

mutual

/-- How many fences stand in the keys and texts of a value. -/
def fenceCount : Json → Nat
  | .text s => countFences s.toList
  | .array items => fenceCountItems items
  | .object fields => fenceCountMembers fields
  | _ => 0

def fenceCountItems : List Json → Nat
  | [] => 0
  | item :: rest => fenceCount item + fenceCountItems rest

def fenceCountMembers : List (String × Json) → Nat
  | [] => 0
  | (key, value) :: rest => countFences key.toList + fenceCount value + fenceCountMembers rest

end

theorem fenceCount_array : fenceCount (.array items) = (items.map fenceCount).sum := by
  rw [fenceCount]
  induction items with
  | nil => rfl
  | cons item rest ih => rw [fenceCountItems, ih, List.map_cons, List.sum_cons]

theorem fenceCount_object :
    fenceCount (.object fields) =
      (fields.map fun m => countFences m.1.toList + fenceCount m.2).sum := by
  rw [fenceCount]
  induction fields with
  | nil => rfl
  | cons m rest ih => rw [fenceCountMembers, ih, List.map_cons, List.sum_cons]

theorem writeChar_backQuote : writeChar '\x60' = ['\x60'] := by decide

/-- No other character is written with a back quote. -/
theorem backQuote_not_mem_writeChar (apart : c ≠ '\x60') : '\x60' ∉ writeChar c := by
  intro found
  rcases Json.mem_writeChar found with ⟨same, -⟩ | escape | atom
  · exact apart same.symm
  · exact absurd escape (by decide)
  · exact absurd atom (by decide)

theorem exists_cons_writeChar (c : Char) : ∃ d ds, writeChar c = d :: ds := by
  unfold writeChar
  split_ifs <;> exact ⟨_, _, rfl⟩

/-- Back quotes at the start of a written text stand at the start of the text. -/
theorem eq_cons_of_flatMap_writeChar (h : cs.flatMap writeChar = '\x60' :: rest) :
    ∃ more, cs = '\x60' :: more ∧ more.flatMap writeChar = rest := by
  cases cs with
  | nil => contradiction
  | cons c more =>
    by_cases quote : c = '\x60'
    · subst quote
      rw [List.flatMap_cons, writeChar_backQuote] at h
      exact ⟨more, rfl, (List.cons.inj h).2⟩
    · obtain ⟨d, ds, spelled⟩ := exists_cons_writeChar c
      rw [List.flatMap_cons, spelled, List.cons_append] at h
      have there : '\x60' ∈ writeChar c := by
        rw [spelled, (List.cons.inj h).1]
        exact List.mem_cons_self ..
      exact absurd there (backQuote_not_mem_writeChar quote)

theorem fence_prefix_flatMap_writeChar (starts : fence <+: cs.flatMap writeChar) :
    fence <+: cs := by
  obtain ⟨rest, written⟩ := starts
  obtain ⟨second, rfl, written'⟩ := eq_cons_of_flatMap_writeChar written.symm
  obtain ⟨third, rfl, written''⟩ := eq_cons_of_flatMap_writeChar written'
  obtain ⟨more, rfl, -⟩ := eq_cons_of_flatMap_writeChar written''
  exact List.prefix_append fence more

theorem countFences_flatMap_writeChar :
    countFences (cs.flatMap writeChar) = countFences cs := by
  induction cs using fence_induction with
  | nil => rfl
  | fenced rest ih =>
    rw [List.flatMap_append, countFences_fence_append, ← ih]
    rfl
  | plain c rest plain ih =>
    by_cases quote : c = '\x60'
    · subst quote
      have plain' : ¬ fence <+: '\x60' :: rest.flatMap writeChar := fun starts =>
        plain (fence_prefix_flatMap_writeChar starts)
      rw [List.flatMap_cons, writeChar_backQuote, List.singleton_append, countFences_cons plain',
        countFences_cons plain, ih]
    · rw [List.flatMap_cons, countFences_append_of_plain (backQuote_not_mem_writeChar quote),
        countFences_cons plain, ih]

theorem countFences_writeText (s : String) : countFences (writeText s) = countFences s.toList := by
  rw [writeText, List.cons_append, countFences_enclosed (by decide) (by decide),
    countFences_flatMap_writeChar]

theorem countFences_commaSeparated (parts : List (List Char)) :
    countFences (commaSeparated parts) = (parts.map countFences).sum := by
  induction parts with
  | nil => rfl
  | cons first others ih =>
    cases others with
    | nil => simp [commaSeparated]
    | cons next others =>
      rw [Json.commaSeparated_cons_cons, countFences_append_cons (by decide), ih]
      rfl

theorem countFences_of_isAtom (atom : v.isAtom) : countFences (writeChars v) = 0 := by
  have plain : '\x60' ∉ writeChars v := fun found =>
    absurd (Json.isAtomChar_of_mem_writeChars atom found) (by decide)
  rw [← List.append_nil (writeChars v), countFences_append_of_plain plain, countFences_nil]

/-- Writing brings in no fences and loses none. -/
theorem countFences_writeChars (regular : Regular depth v) :
    countFences (writeChars v) = fenceCount v := by
  induction regular with
  | text s => rw [writeChars, countFences_writeText, fenceCount]
  | array _ ih =>
    rw [Json.writeChars_array, countFences_enclosed (by decide) (by decide),
      countFences_commaSeparated, fenceCount_array, List.map_map]
    congr 1
    exact List.map_congr_left ih
  | @object _ fields _ _ ih =>
    rw [Json.writeChars_object, countFences_enclosed (by decide) (by decide),
      countFences_commaSeparated, fenceCount_object, List.map_map]
    have member : ∀ m ∈ fields, countFences (writeMember m) =
        countFences m.1.toList + fenceCount m.2 := by
      intro m found
      rw [writeMember, countFences_append_cons (by decide), countFences_writeText, ih m found]
    -- sorting only changes the order in which the members are counted
    rw [(Json.sortByKey_perm.map _).sum_eq]
    congr 1
    exact List.map_congr_left member
  | _ => exact countFences_of_isAtom rfl

end BattleMaps.Reply
