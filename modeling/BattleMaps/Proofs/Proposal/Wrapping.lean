import BattleMaps.Proofs.Proposal.Blocks

/-!
# Objects with text around them

A model rarely answers with an object and nothing else: it says what the object is, puts it into a
block, or both. What stands around the object is passed over. In front of a block stray back quotes
may even touch the fence; the fence is then found earlier, and the quotes become part of the inside,
where the braces leave them out.

## Main definitions

* `IsPlain` — whether a text holds no fence
* `IsBraced` — whether a text starts with an opening brace and ends with a closing one

## Main results

* `countFences_eq_zero_iff` — the texts without fences
* `splitFence_append_fence` — where the first fence is found if quotes stand in front of it
* `braced?_append`, `exists_of_braced?_eq_some` — what is found between braces
* `wrapped_object_found` — what stands around an object is passed over, and nothing is left to pass
  over
-/

namespace BattleMaps.Reply

variable {cs p q rest before behind body : List Char} {s t : String}

/-! ## Texts without fences -/

/-- Whether a text holds no fence. -/
def IsPlain (s : String) : Prop := ¬ fence <:+: s.toList

instance : DecidablePred IsPlain := fun s => inferInstanceAs (Decidable (¬ fence <:+: s.toList))

theorem countFences_eq_zero_iff : countFences cs = 0 ↔ ¬ fence <:+: cs := by
  induction cs using fence_induction with
  | nil => simp [fence]
  | fenced rest _ =>
    simp only [countFences_fence_append, Nat.succ_ne_zero, false_iff, not_not]
    exact (List.prefix_append fence rest).isInfix
  | plain c rest plain ih =>
    rw [countFences_cons plain, ih, List.infix_cons_iff]
    simp [plain]

theorem IsPlain.countFences_eq (h : IsPlain s) : countFences s.toList = 0 :=
  countFences_eq_zero_iff.mpr h

/-- A part of a text without fences is one. -/
theorem countFences_eq_zero_of_part (plain : countFences cs = 0) (part : p <:+: cs) :
    countFences p = 0 := by
  rw [countFences_eq_zero_iff] at plain ⊢
  intro found
  exact plain (found.trans part)

/-- No fence stands before the first one. -/
theorem countFences_before (first : splitFence cs = some (before, behind)) :
    countFences before = 0 := by
  induction cs using fence_induction generalizing before with
  | nil => contradiction
  | fenced rest _ =>
    obtain ⟨rfl, -⟩ := Prod.mk.inj (Option.some.inj first)
    rfl
  | plain c rest plain ih =>
    rw [splitFence_cons plain, Option.map_eq_some_iff] at first
    obtain ⟨⟨front, back⟩, found, same⟩ := first
    obtain ⟨rfl, rfl⟩ := Prod.mk.inj same
    have parted := (splitFence_eq_some found).1
    -- a fence here would already be one in front of the rest
    have notHere : ¬ fence <+: c :: front := by
      intro starts
      refine plain (starts.trans ?_)
      rw [parted, List.append_assoc]
      exact List.prefix_append (c :: front) _
    rw [countFences_cons notHere, ih found]

/-- Back quotes in front of a fence are exchanged with it: the first three are taken. -/
theorem splitFence_append_fence (plain : countFences p = 0) (rest : List Char) :
    ∃ before n, n < 3 ∧ p = before ++ List.replicate n '\x60' ∧
      splitFence (p ++ (fence ++ rest)) = some (before, List.replicate n '\x60' ++ rest) := by
  induction p using fence_induction with
  | nil => exact ⟨[], 0, by omega, rfl, splitFence_fence_append⟩
  | fenced more _ => simp at plain
  | plain c more notFence ih =>
    by_cases early : fence <+: c :: (more ++ (fence ++ rest))
    · -- The quotes together with those of the fence make a fence, so there are one or two of them.
      match more, notFence, early with
      | [], _, early =>
        obtain rfl : '\x60' = c := (List.cons_prefix_cons.mp early).1
        exact ⟨[], 1, by omega, rfl, rfl⟩
      | [d], _, early =>
        obtain ⟨first, early⟩ := List.cons_prefix_cons.mp early
        obtain ⟨second, -⟩ := List.cons_prefix_cons.mp early
        obtain rfl : '\x60' = c := first
        obtain rfl : '\x60' = d := second
        exact ⟨[], 2, by omega, rfl, rfl⟩
      | d :: e :: more, notFence, early =>
        have whole : c :: d :: e :: more <+: c :: d :: e :: (more ++ (fence ++ rest)) :=
          List.prefix_append (c :: d :: e :: more) (fence ++ rest)
        exact absurd (List.prefix_of_prefix_length_le early whole (by simp [fence])) notFence
    · rw [countFences_cons notFence] at plain
      obtain ⟨before, n, few, rfl, first⟩ := ih plain
      refine ⟨c :: before, n, few, rfl, ?_⟩
      rw [List.cons_append, splitFence_cons early, first]
      rfl

/-! ## Braces -/

/-- Whether a text starts with an opening brace and ends with a closing one. -/
def IsBraced (s : String) : Prop := s.toList.head? = some '{' ∧ s.toList.getLast? = some '}'

instance : DecidablePred IsBraced := fun _ => inferInstanceAs (Decidable (_ ∧ _))

theorem exists_eq_braces (opens : cs.head? = some '\x7b') (closes : cs.getLast? = some '\x7d') :
    ∃ body, cs = '{' :: (body ++ ['}']) := by
  obtain ⟨rest, rfl⟩ := List.head?_eq_some_iff.mp opens
  cases rest using List.reverseRecOn with
  | nil => exact absurd closes (by decide)
  | append_singleton body c =>
    rw [← List.cons_append, List.getLast?_concat, Option.some.injEq] at closes
    exact ⟨body, by rw [closes]⟩

theorem IsBraced.exists_body (h : IsBraced s) : ∃ body, s.toList = '{' :: (body ++ ['}']) :=
  exists_eq_braces h.1 h.2

/-- What stands between the first opening brace and the last closing one is found with them. -/
theorem braced?_append (opened : '\x7b' ∉ p) (closed : '\x7d' ∉ q) :
    braced? (p ++ '{' :: (body ++ ['}']) ++ q) = some ('{' :: (body ++ ['}'])) := by
  have front : (p ++ '{' :: (body ++ ['}']) ++ q).dropWhile (· != '\x7b') =
      '{' :: (body ++ ['}']) ++ q := by
    rw [List.append_assoc, List.dropWhile_append_of_pos]
    · exact List.dropWhile_cons_of_neg (by decide)
    · intro c there
      rw [bne_iff_ne]
      rintro rfl
      exact opened there
  have back : ('{' :: (body ++ ['}']) ++ q).reverse.dropWhile (· != '\x7d') =
      ('{' :: (body ++ ['}'])).reverse := by
    rw [List.reverse_append, List.dropWhile_append_of_pos]
    · simp
    · intro c there
      rw [bne_iff_ne]
      rintro rfl
      exact closed (List.mem_reverse.mp there)
  unfold braced?
  simp only [front, back, List.reverse_reverse]

theorem head?_dropWhile_ne {c : Char} (found : cs.dropWhile (· != c) ≠ []) :
    (cs.dropWhile (· != c)).head? = some c := by
  have stops := List.head?_dropWhile_not (· != c) cs
  rw [List.head?_eq_some_head found] at stops ⊢
  simpa using stops

/-- What is found between braces is a part of the text, and starts and ends with them. -/
theorem exists_of_braced?_eq_some (h : braced? cs = some body) :
    body <:+: cs ∧ ∃ inside, body = '{' :: (inside ++ ['}']) := by
  have starts := prefix_of_braced?_eq_some h
  refine ⟨starts.isInfix.trans (List.dropWhile_suffix _).isInfix, ?_⟩
  unfold braced? at h
  dsimp only at h
  split at h
  · contradiction
  · rename_i filled
    obtain rfl := Option.some.inj h
    refine exists_eq_braces ?_ ?_
    · have opened : cs.dropWhile (· != '\x7b') ≠ [] := fun empty => filled (by rw [empty]; rfl)
      obtain ⟨tail, parted⟩ := starts
      have heads := congrArg List.head? parted
      rwa [List.head?_append_of_ne_nil _ filled, head?_dropWhile_ne opened] at heads
    · rw [List.getLast?_reverse]
      exact head?_dropWhile_ne fun empty => filled (by rw [empty]; rfl)

/-- Braces keep fences apart: a text has at least the fences of a part between them. -/
theorem countFences_le_of_part (part : '{' :: (body ++ ['}']) <:+: cs) :
    countFences body ≤ countFences cs := by
  obtain ⟨before, behind, rfl⟩ := part
  have spelled : before ++ '{' :: (body ++ ['}']) ++ behind =
      before ++ '{' :: (body ++ '}' :: behind) := by
    simp
  rw [spelled, countFences_append_cons (by decide), countFences_append_cons (by decide)]
  omega

/-- What stands around a text in braces is passed over, blanks included. -/
theorem IsBraced.braced?_trimChars (h : IsBraced s) (opened : '\x7b' ∉ p) (closed : '\x7d' ∉ q) :
    braced? (Text.trimChars (p ++ s.toList ++ q)) = some s.toList := by
  obtain ⟨body, spelled⟩ := h.exists_body
  rw [spelled, Text.trimChars_append trimChars_braces (List.cons_ne_nil _ _)]
  refine braced?_append (fun there => opened ?_) fun there => closed ?_
  · exact (List.dropWhile_suffix _).mem there
  · exact (List.rdropWhile_prefix _ _).mem there

/-! ## Blocks with text around them -/

/-- The language tag is dropped, unless back quotes stand between it and the fence. -/
theorem exists_drop_tag_eq {n : Nat} (few : n < 3) (rest : List Char) :
    let opened := List.replicate n '\x60' ++ ("json".toList ++ rest)
    ∃ tag, countFences tag = 0 ∧ '{' ∉ tag ∧
      (if "json".toList.isPrefixOf opened then opened.drop 4 else opened) = tag ++ rest :=
  match n, few with
  | 0, _ => ⟨[], rfl, by decide, rfl⟩
  | 1, _ => ⟨"`json".toList, rfl, by decide, rfl⟩
  | 2, _ => ⟨"``json".toList, rfl, by decide, rfl⟩

/-- The inside of the block around a text without fences, whatever stands in front of the block and
behind it. -/
theorem fenced?_append_block_append (plain : countFences cs = 0) (front : countFences p = 0)
    (q : List Char) :
    ∃ tag, '{' ∉ tag ∧
      fenced? (p ++ (fence ++ ("json".toList ++ '\n' :: (cs ++ '\n' :: fence))) ++ q) =
        some (Text.trimChars (tag ++ cs ++ ['\n'])) := by
  obtain ⟨before, n, few, -, first⟩ := splitFence_append_fence front
    ("json".toList ++ '\n' :: (cs ++ '\n' :: (fence ++ q)))
  have spelled : p ++ (fence ++ ("json".toList ++ '\n' :: (cs ++ '\n' :: fence))) ++ q =
      p ++ (fence ++ ("json".toList ++ '\n' :: (cs ++ '\n' :: (fence ++ q)))) := by
    simp
  obtain ⟨tag, plainTag, apart, opened⟩ :=
    exists_drop_tag_eq few ('\n' :: (cs ++ '\n' :: (fence ++ q)))
  refine ⟨tag ++ ['\n'], by simpa using apart, ?_⟩
  rw [spelled, fenced?_of_splitFence first, opened,
    splitFence_append_cons_of_plain plainTag (by decide),
    splitFence_append_cons_of_plain plain (by decide), splitFence_fence_append]
  simp

/-- A text in braces is found in a block around it, whatever stands in front of the block and behind
it. -/
theorem object?_append_inBlock_append (braced : IsBraced s) (plain : IsPlain s) {before : String}
    (front : IsPlain before) (behind : String) :
    object? (before ++ inBlock s ++ behind) = some s := by
  have front' : countFences (Text.trimLeft before.toList) = 0 :=
    countFences_eq_zero_of_part front.countFences_eq (List.dropWhile_suffix _).isInfix
  obtain ⟨tag, apart, inside⟩ :=
    fenced?_append_block_append plain.countFences_eq front' (Text.trimRight behind.toList)
  have trimmed := Text.trimChars_append (trimChars_inBlock (s := s))
    (by simp [toList_inBlock, fence]) before.toList behind.toList
  rw [object?, String.toList_append, String.toList_append, trimmed, toList_inBlock, inside,
    Option.getD_some, braced.braced?_trimChars apart (by decide), Option.map_some,
    String.ofList_toList]

/-- A text in braces is found with other text around it. -/
theorem object?_append_append (braced : IsBraced s) (plain : IsPlain s) {before behind : String}
    (front : IsPlain before) (opened : '{' ∉ before.toList) (back : IsPlain behind)
    (closed : '}' ∉ behind.toList) : object? (before ++ s ++ behind) = some s := by
  obtain ⟨body, spelled⟩ := braced.exists_body
  have none : fenced? (Text.trimChars (before.toList ++ s.toList ++ behind.toList)) = none := by
    have count : countFences (before.toList ++ s.toList ++ behind.toList) = 0 := by
      have inner := plain.countFences_eq
      rw [spelled, countFences_enclosed (by decide) (by decide)] at inner
      rw [spelled, List.append_assoc, List.cons_append, countFences_append_cons (by decide),
        List.append_assoc, List.singleton_append, countFences_append_cons (by decide),
        front.countFences_eq, inner, back.countFences_eq]
    rw [fenced?_eq_none_iff, countFences_eq_zero_of_part count (Text.trimChars_isInfix _)]
    exact Nat.zero_le 1
  rw [object?, String.toList_append, String.toList_append, none, Option.getD_none,
    braced.braced?_trimChars opened closed, Option.map_some, String.ofList_toList]

/-! ## What is found is found again -/

/-- Where an object is looked for there is at most one fence. -/
theorem countFences_searched_le (cs : List Char) : countFences ((fenced? cs).getD cs) ≤ 1 := by
  cases block : fenced? cs with
  | none => exact fenced?_eq_none_iff.mp block
  | some inside =>
    cases first : splitFence cs with
    | none =>
      rw [fenced?, first] at block
      contradiction
    | some parts =>
      rw [fenced?_of_splitFence first, Option.map_eq_some_iff] at block
      obtain ⟨⟨before, behind⟩, second, rfl⟩ := block
      rw [Option.getD_some,
        countFences_eq_zero_of_part (countFences_before second) (Text.trimChars_isInfix before)]
      exact Nat.zero_le 1

theorem object?_of_isBraced (spelled : s.toList = '{' :: (body ++ ['}']))
    (few : countFences body ≤ 1) : object? s = some s := by
  have none : fenced? ('{' :: (body ++ ['}'])) = none := by
    rwa [fenced?_eq_none_iff, countFences_enclosed (by decide) (by decide)]
  rw [object?, spelled, trimChars_braces, none, Option.getD_none, braced?_eq_some, Option.map_some,
    ← spelled, String.ofList_toList]

/-- What was found in a reply is left as it is. -/
theorem object?_of_object?_eq_some (found : object? s = some t) : object? t = some t := by
  obtain ⟨taken, between, rfl⟩ := Option.map_eq_some_iff.mp found
  obtain ⟨part, body, rfl⟩ := exists_of_braced?_eq_some between
  exact object?_of_isBraced (String.toList_ofList)
    ((countFences_le_of_part part).trans (countFences_searched_le _))

/-- What stands around a text in braces is passed over if the text holds no fence: around its block
anything that has no fence in front of the block, and without a block anything that has neither a
fence nor a brace that opens before the text or closes behind it. Whatever is found in a reply is
found again in itself. -/
theorem wrapped_object_found :
    (∀ s, IsBraced s → IsPlain s →
      (∀ before behind, IsPlain before → object? (before ++ inBlock s ++ behind) = some s) ∧
      ∀ before behind, IsPlain before → '{' ∉ before.toList → IsPlain behind →
        '}' ∉ behind.toList → object? (before ++ s ++ behind) = some s) ∧
    ∀ s t, object? s = some t → object? t = some t := by
  refine ⟨fun s braced plain => ⟨?_, ?_⟩, fun s t => object?_of_object?_eq_some⟩
  · intro before behind front
    exact object?_append_inBlock_append braced plain front behind
  · intro before behind front opened back closed
    exact object?_append_append braced plain front opened back closed

/-- Back quotes that touch the fence, braces around the block and a second block behind it. -/
theorem wrapped_note_found :
    let note := "\x7b\"dmNote\": \"Roll `2d6` \x7d``\"\n\x7d"
    IsBraced note ∧ IsPlain note ∧
      object? ("A map \x7b1\x7d:\n``" ++ inBlock note ++ "`\n```{}```") = some note ∧
      object? (" \x7d A map:``" ++ note ++ "``\x7b") = some note ∧
      object? "A map:\n```\n[\x7b\x7d]\n``` " = some "{}" ∧ object? "{}" = some "{}" := by
  intro note
  have braced : IsBraced note := by decide
  have plain : IsPlain note := by decide
  obtain ⟨around, again⟩ := wrapped_object_found
  obtain ⟨inBlock, alone⟩ := around note braced plain
  have found : object? "A map:\n```\n[\x7b\x7d]\n``` " = some "{}" := by decide +kernel
  exact ⟨braced, plain, inBlock _ _ (by decide),
    alone _ _ (by decide) (by decide) (by decide) (by decide), found, again _ _ found⟩

end BattleMaps.Reply
