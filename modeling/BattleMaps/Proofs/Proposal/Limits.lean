import BattleMaps.Proofs.Json.Limits
import BattleMaps.Proofs.Proposal.Fences

/-!
# Replies past the limits

Whatever is wrong with a reply is the same kind of violation, whether it holds no object, or some
other value, or what is no JSON. An object that is past a limit of the reader is the exception:
reading ends at the limit then, and that is no violation.

## Main definitions

* `holding` — an object that holds nothing but a value
* `nested` — lists inside one another

## Main results

* `read_eq_limit_iff` — where a limit comes from
* `read_limit_iff` — a reply whose object was written ends in a limit if the object is past one
* `read_ends` — all that reading a reply can come to
* `number_lists_refused` — an integer and lists that are past a limit
-/

namespace BattleMaps.Reply

open Json (IsWithin Regular)

variable {s body : String} {e : Json.ReadError} {depth n : Nat} {v : Json}
  {fields : Fields}

/-! ## Where a limit comes from -/

/-- A limit is one of the reader of the object. -/
theorem read_eq_limit_iff :
    read s = .error (.limit e) ↔
      ∃ body, object? s = some body ∧ Json.read body = .error e ∧ e.isLimit := by
  unfold read
  cases found : object? s with
  | none => simp
  | some body =>
    cases result : Json.read body with
    | ok v => cases v <;> simp [result]
    | error e' =>
      cases e' with
      | malformed what line column pos =>
        simp only [Option.some.injEq, exists_eq_left', result, Except.error.injEq, reduceCtorEq,
          false_iff, not_and]
        rintro rfl
        exact Bool.false_ne_true
      | _ =>
        simp only [Option.some.injEq, exists_eq_left', result, Except.error.injEq,
          Fault.limit.injEq, iff_self_and]
        rintro rfl
        rfl

/-- Apart from limits, whatever is wrong with a reply is the same kind of violation. -/
theorem family_of_read_eq_error {v : Violation} (h : read s = .error (.violation v)) :
    v.family = .response := by
  unfold read at h
  split at h
  · obtain rfl := Fault.violation.inj (Except.error.inj h)
    rfl
  · split at h
    · contradiction
    · obtain rfl := Fault.violation.inj (Except.error.inj h)
      rfl
    · obtain rfl := Fault.violation.inj (Except.error.inj h)
      rfl
    · cases Except.error.inj h

/-- A reply whose object was written ends in a limit exactly if the object is past one. -/
theorem read_limit_iff (regular : Regular depth (.object fields))
    (found : object? s = some (Json.write (.object fields))) :
    (∃ e, read s = .error (.limit e)) ↔ ¬ IsWithin Json.maxDepth (.object fields) := by
  rw [← Json.refused_read_write_iff regular]
  simp only [read_eq_limit_iff, found, Option.some.injEq, exists_eq_left']

/-! ## Objects past the limits -/

/-- A written object is found in the reply that is its text, unless it holds a fenced block. -/
theorem object?_write_of_fenceCount (regular : Regular depth (.object fields))
    (few : fenceCount (.object fields) ≤ 1) :
    object? (Json.write (.object fields)) = some (Json.write (.object fields)) := by
  refine object?_write (fenced?_eq_none_iff.mpr ?_)
  rwa [countFences_writeChars regular]

/-- An object that holds nothing but the given value. -/
def holding (v : Json) : Fields := [("n", v)]

theorem regular_holding (regular : Regular depth v) : Regular (depth + 1) (.object (holding v)) :=
  .object (by simp [holding]) (List.forall_mem_singleton.mpr regular)

theorem fenceCount_holding : fenceCount (.object (holding v)) = fenceCount v := by
  simp [fenceCount_object, holding, countFences]

theorem isWithin_of_holding (h : IsWithin (depth + 1) (.object (holding v))) :
    IsWithin depth v := by
  have distinct : Fields.HasDistinctKeys (holding v) := by simp [holding]
  exact (Json.isWithin_object distinct).mp h _ (List.mem_singleton_self _)

/-- Lists inside one another, so many around the innermost one. -/
def nested : Nat → Json
  | 0 => .array []
  | n + 1 => .array [nested n]

theorem regular_nested_iff : Regular depth (nested n) ↔ n < depth := by
  induction n generalizing depth with
  | zero =>
    refine ⟨fun regular => ?_, fun pos => ?_⟩
    · cases regular
      exact Nat.succ_pos _
    · obtain ⟨depth, rfl⟩ := Nat.exists_eq_succ_of_ne_zero pos.ne'
      exact .array (by simp)
  | succ n ih =>
    refine ⟨fun regular => ?_, fun deep => ?_⟩
    · cases regular with
      | array inside =>
        exact Nat.succ_lt_succ (ih.mp (inside _ (List.mem_singleton_self _)))
    · obtain ⟨depth, rfl⟩ := Nat.exists_eq_succ_of_ne_zero (Nat.ne_zero_of_lt deep)
      exact .array (List.forall_mem_singleton.mpr (ih.mpr (Nat.lt_of_succ_lt_succ deep)))

theorem fenceCount_nested : fenceCount (nested n) = 0 := by
  induction n with
  | zero => rfl
  | succ n ih => simp [nested, fenceCount_array, ih]

/-- A reply that is an object ends in a limit if the object holds a value past the limits, where one
level of nesting is left to the object itself. -/
theorem holding_refused (regular : Regular depth v) (few : fenceCount v ≤ 1)
    (past : ¬ IsWithin (Json.maxDepth - 1) v) :
    ∃ e, read (Json.write (.object (holding v))) = .error (.limit e) := by
  have found := object?_write_of_fenceCount (regular_holding regular) (by rwa [fenceCount_holding])
  exact (read_limit_iff (regular_holding regular) found).mpr fun within =>
    past (isWithin_of_holding within)

/-! ## All that reading can come to -/

/-- Reading a reply yields an object, or ends in the one kind of violation, or at a limit of the
reader that the object in the reply passes. Of the replies whose object was written, those end at a
limit whose object has an integer with too many digits or is nested too deeply. -/
theorem read_ends (reply : Option String) :
    ((∃ fields, read (reply.getD "") = .ok fields) ∨
      (∃ v, read (reply.getD "") = .error (.violation v) ∧ v.family = .response) ∨
      ∃ e body, read (reply.getD "") = .error (.limit e) ∧ object? (reply.getD "") = some body ∧
        Json.PassesLimit body.toList e) ∧
    ∀ depth fields, Regular depth (.object fields) →
      object? (reply.getD "") = some (Json.write (.object fields)) →
      ((∃ e, read (reply.getD "") = .error (.limit e)) ↔
        ¬ IsWithin Json.maxDepth (.object fields)) := by
  refine ⟨?_, fun depth fields regular found => read_limit_iff regular found⟩
  cases result : read (reply.getD "") with
  | ok fields => exact .inl ⟨fields, rfl⟩
  | error fault =>
    cases fault with
    | violation v => exact .inr (.inl ⟨v, rfl, family_of_read_eq_error result⟩)
    | limit e =>
      obtain ⟨body, found, refused, limit⟩ := read_eq_limit_iff.mp result
      exact .inr (.inr ⟨e, body, rfl, found, Json.passesLimit_of_read_eq_error refused limit⟩)

/-- A reply with a small number is within the limits. -/
theorem small_number_read :
    Regular 1 (.object (holding (.int 7))) ∧
      object? (Json.write (.object (holding (.int 7)))) =
        some (Json.write (.object (holding (.int 7)))) ∧
      ¬ ∃ e, read (Json.write (.object (holding (.int 7)))) = .error (.limit e) := by
  have regular : Regular 1 (.object (holding (.int 7))) := regular_holding (.int 7)
  have found := object?_write_of_fenceCount regular (by decide +kernel)
  obtain ⟨-, ends⟩ := read_ends (some (Json.write (.object (holding (.int 7)))))
  refine ⟨regular, found, fun refused => (ends 1 _ regular found).mp refused ?_⟩
  exact ⟨regular.mono (by decide), by decide +kernel⟩

/-- Neither an object nor a violation comes of an integer with one digit too many, or of three
thousand lists inside one another, though both replies are JSON objects and nothing else. -/
theorem number_lists_refused :
    (∃ e, read (Json.write (.object (holding (.int (10 ^ 4300))))) = .error (.limit e)) ∧
      (∃ e, read (Json.write (.object (holding (nested 2999)))) = .error (.limit e)) ∧
      ¬ ∀ reply : Option String, (∃ fields, read (reply.getD "") = .ok fields) ∨
        ∃ v, read (reply.getD "") = .error (.violation v) := by
  have long : ¬ IsWithin (Json.maxDepth - 1) (.int (10 ^ 4300)) := fun within =>
    absurd (Json.isShort_iff.mp within.2) (by decide +kernel)
  have deep : ¬ IsWithin (Json.maxDepth - 1) (nested 2999) := fun within =>
    absurd (regular_nested_iff.mp within.1) (by decide)
  have number : Regular 0 (.int (10 ^ 4300)) := .int _
  obtain ⟨e, refused⟩ := holding_refused number (Nat.zero_le 1) long
  have refused' := holding_refused (regular_nested_iff.mpr (Nat.lt_succ_self 2999))
    (fenceCount_nested.le.trans (Nat.zero_le 1)) deep
  refine ⟨⟨e, refused⟩, refused', fun always => ?_⟩
  rcases always (some (Json.write (.object (holding (.int (10 ^ 4300)))))) with
    ⟨fields, read⟩ | ⟨v, read⟩
  · cases refused.symm.trans read
  · cases refused.symm.trans read

end BattleMaps.Reply
