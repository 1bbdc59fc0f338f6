import BattleMaps.Proofs.Json.Canonical
import BattleMaps.Proofs.Success

/-!
# What the reader yields

Whatever a text spells, the objects that are read from it have no key twice, since of repeated
keys only one member is kept, and lists and objects nest no deeper than is allowed.

## Main results

* `forall_of_readParts_eq_ok` — the loop over parts yields nothing but parts
* `regular_of_read_eq_ok` — what is read is regular
-/

namespace BattleMaps.Json

variable {depth fuel : Nat} {v : Json}

/-- What holds of every part that can be read holds of all parts that the loop collects. -/
theorem forall_of_readParts_eq_ok {α : Type} {P : α → Prop} {close : Char}
    {part : Cursor → Except Fault (α × Cursor)} {done parts : List α} {c c' : Cursor}
    (step : ∀ c a c', part c = .ok (a, c') → P a) (before : ∀ a ∈ done, P a)
    (h : readParts close part fuel done c = .ok (parts, c')) : ∀ a ∈ parts, P a := by
  -- What is collected so far satisfies the predicate; each round adds one part that does.
  induction fuel generalizing done c with
  | zero => contradiction
  | succ fuel ih =>
    rw [readParts] at h
    obtain ⟨⟨a, next⟩, read, h⟩ := bind_eq_ok.mp h
    have all : ∀ b ∈ a :: done, P b := List.forall_mem_cons.mpr ⟨step _ _ _ read, before⟩
    dsimp only at h
    split_ifs at h with closed comma
    · obtain ⟨rfl, -⟩ := Prod.mk.inj (Except.ok.inj h)
      simpa [or_comm] using all
    · exact ih all h

theorem readMember_eq_ok {value : Cursor → Except Fault (Json × Cursor)} {member : String × Json}
    {c c' : Cursor} (h : readMember value c = .ok (member, c')) :
    ∃ before, value before = .ok (member.2, c') := by
  unfold readMember at h
  split at h
  · obtain ⟨_, -, h⟩ := bind_eq_ok.mp h
    dsimp only at h
    split at h
    · obtain ⟨_, read, h⟩ := bind_eq_ok.mp h
      obtain ⟨rfl, rfl⟩ := Prod.mk.inj (Except.ok.inj h)
      exact ⟨_, read⟩
    · contradiction
  · contradiction

theorem regular_of_readNumber_eq_ok {c c' : Cursor} (h : readNumber c = .ok (v, c')) :
    Regular depth v := by
  unfold readNumber at h
  dsimp only at h
  split_ifs at h
  all_goals
    obtain ⟨rfl, -⟩ := Prod.mk.inj (Except.ok.inj h)
    constructor

theorem regular_of_readAtom_eq_ok {c c' : Cursor} (h : readAtom c = .ok (v, c')) :
    Regular depth v := by
  unfold readAtom at h
  split at h
  · rename_i word value found
    obtain ⟨rfl, -⟩ := Prod.mk.inj (Except.ok.inj h)
    have listed := List.mem_of_find?_eq_some found
    simp only [literals, List.mem_cons, Prod.mk.injEq, List.not_mem_nil, or_false] at listed
    rcases listed with ⟨-, rfl⟩ | ⟨-, rfl⟩ | ⟨-, rfl⟩ | ⟨-, rfl⟩ | ⟨-, rfl⟩ | ⟨-, rfl⟩ <;>
    constructor
  · exact regular_of_readNumber_eq_ok h

/-- What the reader yields is regular. -/
theorem regular_of_readValue_eq_ok {c c' : Cursor} (h : readValue fuel depth c = .ok (v, c')) :
    Regular depth v := by
  -- A value inside a bracket is read with one level of nesting less.
  induction depth using Nat.strongRecOn generalizing v c c' with
  | ind depth ih =>
    rw [readValue.eq_def] at h
    dsimp only at h
    split at h
    · contradiction
    · obtain ⟨_, -, h⟩ := bind_eq_ok.mp h
      obtain ⟨rfl, -⟩ := Prod.mk.inj (Except.ok.inj h)
      exact .text _
    · split at h
      · contradiction
      · split at h
        · obtain ⟨rfl, -⟩ := Prod.mk.inj (Except.ok.inj h)
          exact .array (by simp)
        · obtain ⟨_, read, h⟩ := bind_eq_ok.mp h
          obtain ⟨rfl, -⟩ := Prod.mk.inj (Except.ok.inj h)
          refine .array (forall_of_readParts_eq_ok ?_ (by simp) read)
          exact fun _ _ _ read => ih _ (Nat.lt_succ_self _) read
    · split at h
      · contradiction
      · split at h
        · obtain ⟨rfl, -⟩ := Prod.mk.inj (Except.ok.inj h)
          exact .object hasDistinctKeys_nil (by simp)
        · obtain ⟨_, read, h⟩ := bind_eq_ok.mp h
          obtain ⟨rfl, -⟩ := Prod.mk.inj (Except.ok.inj h)
          -- Repeated keys are harmless: collecting keeps one member of each, and no other members.
          refine .object Fields.hasDistinctKeys_ofPairs fun member found => ?_
          have all : ∀ m ∈ _, Regular _ (m : String × Json).2 :=
            forall_of_readParts_eq_ok (fun _ _ _ read => (readMember_eq_ok read).elim fun _ read =>
              ih _ (Nat.lt_succ_self _) read) (by simp) read
          exact all member (Fields.mem_of_mem_ofPairs found)
    · exact regular_of_readAtom_eq_ok h

/-- What is read from a text is regular. -/
theorem regular_of_read_eq_ok {s : String} (h : read s = .ok v) : Regular maxDepth v := by
  simp only [read] at h
  cases document : readDocument s.toList with
  | error fault =>
    rw [document] at h
    contradiction
  | ok found =>
    rw [document] at h
    obtain rfl := Except.ok.inj h
    unfold readDocument at document
    split_ifs at document
    obtain ⟨_, read, document⟩ := bind_eq_ok.mp document
    dsimp only at document
    split_ifs at document
    obtain rfl := Except.ok.inj document
    exact regular_of_readValue_eq_ok read

/-- The document read from a text is regular, the empty one included. -/
theorem regular_readFields (s : String) : Regular maxDepth (.object (readFields s)) := by
  unfold readFields
  split
  · exact regular_of_read_eq_ok ‹_›
  · exact .object hasDistinctKeys_nil (by simp)

end BattleMaps.Json
