import Mathlib.Logic.Basic

/-!
# Steps that succeed

Most of the library works step by step and stops at the first fault. What came out without a
fault went through every step.

## Main results

* `bind_eq_ok`, `map_eq_ok` — the steps behind a success
* `bind_eq_error` — the step that a fault comes from
* `exists_mem_of_mapM_eq_ok` — a list is read member by member
-/

namespace BattleMaps

variable {ε α β : Type}

theorem bind_eq_ok {x : Except ε α} {f : α → Except ε β} {b : β} :
    x >>= f = .ok b ↔ ∃ a, x = .ok a ∧ f a = .ok b := by
  cases x <;> simp [bind, Except.bind]

theorem bind_eq_error {x : Except ε α} {f : α → Except ε β} {e : ε} :
    x >>= f = .error e ↔ x = .error e ∨ ∃ a, x = .ok a ∧ f a = .error e := by
  cases x <;> simp [bind, Except.bind]

theorem map_eq_ok {x : Except ε α} {f : α → β} {b : β} :
    x.map f = .ok b ↔ ∃ a, x = .ok a ∧ f a = b := by
  cases x <;> simp [Except.map]

theorem isOk_iff {x : Except ε α} : x.isOk ↔ ∃ a, x = .ok a := by
  cases x <;> simp [Except.isOk, Except.toBool]

theorem exists_eq_ok {x : Except ε α} (h : x.isOk) : ∃ a, x = .ok a := isOk_iff.mp h

/-- What is among the results came from a member of the list. -/
theorem exists_mem_of_mapM_eq_ok {f : α → Except ε β} {as : List α} {bs : List β}
    (h : as.mapM f = .ok bs) : ∀ b ∈ bs, ∃ a ∈ as, f a = .ok b := by
  induction as generalizing bs with
  | nil =>
    obtain rfl := Except.ok.inj h
    simp
  | cons a rest ih =>
    rw [List.mapM_cons, bind_eq_ok] at h
    obtain ⟨first, here, h⟩ := h
    obtain ⟨others, there, h⟩ := bind_eq_ok.mp h
    obtain rfl := Except.ok.inj h
    intro b member
    rcases List.mem_cons.mp member with rfl | member
    · exact ⟨a, List.mem_cons_self .., here⟩
    · obtain ⟨a', member', read⟩ := ih there b member
      exact ⟨a', List.mem_cons_of_mem _ member', read⟩

end BattleMaps
