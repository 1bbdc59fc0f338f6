import BattleMaps.Proofs.Json.Rearrangement

/-!
# Values that say the same

Whether two values say the same is asked when a draft is compared with what is stored. A regular
value says what every rearrangement of it says, not-a-number included, and what says the same as a
list is a list of the same length.

## Main results

* `agreesItems_iff`, `agreesFields_iff` — lists agree item by item, objects member by member
* `rel_get?_of_agrees` — objects that agree have the same keys
* `Regular.agrees_of_rearranged` — the order of members does not count
* `eq_text_of_agrees`, `exists_eq_array_of_agrees` — what says the same as a text or a list
-/

namespace BattleMaps.Json

open Fields (HasDistinctKeys)

variable {depth : Nat} {v : Json} {items : List Json} {fields : Fields} {s : String}

/-- A number equals itself unless it is none. -/
theorem beq_self_or_isNaN (x : Float) : (x == x || x.isNaN && x.isNaN) = true := by
  rw [Bool.and_self]
  change (x.toModel.unpack.compare x.toModel.unpack == some .eq || x.toModel.unpack.isNaN) = true
  cases x.toModel.unpack with
  | notANumber => rfl
  | infinity s => cases s <;> rfl
  | zero s => rfl
  | finite s m e =>
    have same : (compare e e).then (compare m m) = .eq := by simp
    cases s with
    | positive =>
      change (some ((compare e e).then (compare m m)) == some .eq || false) = true
      rw [same]
      rfl
    | negative =>
      change (some ((compare e e).then (compare m m)).swap == some .eq || false) = true
      rw [same]
      rfl

theorem agreesItems_iff {others : List Json} :
    agreesItems items others ↔ items.length = others.length ∧
      ∀ i (h : i < items.length) (h' : i < others.length), items[i].agrees others[i] := by
  have pairs : agreesItems items others ↔ List.Forall₂ (fun v w => v.agrees w) items others := by
    induction items generalizing others with
    | nil => cases others <;> simp [agreesItems]
    | cons item rest ih => cases others <;> simp [agreesItems, ih]
  exact pairs.trans List.forall₂_iff_get

theorem agreesFields_iff {others : Fields} :
    agreesFields fields others ↔ ∀ m ∈ fields, ∃ w, others.get? m.1 = some w ∧ m.2.agrees w := by
  induction fields with
  | nil => simp [agreesFields]
  | cons m rest ih =>
    rw [agreesFields, Bool.and_eq_true, ih, List.forall_mem_cons]
    cases others.get? m.1 <;> simp

/-- Objects that say the same say the same under every key. -/
theorem rel_get?_of_agrees {others : Fields} (distinct : HasDistinctKeys fields)
    (h : (object fields).agrees (.object others)) (key : String) :
    Option.Rel (fun v w : Json => v.agrees w) (fields.get? key) (others.get? key) := by
  rw [agrees, Bool.and_eq_true, beq_iff_eq, agreesFields_iff] at h
  obtain ⟨length, agree⟩ := h
  cases found : fields.get? key with
  | some v =>
    obtain ⟨before, after, split, -⟩ := List.lookup_eq_some_iff.mp found
    obtain ⟨w, there, same⟩ := agree (key, v) (by simp [split])
    rw [there]
    exact .some same
  | none =>
    -- Every key has a counterpart, and there are as many keys on the other side.
    have known : fields.map (·.1) ⊆ others.map (·.1) := by
      intro k known
      obtain ⟨m, member, rfl⟩ := List.mem_map.mp known
      obtain ⟨w, there, -⟩ := agree m member
      obtain ⟨before, after, split, -⟩ := List.lookup_eq_some_iff.mp there
      simp [split]
    have perm : (fields.map (·.1)).Perm (others.map (·.1)) :=
      (List.subperm_of_subset distinct known).perm_of_length_le (by simp [length])
    cases found' : others.get? key with
    | none => exact .none
    | some w =>
      obtain ⟨before, after, split, -⟩ := List.lookup_eq_some_iff.mp found'
      have known : key ∈ fields.map (·.1) := perm.mem_iff.mpr (by simp [split])
      obtain ⟨m, member, rfl⟩ := List.mem_map.mp known
      rw [Fields.get?, lookup_eq_some_of_mem distinct member] at found
      contradiction

/-- A regular value says what any rearrangement of it says. -/
theorem Regular.agrees_of_rearranged (h : Regular depth v) {w : Json} (other : Rearranged v w) :
    v.agrees w := by
  induction h generalizing w with
  | null =>
    cases other
    rfl
  | bool b =>
    cases other
    exact beq_self_eq_true (if b then (1 : Int) else 0)
  | int n =>
    cases other
    exact beq_self_eq_true n
  | real x =>
    cases other
    exact beq_self_or_isNaN x
  | text s =>
    cases other
    exact beq_self_eq_true s
  | @array depth items inside ih =>
    obtain ⟨others, rfl, length, same⟩ := other.exists_array
    rw [agrees, agreesItems_iff]
    exact ⟨length, fun i h h' => ih items[i] (List.getElem_mem h) (same i h h')⟩
  | @object depth fields distinct inside ih =>
    obtain ⟨others, rfl, length, found⟩ := other.exists_object distinct
    rw [agrees, length, beq_self_eq_true, Bool.true_and, agreesFields_iff]
    intro m member
    obtain ⟨w, there, same⟩ := found m member
    exact ⟨w, there, ih m member same⟩

theorem eq_text_of_agrees (h : (text s).agrees v) : v = .text s := by
  cases v with
  | text t =>
    have same : (s == t) = true := h
    rw [beq_iff_eq.mp same]
  | _ => simp [agrees, agreesAtom, integral?] at h

theorem exists_eq_array_of_agrees (h : (array items).agrees v) :
    ∃ others, v = .array others ∧ items.length = others.length := by
  cases v with
  | array others =>
    rw [agrees] at h
    exact ⟨others, rfl, (agreesItems_iff.mp h).1⟩
  | _ => simp [agrees, agreesAtom, integral?] at h

end BattleMaps.Json
