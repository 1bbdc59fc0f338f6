import BattleMaps.Proofs.Json.RoundTrip

/-!
# Values with their members rearranged

An object is the same object in whatever order its members stand, at every level of nesting. A
rearranged value has the same items at the same places, the same keys and the same words, numbers
and texts. Putting the members in order is a rearrangement, and the written text does not tell one
rearrangement from another.

## Main definitions

* `Rearranged` — the same value, up to the order of members

## Main results

* `Rearranged.same` — rearranged values are the same once their members are in order
* `Rearranged.writeChars_eq` — and they are written alike
* `Regular.rearranged_sorted` — the value with its members in order is a rearrangement
* `rearranged_readFields_write` — a written document is read as a rearrangement of it
-/

namespace BattleMaps

open Fields (HasDistinctKeys)

namespace Json

variable {α : Type} {depth : Nat} {v w : Json} {fields : Fields}
  {members members' : List (String × α)}

/-- Whether two values are the same up to the order of members: lists item by item, objects key by
key, and everything else as it is. -/
inductive Rearranged : Json → Json → Prop where
  | refl (v : Json) : Rearranged v v
  | array {items others : List Json} (length : items.length = others.length)
      (inside : ∀ i (h : i < items.length) (h' : i < others.length),
        Rearranged items[i] others[i]) : Rearranged (.array items) (.array others)
  | object {fields others : Fields} (distinct : HasDistinctKeys fields)
      (distinct' : HasDistinctKeys others)
      (keys : ∀ key, key ∈ fields.map (·.1) ↔ key ∈ others.map (·.1))
      (inside : ∀ key v w, (key, v) ∈ fields → (key, w) ∈ others → Rearranged v w) :
      Rearranged (.object fields) (.object others)

theorem Rearranged.symm (h : Rearranged v w) : Rearranged w v := by
  induction h with
  | refl v => exact .refl v
  | array length _ ih => exact .array length.symm fun i h h' => ih i h' h
  | object distinct distinct' keys _ ih =>
    exact .object distinct' distinct (fun key => (keys key).symm) fun key v w found found' =>
      ih key w v found' found

/-! ## Members with distinct keys -/

theorem value_eq_of_hasDistinctKeys {key : String} {a b : α} (distinct : HasDistinctKeys members)
    (found : (key, a) ∈ members) (found' : (key, b) ∈ members) : a = b := by
  have lookup := lookup_eq_some_of_mem distinct found
  rw [lookup_eq_some_of_mem distinct found'] at lookup
  exact (Option.some.inj lookup).symm

/-- Members in order of distinct keys are told by which members there are. -/
theorem sortByKey_eq_of_perm (distinct : HasDistinctKeys members) (perm : members.Perm members') :
    sortByKey members = sortByKey members' := by
  have perm' := sortByKey_perm.trans (perm.trans sortByKey_perm.symm)
  refine perm'.eq_of_pairwise (fun m n found found' before behind => ?_) sortByKey_inOrder
    sortByKey_inOrder
  have there : (m.1, m.2) ∈ members := mem_sortByKey.mp found
  have there' : (m.1, n.2) ∈ members := by
    rw [before.antisymm behind]
    exact perm.mem_iff.mpr (mem_sortByKey.mp found')
  exact Prod.ext (before.antisymm behind) (value_eq_of_hasDistinctKeys distinct there there')

/-- Members with distinct keys say the same if their keys are the same and what stands under each
key is. -/
theorem perm_of_keys (distinct : HasDistinctKeys members) (distinct' : HasDistinctKeys members')
    (keys : ∀ key, key ∈ members.map (·.1) ↔ key ∈ members'.map (·.1))
    (same : ∀ key a b, (key, a) ∈ members → (key, b) ∈ members' → a = b) :
    members.Perm members' := by
  refine (List.perm_ext_iff_of_nodup (.of_map _ distinct) (.of_map _ distinct')).mpr fun m => ?_
  constructor
  · intro found
    obtain ⟨n, there, key⟩ := List.mem_map.mp ((keys m.1).mp (List.mem_map_of_mem found))
    have value := same m.1 m.2 n.2 found (key ▸ there)
    rwa [show m = n from Prod.ext key.symm value]
  · intro found
    obtain ⟨n, there, key⟩ := List.mem_map.mp ((keys m.1).mpr (List.mem_map_of_mem found))
    have value := same m.1 n.2 m.2 (key ▸ there) found
    rwa [show m = n from Prod.ext key.symm value.symm]

/-- Members with distinct keys are the same up to their order as far as their values are. -/
theorem perm_map_snd {β : Type} {others : Fields} (f : Json → β) (distinct : HasDistinctKeys fields)
    (distinct' : HasDistinctKeys others)
    (keys : ∀ key, key ∈ fields.map (·.1) ↔ key ∈ others.map (·.1))
    (same : ∀ key v w, (key, v) ∈ fields → (key, w) ∈ others → f v = f w) :
    (fields.map fun m => (m.1, f m.2)).Perm (others.map fun m => (m.1, f m.2)) := by
  refine perm_of_keys ((hasDistinctKeys_map_snd f).mpr distinct)
    ((hasDistinctKeys_map_snd f).mpr distinct') (fun key => ?_) fun key a b found found' => ?_
  · simpa using keys key
  · obtain ⟨m, there, rfl, rfl⟩ : ∃ m ∈ fields, m.1 = key ∧ f m.2 = a := by simpa using found
    obtain ⟨n, there', key', rfl⟩ : ∃ n ∈ others, n.1 = m.1 ∧ f n.2 = b := by simpa using found'
    exact same m.1 m.2 n.2 there (key' ▸ there')

theorem map_eq_of_getElem {β : Type} {items others : List Json} (f : Json → β)
    (length : items.length = others.length)
    (same : ∀ i (h : i < items.length) (h' : i < others.length), f items[i] = f others[i]) :
    items.map f = others.map f := by
  refine List.ext_getElem (by simp [length]) fun i h h' => ?_
  rw [List.getElem_map, List.getElem_map]
  exact same i (by simpa using h) (by simpa using h')

/-- Members in another order are a rearrangement. -/
theorem Rearranged.of_perm {others : Fields} (distinct : HasDistinctKeys fields)
    (perm : fields.Perm others) : Rearranged (.object fields) (.object others) := by
  refine .object distinct ((perm.map _).nodup_iff.mp distinct) (fun key => (perm.map _).mem_iff)
    fun key v w found found' => ?_
  rw [value_eq_of_hasDistinctKeys distinct found (perm.mem_iff.mpr found')]
  exact .refl w

theorem Rearranged.exists_array {items : List Json} (h : Rearranged (.array items) w) :
    ∃ others, w = .array others ∧ items.length = others.length ∧
      ∀ i (h : i < items.length) (h' : i < others.length), Rearranged items[i] others[i] := by
  cases h with
  | refl => exact ⟨items, rfl, rfl, fun _ _ _ => .refl _⟩
  | array length inside => exact ⟨_, rfl, length, inside⟩

theorem Rearranged.exists_object (h : Rearranged (.object fields) w)
    (distinct : HasDistinctKeys fields) :
    ∃ others, w = .object others ∧ fields.length = others.length ∧
      ∀ m ∈ fields, ∃ v, Fields.get? others m.1 = some v ∧ Rearranged m.2 v := by
  cases h with
  | refl =>
    exact ⟨fields, rfl, rfl, fun m found => ⟨m.2, lookup_eq_some_of_mem distinct found, .refl _⟩⟩
  | @object fields others _ distinct' keys inside =>
    have perm : (fields.map (·.1)).Perm (others.map (·.1)) :=
      (List.perm_ext_iff_of_nodup distinct distinct').mpr keys
    refine ⟨others, rfl, by simpa using perm.length_eq, fun m found => ?_⟩
    obtain ⟨n, there, key⟩ := List.mem_map.mp ((keys m.1).mp (List.mem_map_of_mem found))
    have there : (m.1, n.2) ∈ others := key ▸ there
    exact ⟨n.2, lookup_eq_some_of_mem distinct' there, inside m.1 m.2 n.2 found there⟩

/-! ## One form for all rearrangements -/

/-- Rearranged values are the same once their members are in order. -/
theorem Rearranged.same (h : Rearranged v w) : v.Same w := by
  unfold Same
  induction h with
  | refl => rfl
  | @array items others length inside ih =>
    rw [sorted_array, sorted_array, map_eq_of_getElem sorted length ih]
  | @object fields others distinct distinct' keys inside ih =>
    rw [sorted_object, sorted_object, ← sortByKey_map, ← sortByKey_map]
    congr 1
    exact sortByKey_eq_of_perm ((hasDistinctKeys_map_snd sorted).mpr distinct)
      (perm_map_snd sorted distinct distinct' keys ih)

/-- Rearranged values are written alike. -/
theorem Rearranged.writeChars_eq (h : Rearranged v w) : writeChars v = writeChars w := by
  induction h with
  | refl => rfl
  | @array items others length inside ih =>
    rw [writeChars_array, writeChars_array, map_eq_of_getElem writeChars length ih]
  | @object fields others distinct distinct' keys inside ih =>
    -- The members are put in order by their keys, and what stands under a key is written alike.
    have perm := perm_map_snd writeChars distinct distinct' keys ih
    have distinctTexts := (hasDistinctKeys_map_snd writeChars).mpr distinct
    rw [writeChars, writeChars, writeMembers_eq_map, writeMembers_eq_map,
      sortByKey_eq_of_perm distinctTexts perm]

theorem Rearranged.write_eq (h : Rearranged v w) : v.write = w.write := by
  rw [write, h.writeChars_eq, write]

/-! ## Putting the members in order -/

/-- The value with its members in order is a rearrangement of the value. -/
theorem Regular.rearranged_sorted (regular : Regular depth v) : Rearranged v.sorted v := by
  induction regular with
  | @array depth items inside ih =>
    rw [sorted_array]
    refine .array (by simp) fun i h h' => ?_
    rw [List.getElem_map]
    exact ih items[i] (List.getElem_mem h')
  | @object depth fields distinct inside ih =>
    rw [sorted_object]
    refine .object (hasDistinctKeys_sorted distinct) distinct (fun key => ?_)
      fun key v w found found' => ?_
    · simp
    · obtain ⟨m, there, rfl, rfl⟩ : ∃ m ∈ fields, m.1 = key ∧ sorted m.2 = v := by
        simpa using found
      have value : m.2 = w := value_eq_of_hasDistinctKeys distinct there found'
      rw [← value]
      exact ih m there
  | _ => exact .refl _

/-- A written document is read as a rearrangement of it. -/
theorem rearranged_readFields_write (regular : Regular maxDepth (.object fields))
    (writable : isWritable (.object fields)) :
    Rearranged (.object (readFields (write (.object fields)))) (.object fields) := by
  rw [readFields_write regular writable, ← sorted_object]
  exact regular.rearranged_sorted

end Json

end BattleMaps
