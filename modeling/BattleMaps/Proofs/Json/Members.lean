import BattleMaps.Json.Writer
import Mathlib.Data.List.Nodup
import Mathlib.Data.String.Basic

/-!
# Members in order of their keys

The writer sorts the members of an object, and the reader collects them again. As long as no key
comes up twice, neither changes what is found under a key.

## Main definitions

* `Fields.HasDistinctKeys` — no key comes up twice

## Main results

* `sortByKey_map` — sorting looks at the keys only
* `sortByKey_sortByKey` — sorted members stay as they are
* `lookup_eq_some_of_mem` — what a member says is found under its key
* `lookup_sortByKey` — sorting does not change what is found under a key
* `ofPairs_eq_self` — collecting distinct members changes nothing
* `hasDistinctKeys_ofPairs` — collected members are distinct
* `get?_insert`, `get?_erase` — what is found once a member is set or left out
* `get?_optionalText`, `get?_optionalTexts` — what is found among optional members
-/

namespace BattleMaps

variable {α β : Type} {key : String} {member : String × α} {members : List (String × α)}

/-- Whether no key comes up twice. -/
def Fields.HasDistinctKeys (members : List (String × α)) : Prop := (members.map (·.1)).Nodup

instance : Decidable (Fields.HasDistinctKeys members) :=
  inferInstanceAs (Decidable (members.map (·.1)).Nodup)

open Fields (HasDistinctKeys)

@[simp] theorem hasDistinctKeys_nil : HasDistinctKeys ([] : List (String × α)) := List.nodup_nil

@[simp] theorem hasDistinctKeys_cons :
    HasDistinctKeys (member :: members) ↔
      member.1 ∉ members.map (·.1) ∧ HasDistinctKeys members :=
  List.nodup_cons

theorem hasDistinctKeys_map_snd (f : α → β) :
    HasDistinctKeys (members.map fun m => (m.1, f m.2)) ↔ HasDistinctKeys members := by
  rw [HasDistinctKeys, List.map_map]
  rfl

theorem lookup_map_snd (f : α → β) :
    (members.map fun m => (m.1, f m.2)).lookup key = (members.lookup key).map f := by
  induction members with
  | nil => rfl
  | cons m rest ih =>
    rw [List.map_cons, List.lookup_cons, List.lookup_cons]
    split <;> simp [ih]

/-- What a member says is found under its key. -/
theorem lookup_eq_some_of_mem {a : α} (distinct : HasDistinctKeys members)
    (there : (key, a) ∈ members) : members.lookup key = some a := by
  induction members with
  | nil => contradiction
  | cons m rest ih =>
    obtain ⟨fresh, distinct⟩ := hasDistinctKeys_cons.mp distinct
    rw [List.lookup_cons]
    rcases List.mem_cons.mp there with rfl | there
    · simp
    · have apart : (key == m.1) = false := by
        rw [beq_eq_false_iff_ne]
        rintro rfl
        exact fresh (List.mem_map.mpr ⟨_, there, rfl⟩)
      rw [apart]
      exact ih distinct there

namespace Json

/-! ## Sorting -/

theorem insertByKey_map (f : α → β) :
    insertByKey (member.1, f member.2) (members.map fun m => (m.1, f m.2)) =
      (insertByKey member members).map fun m => (m.1, f m.2) := by
  induction members with
  | nil => rfl
  | cons other rest ih =>
    simp only [List.map_cons, insertByKey]
    split_ifs <;> simp [ih]

/-- Sorting looks at the keys only. -/
theorem sortByKey_map (f : α → β) :
    sortByKey (members.map fun m => (m.1, f m.2)) =
      (sortByKey members).map fun m => (m.1, f m.2) := by
  induction members with
  | nil => rfl
  | cons m rest ih =>
    simp only [sortByKey, List.map_cons, List.foldr_cons] at *
    rw [ih, insertByKey_map]

theorem insertByKey_perm : (insertByKey member members).Perm (member :: members) := by
  induction members with
  | nil => exact .refl _
  | cons other rest ih =>
    rw [insertByKey]
    split_ifs
    · exact (ih.cons other).trans (.swap member other rest)
    · exact .refl _

theorem sortByKey_perm : (sortByKey members).Perm members := by
  induction members with
  | nil => exact .refl _
  | cons m rest ih => exact insertByKey_perm.trans (ih.cons m)

@[simp] theorem mem_sortByKey : member ∈ sortByKey members ↔ member ∈ members :=
  sortByKey_perm.mem_iff

@[simp] theorem length_sortByKey : (sortByKey members).length = members.length :=
  sortByKey_perm.length_eq

@[simp] theorem hasDistinctKeys_sortByKey :
    HasDistinctKeys (sortByKey members) ↔ HasDistinctKeys members :=
  (sortByKey_perm.map _).nodup_iff

theorem lookup_insertByKey (fresh : member.1 ∉ members.map (·.1)) :
    (insertByKey member members).lookup key = (member :: members).lookup key := by
  induction members with
  | nil => rfl
  | cons other rest ih =>
    rw [insertByKey]
    split_ifs
    · rw [List.map_cons, List.mem_cons, not_or] at fresh
      rw [List.lookup_cons, ih fresh.2, List.lookup_cons, List.lookup_cons, List.lookup_cons]
      grind
    · rfl

/-- Sorting does not change what is found under a key. -/
theorem lookup_sortByKey (distinct : HasDistinctKeys members) :
    (sortByKey members).lookup key = members.lookup key := by
  induction members with
  | nil => rfl
  | cons m rest ih =>
    obtain ⟨fresh, distinct⟩ := hasDistinctKeys_cons.mp distinct
    -- Sorting the rest brings in no new keys, so the first member is still the only one of its key.
    have fresh' : m.1 ∉ (sortByKey rest).map (·.1) := by
      rwa [(sortByKey_perm.map _).mem_iff]
    rw [sortByKey, List.foldr_cons, ← sortByKey, lookup_insertByKey fresh', List.lookup_cons,
      List.lookup_cons, ih distinct]

/-- Members in ascending order of their keys. -/
def InOrder (members : List (String × α)) : Prop := members.Pairwise fun m n => m.1 ≤ n.1

theorem insertByKey_inOrder (h : InOrder members) : InOrder (insertByKey member members) := by
  induction members with
  | nil => exact List.pairwise_singleton ..
  | cons other rest ih =>
    obtain ⟨least, h⟩ := List.pairwise_cons.mp h
    rw [insertByKey]
    split_ifs with before
    · refine List.pairwise_cons.mpr ⟨fun n found => ?_, ih h⟩
      rcases List.mem_cons.mp (insertByKey_perm.mem_iff.mp found) with rfl | found
      · exact before.le
      · exact least n found
    · have first : member.1 ≤ other.1 := not_lt.mp before
      refine List.pairwise_cons.mpr ⟨fun n found => ?_, List.pairwise_cons.mpr ⟨least, h⟩⟩
      rcases List.mem_cons.mp found with rfl | found
      · exact first
      · exact first.trans (least n found)

theorem sortByKey_inOrder : InOrder (sortByKey members) := by
  induction members with
  | nil => exact List.Pairwise.nil
  | cons m rest ih => exact insertByKey_inOrder ih

theorem sortByKey_eq_self (h : InOrder members) : sortByKey members = members := by
  induction members with
  | nil => rfl
  | cons m rest ih =>
    obtain ⟨least, h⟩ := List.pairwise_cons.mp h
    rw [sortByKey, List.foldr_cons, ← sortByKey, ih h]
    cases rest with
    | nil => rfl
    | cons other rest =>
      rw [insertByKey, if_neg (not_lt.mpr (least other (List.mem_cons_self ..)))]

/-- Sorted members stay as they are. -/
@[simp] theorem sortByKey_sortByKey : sortByKey (sortByKey members) = sortByKey members :=
  sortByKey_eq_self sortByKey_inOrder

end Json

/-! ## Collecting -/

namespace Fields

variable {fields others : Fields} {other : String} {value : Json} {pairs : List (String × Json)}

@[simp] theorem get?_nil : get? [] key = none := rfl

theorem get?_cons :
    Fields.get? ((key, value) :: fields) other =
      if other = key then some value else fields.get? other := by
  by_cases same : other = key <;> grind [get?]

theorem get?_append : Fields.get? (fields ++ others) key = (fields.get? key).or (others.get? key) :=
  List.lookup_append

theorem get?_insert :
    (fields.insert key value).get? other =
      if other = key then some value else fields.get? other := by
  unfold insert get?
  split_ifs with known same same
  · subst same
    -- The first member of the key is met sooner or later, and it says the new value.
    induction fields with
    | nil => contradiction
    | cons m rest ih => grind
  · clear known
    induction fields with
    | nil => rfl
    | cons m rest ih => grind
  · subst same
    grind
  · grind

theorem get?_erase :
    (fields.erase key).get? other = if other = key then none else fields.get? other := by
  unfold erase get?
  induction fields with
  | nil => simp
  | cons m rest ih => grind

theorem hasDistinctKeys_insert (distinct : HasDistinctKeys fields) :
    HasDistinctKeys (fields.insert key value) := by
  unfold insert
  split_ifs with known
  · have keys : (fields.map fun m => if m.1 == key then (key, value) else m).map (·.1) =
        fields.map (·.1) := by
      rw [List.map_map]
      refine List.map_congr_left fun m _ => ?_
      by_cases same : m.1 = key <;> simp [same]
    rwa [HasDistinctKeys, keys]
  · rw [HasDistinctKeys, List.map_append, List.nodup_append]
    refine ⟨distinct, List.nodup_singleton _, ?_⟩
    grind

/-- Collected members are distinct, whatever was collected. -/
theorem hasDistinctKeys_ofPairs : HasDistinctKeys (ofPairs pairs) := by
  -- The fold starts from what is collected so far, so the statement is about any such start.
  have step : ∀ fields : Fields, HasDistinctKeys fields →
      HasDistinctKeys (pairs.foldl (fun fields m => Fields.insert fields m.1 m.2) fields) := by
    induction pairs with
    | nil => exact fun _ distinct => distinct
    | cons m rest ih => exact fun fields distinct => ih _ (hasDistinctKeys_insert distinct)
  exact step [] hasDistinctKeys_nil

theorem mem_of_mem_insert {member : String × Json} (h : member ∈ fields.insert key value) :
    member ∈ fields ∨ member = (key, value) := by
  unfold insert at h
  split_ifs at h <;> grind

/-- Whatever is collected was there before. -/
theorem mem_of_mem_ofPairs {member : String × Json} (h : member ∈ ofPairs pairs) :
    member ∈ pairs := by
  have step : ∀ fields : Fields,
      member ∈ pairs.foldl (fun fields m => Fields.insert fields m.1 m.2) fields →
        member ∈ fields ∨ member ∈ pairs := by
    clear h
    induction pairs with
    | nil => exact fun _ found => .inl found
    | cons m rest ih =>
      intro fields found
      rcases ih _ found with found | found
      · rcases mem_of_mem_insert found with found | rfl
        · exact .inl found
        · exact .inr (List.mem_cons_self ..)
      · exact .inr (List.mem_cons_of_mem _ found)
  simpa using step [] h

/-- Of distinct members, leaving out a key that is there leaves out one member. -/
theorem length_erase_add_one (distinct : HasDistinctKeys fields)
    (there : key ∈ fields.map (·.1)) : (fields.erase key).length + 1 = fields.length := by
  have once : fields.countP (fun member => member.1 == key) = 1 := by
    have := List.count_eq_one_of_mem distinct there
    rwa [List.count, List.countP_map] at this
  have parts := List.length_eq_countP_add_countP (fun member => member.1 == key) (l := fields)
  rw [once, add_comm] at parts
  rw [erase, ← List.countP_eq_length_filter, parts]
  congr 2
  funext member
  by_cases same : member.1 = key <;> simp [same]

/-- Collecting distinct members changes nothing. -/
theorem ofPairs_eq_self (distinct : HasDistinctKeys pairs) : ofPairs pairs = pairs := by
  have step : ∀ fields : Fields, HasDistinctKeys (fields ++ pairs) →
      pairs.foldl (fun fields m => Fields.insert fields m.1 m.2) fields = fields ++ pairs := by
    clear distinct
    induction pairs with
    | nil => simp
    | cons m rest ih =>
      intro fields distinct
      -- A key that is not there yet is added at the end.
      have fresh : fields.any (·.1 == m.1) = false := by
        rw [HasDistinctKeys, List.map_append, List.nodup_append] at distinct
        refine List.any_eq_false.mpr fun n found => ?_
        simpa using distinct.2.2 n.1 (List.mem_map_of_mem found) m.1 (by simp)
      rw [List.foldl_cons, insert, if_neg (by simp [fresh]), ih _ (by simpa using distinct)]
      simp
  exact step [] distinct

/-! ## Optional members -/

theorem get?_optionalText {s : Option String} :
    (optionalText key s).get? other =
      if other = key then (s.filter (· ≠ "")).map .text else none := by
  unfold optionalText
  split
  · split_ifs <;> simp_all [get?, String.isEmpty_iff, Option.filter_some]
  · simp [get?]

theorem get?_optionalTexts {l : Option (List String)} :
    (optionalTexts key l).get? other =
      if other = key then (l.filter (· ≠ [])).map fun l => .array (l.map .text) else none := by
  unfold optionalTexts
  split
  · split_ifs <;> simp_all [get?, Option.filter_some]
  · rename_i empty
    rcases l with _ | _ | ⟨s, l⟩
    · simp [get?]
    · simp [get?, Option.filter_some]
    · exact absurd rfl (empty s l)

/-- An empty text is no member, and neither is no text. -/
theorem optionalText_filter {s : Option String} :
    optionalText key (s.filter (· ≠ "")) = optionalText key s := by
  cases s with
  | none => rfl
  | some s => by_cases empty : s = "" <;> simp [optionalText, Option.filter_some, empty]

theorem optionalTexts_filter {l : Option (List String)} :
    optionalTexts key (l.filter (· ≠ [])) = optionalTexts key l := by
  rcases l with _ | _ | ⟨s, l⟩ <;> rfl

end Fields

end BattleMaps
