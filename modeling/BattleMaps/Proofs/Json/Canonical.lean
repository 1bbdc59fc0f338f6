import BattleMaps.Json.Reader
import BattleMaps.Proofs.Json.Members

/-!
# Canonical values

Written texts put members in order, so what is read back is the value with the members of every
object in order. Only the order changes: two values are the same if they agree once their members
are in order. Regular values are those that reading can yield at all.

## Main definitions

* `Json.sorted` — the value with the members of every object in ascending order of their keys
* `Json.Same` — equality up to the order of members
* `Json.Regular` — distinct keys throughout, and nesting up to a depth

## Main results

* `Regular.sorted_sorted` — sorted values stay as they are
* `isFilled_sorted`, `value_sorted` — what is read off a value does not change
-/

namespace BattleMaps.Json

open Fields (HasDistinctKeys)

mutual

/-- The value with the members of every object in ascending order of their keys. -/
def sorted : Json → Json
  | .array items => .array (sortedItems items)
  | .object fields => .object (sortByKey (sortedMembers fields))
  | v => v

/-- Each item with the members of every object in order. -/
def sortedItems : List Json → List Json
  | [] => []
  | item :: rest => sorted item :: sortedItems rest

/-- Each member with the members of every object inside in order. -/
def sortedMembers : List (String × Json) → List (String × Json)
  | [] => []
  | (key, value) :: rest => (key, sorted value) :: sortedMembers rest

end

/-- Whether two values differ at most in the order of members. -/
def Same (v w : Json) : Prop := v.sorted = w.sorted

/-- Whether no object of a value has a key twice, and whether lists and objects nest at most
`depth` deep. -/
inductive Regular : Nat → Json → Prop where
  | null {depth : Nat} : Regular depth .null
  | bool {depth : Nat} (b : Bool) : Regular depth (.bool b)
  | int {depth : Nat} (n : Int) : Regular depth (.int n)
  | real {depth : Nat} (x : Float) : Regular depth (.real x)
  | text {depth : Nat} (s : String) : Regular depth (.text s)
  | array {depth : Nat} {items : List Json} (inside : ∀ item ∈ items, Regular depth item) :
      Regular (depth + 1) (.array items)
  | object {depth : Nat} {fields : Fields} (distinct : HasDistinctKeys fields)
      (inside : ∀ member ∈ fields, Regular depth member.2) : Regular (depth + 1) (.object fields)

variable {depth depth' : Nat} {v w u : Json} {items : List Json} {fields : Fields} {key : String}

/-! ## The passes over items and members -/

theorem sortedItems_eq_map : sortedItems items = items.map sorted := by
  induction items with
  | nil => rfl
  | cons item rest ih => rw [sortedItems, ih, List.map_cons]

theorem sortedMembers_eq_map : sortedMembers fields = fields.map fun m => (m.1, sorted m.2) := by
  induction fields with
  | nil => rfl
  | cons m rest ih => rw [sortedMembers, ih, List.map_cons]

theorem writeItems_eq_map : writeItems items = items.map writeChars := by
  induction items with
  | nil => rfl
  | cons item rest ih => rw [writeItems, ih, List.map_cons]

theorem writeMembers_eq_map :
    writeMembers fields = fields.map fun m => (m.1, writeChars m.2) := by
  induction fields with
  | nil => rfl
  | cons m rest ih => rw [writeMembers, ih, List.map_cons]

theorem isWritable_array : isWritable (.array items) = items.all isWritable := by
  rw [isWritable]
  induction items with
  | nil => rfl
  | cons item rest ih => rw [areItemsWritable, ih, List.all_cons]

theorem isWritable_object : isWritable (.object fields) = fields.all fun m => m.2.isWritable := by
  rw [isWritable]
  induction fields with
  | nil => rfl
  | cons m rest ih => rw [areMembersWritable, ih, List.all_cons]

@[simp] theorem sorted_array : sorted (.array items) = .array (items.map sorted) := by
  rw [sorted, sortedItems_eq_map]

/-- The members may be put in order before or after what is inside them. -/
@[simp] theorem sorted_object :
    sorted (.object fields) = .object ((sortByKey fields).map fun m => (m.1, sorted m.2)) := by
  rw [sorted, sortedMembers_eq_map, sortByKey_map]

/-! ## Same values -/

theorem Same.refl (v : Json) : v.Same v := rfl

theorem Same.symm (h : v.Same w) : w.Same v := Eq.symm h

theorem Same.trans (h : v.Same w) (h' : w.Same u) : v.Same u := Eq.trans h h'

@[simp] theorem isFilled_sorted : v.sorted.isFilled = v.isFilled := by
  cases v with
  | array items => cases items <;> simp [isFilled]
  | object fields =>
    rw [sorted_object, isFilled, isFilled, List.isEmpty_map, Bool.not_inj_iff, Bool.eq_iff_iff,
      List.isEmpty_iff_length_eq_zero, List.isEmpty_iff_length_eq_zero, length_sortByKey]
  | _ => rfl

theorem Same.isFilled_eq (h : v.Same w) : v.isFilled = w.isFilled := by
  rw [← isFilled_sorted, h, isFilled_sorted]

/-- A value that is the same as a text is that text. -/
theorem eq_text_of_sorted {s : String} (h : v.sorted = .text s) : v = .text s := by
  cases v <;> simp_all [sorted]

/-- A value that is the same as a list is a list of the same items. -/
theorem eq_array_of_sorted (h : v.sorted = .array items) :
    ∃ others, v = .array others ∧ others.map sorted = items := by
  cases v with
  | array others =>
    rw [sorted_array, array.injEq] at h
    exact ⟨others, rfl, h⟩
  | object fields =>
    rw [sorted_object] at h
    contradiction
  | _ => contradiction

theorem hasDistinctKeys_sorted (distinct : HasDistinctKeys fields) :
    HasDistinctKeys ((sortByKey fields).map fun m => (m.1, sorted m.2)) := by
  rw [hasDistinctKeys_map_snd, hasDistinctKeys_sortByKey]
  exact distinct

/-- What stands under a key of the sorted object is the sorted value. -/
theorem get?_sorted (distinct : HasDistinctKeys fields) :
    Fields.get? ((sortByKey fields).map fun m => (m.1, sorted m.2)) key =
      (Fields.get? fields key).map sorted := by
  rw [Fields.get?, lookup_map_snd, lookup_sortByKey distinct, Fields.get?]

theorem value_sorted (distinct : HasDistinctKeys fields) :
    Fields.value ((sortByKey fields).map fun m => (m.1, sorted m.2)) key =
      (Fields.value fields key).sorted := by
  rw [Fields.value, get?_sorted distinct, Fields.value]
  cases Fields.get? fields key <;> rfl

/-! ## Regular values -/

/-- Whether a value is regular, as a computation. -/
def isRegular : Nat → Json → Bool
  | depth + 1, .array items => items.all (isRegular depth)
  | depth + 1, .object fields =>
    decide (HasDistinctKeys fields) && fields.all fun m => isRegular depth m.2
  | 0, .array _ | 0, .object _ => false
  | _, _ => true

theorem isRegular_iff : isRegular depth v ↔ Regular depth v := by
  induction depth generalizing v with
  | zero =>
    cases v with
    | array items => exact ⟨nofun, nofun⟩
    | object fields => exact ⟨nofun, nofun⟩
    | _ => exact ⟨fun _ => by constructor, fun _ => rfl⟩
  | succ depth ih =>
    cases v with
    | array items =>
      -- A bracket uses up one level of nesting, so the items are compared one level further down.
      rw [isRegular, List.all_eq_true]
      refine ⟨fun all => .array fun item found => ih.mp (all item found), fun regular => ?_⟩
      cases regular with
      | array inside => exact fun item found => ih.mpr (inside item found)
    | object fields =>
      rw [isRegular, Bool.and_eq_true, decide_eq_true_eq, List.all_eq_true]
      refine ⟨fun ⟨distinct, all⟩ => .object distinct fun m found => ih.mp (all m found),
        fun regular => ?_⟩
      cases regular with
      | object distinct inside => exact ⟨distinct, fun m found => ih.mpr (inside m found)⟩
    | _ => exact ⟨fun _ => by constructor, fun _ => rfl⟩

instance : Decidable (Regular depth v) := decidable_of_iff _ isRegular_iff

namespace Regular

theorem mono (h : Regular depth v) (le : depth ≤ depth') : Regular depth' v := by
  induction h generalizing depth' with
  | array _ ih =>
    obtain ⟨inner, rfl⟩ : ∃ inner, depth' = inner + 1 := Nat.exists_eq_succ_of_ne_zero (by omega)
    exact .array fun item member => ih item member (by omega)
  | object distinct _ ih =>
    obtain ⟨inner, rfl⟩ : ∃ inner, depth' = inner + 1 := Nat.exists_eq_succ_of_ne_zero (by omega)
    exact .object distinct fun member found => ih member found (by omega)
  | _ => constructor

theorem sorted_sorted (h : Regular depth v) : v.sorted.sorted = v.sorted := by
  induction h with
  | array _ ih =>
    simp only [sorted_array, List.map_map]
    congr 1
    exact List.map_congr_left ih
  | object _ _ ih =>
    rw [sorted_object, sorted_object, sortByKey_map, sortByKey_sortByKey, List.map_map]
    congr 1
    refine List.map_congr_left fun m found => ?_
    simp [ih m (mem_sortByKey.mp found)]
  | _ => rfl

theorem same_sorted (h : Regular depth v) : v.sorted.Same v := h.sorted_sorted

theorem hasDistinctKeys (h : Regular depth (.object fields)) : HasDistinctKeys fields := by
  cases h with
  | object distinct _ => exact distinct

theorem value (h : Regular (depth + 1) (.object fields)) :
    Regular depth (Fields.value fields key) := by
  cases h with
  | object _ inside =>
    unfold Fields.value
    cases found : Fields.get? fields key with
    | none => exact .null
    | some v =>
      obtain ⟨_, _, split⟩ := List.lookup_eq_some_iff.mp found
      exact inside (key, v) (by simp [split])

theorem same_sorted_value (h : Regular depth (.object fields)) :
    (Fields.value fields key).sorted.Same (Fields.value fields key) := by
  obtain ⟨inner, rfl⟩ : ∃ inner, depth = inner + 1 := by
    cases h with
    | object => exact ⟨_, rfl⟩
  exact h.value.same_sorted

end Regular

end BattleMaps.Json
