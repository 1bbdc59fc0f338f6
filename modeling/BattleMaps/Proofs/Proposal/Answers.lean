import BattleMaps.Proofs.Proposal.DefaultIds
import BattleMaps.Proofs.Proposal.Projection

/-!
# Answers that cannot be refused

A map that asks for regions with proper ids can be answered: an answer with a proper grid and one
entry for each required region is accepted, in whatever order the entries come and whatever cells
they list. Ids are trimmed on both sides, so blanks around an id in an answer make no difference.

## Main definitions

* `CombatSpec.HasProperIds` — whether the required ids can be given in an answer at all
* `Answers` — whether an entry answers for a required region

## Main results

* `describedIds_of_answers` — the ids of the answer are the required ones, in its own order
* `accept_of_answers` — such an answer is accepted
* `accept_field_plainEntry` — and there is one
-/

namespace BattleMaps

/-- Whether the ids of the regions that a battle map requires can be given in an answer: they are
trimmed, not blank, and distinct. -/
structure CombatSpec.HasProperIds (spec : CombatSpec) : Prop where
  trimmed : ∀ q ∈ spec.regions, Text.nonBlank? q.id = some q.id
  nodup : (spec.regions.map (·.id)).Nodup

namespace Proposal

variable {spec : CombatSpec} {encoding : Encoding} {floor : Float} {proposal : Fields}
  {entry : Json} {entries : List Json} {q : RequiredRegion} {order : List RequiredRegion}
  {index : Nat} {p : Promise}

/-- Whether an entry answers for a required region: an object that gives its id, perhaps with blanks
around it, and lists cells, of whatever values. -/
def Answers (entry : Json) (q : RequiredRegion) : Prop :=
  ∃ fields s cells, entry = .object fields ∧
    Fields.value fields "id" = .text s ∧ Text.IsPadded s q.id ∧
    Fields.value fields "cells" = .array cells

theorem Answers.describedId?_eq (h : Answers entry q) (proper : Text.nonBlank? q.id = some q.id)
    (index : Nat) : describedId? index entry = some q.id := by
  obtain ⟨fields, s, cells, rfl, given, padded, listed⟩ := h
  have id : regionId index fields = q.id := by
    rw [regionId, given, Json.trimmed?, Json.plainIfFilled_text, padded.nonBlank?_eq proper]
    rfl
  rw [describedId?, listsCells, listed, id]
  rfl

/-- The ids of an answer are those of the regions that it answers for. -/
theorem describedIds_of_answers (answered : List.Forall₂ Answers entries order)
    (proper : ∀ q ∈ order, Text.nonBlank? q.id = some q.id) :
    describedIds entries = order.map (·.id) := by
  have from_ (start : Nat) :
      ((entries.zipIdx start).filterMap fun e => describedId? e.2 e.1) = order.map (·.id) := by
    induction answered generalizing start with
    | nil => rfl
    | cons here _ ih =>
      obtain ⟨first, others⟩ := List.forall_mem_cons.mp proper
      rw [List.zipIdx_cons, List.filterMap_cons, here.describedId?_eq first, ih others,
        List.map_cons]
  exact from_ 0

theorem listsCells_of_answers (answered : List.Forall₂ Answers entries order) :
    ∀ fields, Json.object fields ∈ entries → listsCells fields := by
  induction answered with
  | nil => simp
  | cons here _ ih =>
    intro fields member
    rcases List.mem_cons.mp member with rfl | member
    · obtain ⟨_, _, _, same, -, -, listed⟩ := here
      obtain rfl := Json.object.inj same
      rw [listsCells, listed]
      rfl
    · exact ih fields member

/-- Entries that list cells and have distinct ids keep all their promises. -/
theorem kept_of_mem_regionPromises
    (listed : ∀ fields, Json.object fields ∈ entries → listsCells fields)
    (distinct : (describedIds entries).Nodup) (h : p ∈ regionPromises entries) : p.Kept := by
  by_contra broken
  have repeated : ∃ id, p.violation = .repeatedRegion id := by
    obtain ⟨⟨entry, index⟩, member, h⟩ := List.mem_flatMap.mp h
    dsimp only [entryPromises] at h
    split at h
    · rename_i id described
      cases entry with
      | object fields =>
        -- Nothing is asked of an entry that lists cells besides the id.
        have cells : listsCells fields := listed fields (List.fst_mem_of_mem_zipIdx member)
        change p ∈ _ :: (if listsCells fields then [] else _) at h
        rw [if_pos cells, List.mem_singleton] at h
        exact ⟨id, by rw [h]⟩
      | _ => contradiction
    · contradiction
  obtain ⟨id, repeated⟩ := repeated
  exact not_nodup_of_mem_regionPromises h broken repeated distinct

/-- An answer with a proper grid and one entry for each required region is accepted, and its regions
are the required ones. -/
theorem accept_of_answers (proper : spec.HasProperIds)
    (shaped : ∀ p ∈ shapePromises proposal, p.Kept)
    (walkable : (walkablePromise encoding floor proposal).Kept)
    (given : proposal.value "regions" = .array entries) (all : order.Perm spec.regions)
    (answered : List.Forall₂ Answers entries order) :
    ∃ m, accept spec encoding floor proposal = .ok m ∧
      m.regions.map (·.id) = order.map (·.id) := by
  have entriesEq : givenEntries proposal = entries := by rw [givenEntries, given]; rfl
  have ids : describedIds entries = order.map (·.id) :=
    describedIds_of_answers answered fun q member => proper.trimmed q (all.mem_iff.mp member)
  have distinct : (describedIds entries).Nodup := by
    rw [ids]
    exact (all.map _).nodup_iff.mpr proper.nodup
  have kept : ∀ p ∈ promises spec encoding floor proposal, p.Kept := by
    intro p member
    simp only [promises, entriesEq, List.mem_append, List.mem_singleton] at member
    rcases member with ((shape | rfl) | region) | rfl
    · exact shaped p shape
    · exact walkable
    · exact kept_of_mem_regionPromises (listsCells_of_answers answered) distinct region
    · refine List.filter_eq_nil_iff.mpr fun id required => ?_
      have found : id ∈ describedIds entries := by
        rw [ids]
        exact (all.map _).mem_iff.mpr required
      simpa using found
  obtain ⟨m, accepted⟩ := exists_eq_ok (accept_checks.isOk_iff.mpr kept)
  refine ⟨m, accepted, ?_⟩
  obtain ⟨values, -, -, -, read, -⟩ := accept_eq_ok_iff.mp accepted
  rw [regions_eq_ok read, ← ids, ← entriesEq]
  rfl

/-! ## A plain answer -/

/-- The entry that says nothing but the id, with no cells. -/
def plainEntry (q : RequiredRegion) : Json := .object [("id", .text q.id), ("cells", .array [])]

theorem plainEntry_answers (q : RequiredRegion) : Answers (plainEntry q) q :=
  ⟨_, q.id, [], rfl, rfl, .refl q.id, rfl⟩

/-- An open field is as walkable as a grid can be. -/
theorem walkablePromise_field (encoding : Encoding) (low : ¬ 1 < floor) (entries : List Json) :
    (walkablePromise encoding floor (field entries)).Kept := by
  have share : (Grid.ofValues encoding (givenValues (field entries))).walkableFraction = 1 := by
    have given : givenValues (field entries) = List.replicate cellCount (.int 0) := rfl
    rw [given]
    cases encoding <;> decide +kernel
  simpa only [walkablePromise, share] using low

/-- A map that asks for regions with proper ids can be answered: with an open field and an entry for
each region, that lists no cells. -/
theorem accept_field_plainEntry (proper : spec.HasProperIds) (low : ¬ 1 < floor) :
    ∃ m, accept spec encoding floor (field (spec.regions.map plainEntry)) = .ok m ∧
      m.regions.map (·.id) = spec.regions.map (·.id) := by
  have answered : List.Forall₂ Answers (spec.regions.map plainEntry) spec.regions := by
    rw [List.forall₂_map_left_iff, List.forall₂_same]
    exact fun q _ => plainEntry_answers q
  refine accept_of_answers proper ?_ (walkablePromise_field encoding low _) rfl (.refl _) answered
  intro p member
  obtain rfl := List.mem_singleton.mp member
  exact List.length_replicate

end Proposal

end BattleMaps
