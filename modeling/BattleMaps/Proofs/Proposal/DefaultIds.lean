import BattleMaps.Proofs.Proposal.Promises

/-!
# Given and default ids

An entry that describes a region but gives no id is named for its place among the entries. Default
ids and given ones share a name space: a given id may be spelled like the default of another entry,
and a required one may be spelled like a default. Apart from that, default ids change nothing. They
are distinct among themselves, so an id comes up twice only if it is given twice or given and a
default; and every required id of an accepted map is given, unless it is a default.

## Main definitions

* `givenId?`, `givenIds` — the ids that entries give
* `defaultId?`, `defaultIds` — the ids of the entries that give none

## Main results

* `describedIds_perm` — every id is given or a default
* `nodup_describedIds_iff` — when the ids of a proposal are distinct
* `not_nodup_of_repeatedRegion` — an id is refused as repeated only if the ids are not distinct
* `acceptValue_ids` — where the ids of an accepted map come from, and which ids are never repeated
-/

namespace BattleMaps.Proposal

variable {α β : Type} {spec : CombatSpec} {encoding : Encoding} {floor : Float} {proposal : Fields}
  {entry value : Json} {entries : List Json} {index : Nat} {id other : String} {p : Promise}
  {v : Violation} {m : BattleMap}

/-! ## Given and default ids -/

/-- The id that an entry gives for the region that it describes. -/
def givenId? (entry : Json) : Option String :=
  ( entry? entry).bind fun described => (Fields.value described.1 "id").trimmed?

/-- The id of an entry at an index that describes a region without giving an id. -/
def defaultId? (index : Nat) (entry : Json) : Option String :=
  if ( entry? entry).isSome ∧ givenId? entry = none then some s!"region_{index}" else none

/-- The ids that entries give. -/
def givenIds (entries : List Json) : List String := entries.filterMap givenId?

/-- The ids of the entries that give none. -/
def defaultIds (entries : List Json) : List String :=
  entries.zipIdx.filterMap fun (entry, index) => defaultId? index entry

/-- The id of an entry is the one that it gives, and the default one failing that. -/
theorem describedId?_eq_or (index : Nat) (entry : Json) :
    describedId? index entry = (givenId? entry).or (defaultId? index entry) := by
  rw [describedId?_eq, defaultId?, givenId?]
  cases described : entry? entry with
  | none => rfl
  | some found =>
    obtain ⟨fields, extent⟩ := found
    simp only [Option.map_some, Option.bind_some, Option.isSome_some, true_and, regionId]
    cases (Fields.value fields "id").trimmed? with
    | none => rfl
    | some id => rfl

theorem givenId?_eq_none_of_defaultId? (h : defaultId? index entry = some id) :
    givenId? entry = none := by
  rw [defaultId?] at h
  split_ifs at h with anonymous
  exact anonymous.2

/-- Where each member is of one kind or of the other, those of both kinds are those of the one
followed by those of the other, in some order. -/
theorem filterMap_or_perm {f g : α → Option β} (apart : ∀ a b, g a = some b → f a = none)
    (l : List α) :
    (l.filterMap fun a => (f a).or (g a)).Perm (l.filterMap f ++ l.filterMap g) := by
  induction l with
  | nil => exact .refl _
  | cons a rest ih =>
    rw [List.filterMap_cons, List.filterMap_cons, List.filterMap_cons]
    cases second : g a with
    | some b =>
      rw [apart a b second]
      exact (ih.cons b).trans List.perm_middle.symm
    | none =>
      cases f a with
      | some b => exact ih.cons b
      | none => exact ih

theorem describedIds_perm :
    (describedIds entries).Perm (givenIds entries ++ defaultIds entries) := by
  have given : givenIds entries = entries.zipIdx.filterMap fun (entry, _) => givenId? entry := by
    conv_lhs => rw [givenIds, ← List.zipIdx_map_fst 0 entries, List.filterMap_map]
    rfl
  rw [given, describedIds, defaultIds]
  simp only [describedId?_eq_or]
  exact filterMap_or_perm (fun _ _ => givenId?_eq_none_of_defaultId?) _

theorem defaultId_injective {i j : Nat} (same : s!"region_{i}" = s!"region_{j}") : i = j := by
  have numerals : Nat.toDigits 10 i = Nat.toDigits 10 j := by
    simpa [toString] using congrArg String.toList same
  simpa using congrArg (Nat.ofDigitChars 10 · 0) numerals

/-- Entries at different places have different default ids. -/
theorem nodup_defaultIds : (defaultIds entries).Nodup := by
  have places : entries.zipIdx.Pairwise fun a b => a.2 ≠ b.2 := by
    rw [← List.pairwise_map, List.zipIdx_map_snd]
    exact List.nodup_range'
  refine List.Pairwise.filterMap _ ?_ places
  intro a b apart id here id' there same
  subst same
  simp only [defaultId?] at here there
  split_ifs at here there
  exact apart (defaultId_injective ((Option.some.inj here).trans (Option.some.inj there).symm))

/-- The ids of a proposal are distinct exactly if the given ones are and none of them is the default
id of another entry. -/
theorem nodup_describedIds_iff :
    (describedIds entries).Nodup ↔
      (givenIds entries).Nodup ∧ ∀ id ∈ defaultIds entries, id ∉ givenIds entries := by
  rw [describedIds_perm.nodup_iff, List.nodup_append']
  simp only [nodup_defaultIds, true_and, List.Disjoint]
  exact and_congr_right fun _ => ⟨fun h id a b => h b a, fun h id a b => h id b a⟩

/-! ## Repeated ids -/

/-- A violation that is reported is that of some broken promise. -/
theorem FirstBroken.exists_mem {promises : List Promise} (h : FirstBroken promises v) :
    ∃ p ∈ promises, ¬ p.Kept ∧ p.violation = v := by
  induction h with
  | here broken => exact ⟨_, List.mem_cons_self .., broken, rfl⟩
  | later _ _ ih =>
    obtain ⟨p, member, broken⟩ := ih
    exact ⟨p, List.mem_cons_of_mem _ member, broken⟩

/-- Bounds promise nothing about ids. -/
theorem violation_ne_repeatedRegion (h : p ∈ boundsPromises id value) :
    p.violation ≠ .repeatedRegion other := by
  simp only [boundsPromises, sidePromise, List.map_cons, List.map_nil, List.cons_append,
    List.nil_append, List.mem_cons, List.not_mem_nil, or_false] at h
  rcases h with rfl | rfl | rfl | rfl | rfl | rfl <;> simp

/-- An id that comes up before an entry and is the entry's own comes up twice. -/
theorem not_nodup_describedIds (place : entries[index]? = some entry)
    (before : id ∈ describedIds (entries.take index)) (own : describedId? index entry = some id) :
    ¬ (describedIds entries).Nodup := by
  obtain ⟨inside, rfl⟩ := List.getElem?_eq_some_iff.mp place
  have parts : entries.zipIdx = (entries.take index).zipIdx ++
      (entries[index], index) :: (entries.drop (index + 1)).zipIdx (index + 1) := by
    conv_lhs => rw [← List.take_append_drop index entries, List.drop_eq_getElem_cons inside]
    rw [List.zipIdx_append, List.zipIdx_cons, List.length_take, Nat.min_eq_left inside.le,
      Nat.zero_add]
  intro distinct
  rw [describedIds, parts, List.filterMap_append, List.nodup_append'] at distinct
  exact distinct.2.2 before (List.mem_filterMap.mpr ⟨_, List.mem_cons_self .., own⟩)

/-- An entry breaks its promise of an id of its own only if an entry before it has the id. -/
theorem not_nodup_of_mem_regionPromises (h : p ∈ regionPromises entries) (broken : ¬ p.Kept)
    (repeated : p.violation = .repeatedRegion id) : ¬ (describedIds entries).Nodup := by
  obtain ⟨⟨entry, index⟩, member, h⟩ := List.mem_flatMap.mp h
  dsimp only [entryPromises] at h
  split at h
  · rename_i own described
    rcases List.mem_cons.mp h with rfl | h
    · exact not_nodup_describedIds (List.mem_zipIdx_iff_getElem?.mp member) (not_not.mp broken)
        described
    · split_ifs at h
      · contradiction
      · exact absurd repeated (violation_ne_repeatedRegion h)
  · contradiction

/-- An id is refused as repeated only if the ids of the proposal are not distinct. -/
theorem not_nodup_of_repeatedRegion
    (h : accept spec encoding floor proposal = .error (.repeatedRegion id)) :
    ¬ (describedIds (givenEntries proposal)).Nodup := by
  obtain ⟨p, member, broken, repeated⟩ := ((accept_checks.error_iff _).mp h).exists_mem
  have family : p.violation.family = .regionShape := by rw [repeated]; rfl
  simp only [promises, List.mem_append, List.mem_singleton] at member
  -- Only the promises of entries are about the shape of a region.
  rcases member with ((shape | rfl) | region) | rfl
  · rw [family_of_mem_shapePromises shape] at family
    contradiction
  · contradiction
  · exact not_nodup_of_mem_regionPromises region broken repeated
  · contradiction

/-- The ids of the regions of an accepted map are given, or defaults. -/
theorem mem_ids_of_accept_eq_ok (h : accept spec encoding floor proposal = .ok m) :
    ∀ id ∈ m.regions.map (·.id),
      id ∈ givenIds (givenEntries proposal) ∨ id ∈ defaultIds (givenEntries proposal) := by
  intro id member
  obtain ⟨values, -, -, -, read, -⟩ := accept_eq_ok_iff.mp h
  rw [regions_eq_ok read] at member
  exact List.mem_append.mp (describedIds_perm.mem_iff.mp member)

/-- Every required id of an accepted map was given, unless it is the default id of an entry that
gives none; and no id is refused as repeated if the given ids are distinct and none of them is such
a default id. -/
theorem acceptValue_ids (spec : CombatSpec) (encoding : Encoding) (floor : Float)
    (proposal : Fields) :
    (∀ m, acceptValue spec encoding floor (.object proposal) = .ok m → ∀ q ∈ spec.regions,
        q.id ∈ givenIds (givenEntries proposal) ∨ q.id ∈ defaultIds (givenEntries proposal)) ∧
      ((givenIds (givenEntries proposal)).Nodup →
        (∀ id ∈ defaultIds (givenEntries proposal), id ∉ givenIds (givenEntries proposal)) →
          ∀ id, acceptValue spec encoding floor (.object proposal) ≠
            .error (.repeatedRegion id)) := by
  constructor
  · intro m accepted q required
    exact mem_ids_of_accept_eq_ok accepted q.id
      ((sound_of_accept_eq_ok accepted).required_mem q required)
  · intro distinct apart id refused
    exact not_nodup_of_repeatedRegion refused (nodup_describedIds_iff.mpr ⟨distinct, apart⟩)

/-- The map of the inn has the hall because its id was given. The other entry goes by its place, and
no id is repeated. -/
theorem innProposal_ids :
    ∃ proposal, innProposal = .object proposal ∧
      givenIds (givenEntries proposal) = ["hall"] ∧
      defaultIds (givenEntries proposal) = ["region_1"] ∧
      (∃ m, acceptValue innSpec .extended 0.3 (.object proposal) = .ok m ∧
        ∀ q ∈ innSpec.regions,
          q.id ∈ givenIds (givenEntries proposal) ∨ q.id ∈ defaultIds (givenEntries proposal)) ∧
      ∀ floor id, acceptValue innSpec .extended floor (.object proposal) ≠
        .error (.repeatedRegion id) := by
  have given : givenIds (givenEntries (innProposal.fields?.getD [])) = ["hall"] := by
    decide +kernel
  have defaults : defaultIds (givenEntries (innProposal.fields?.getD [])) = ["region_1"] := by
    decide +kernel
  have accepted : (acceptValue innSpec .extended 0.3 innProposal).isOk := by decide +kernel
  obtain ⟨m, h⟩ := exists_eq_ok accepted
  refine ⟨_, rfl, given, defaults, ⟨m, h, (acceptValue_ids innSpec .extended 0.3 _).1 m h⟩, ?_⟩
  intro floor
  refine (acceptValue_ids innSpec .extended floor (innProposal.fields?.getD [])).2 ?_ ?_
  · rw [given]
    exact List.nodup_singleton "hall"
  · rw [given, defaults]
    decide

/-- An open field with the given regions. -/
def field (entries : List Json) : Fields :=
  [("tileData", .array (List.replicate cellCount (.int 0))), ("regions", .array entries)]

/-- An inn whose hall goes by a number. -/
def numberedSpec : CombatSpec :=
  { innSpec with
    regions := [{ id := "region_0", name := "Hall", kind := "tavern", size := "large" }] }

/-- An entry that gives no id. -/
def anonymous (cell : Int) : Json := .object [("cells", .array [.int cell])]

/-- The id that is refused as repeated, if that is how a check ends. -/
def repeatedId? : Except Violation α → Option String
  | .error (.repeatedRegion id) => some id
  | _ => none

theorem eq_error_of_repeatedId? {result : Except Violation α} (h : repeatedId? result = some id) :
    result = .error (.repeatedRegion id) := by
  unfold repeatedId? at h
  split at h
  · rw [Option.some.inj h]
  · contradiction

/-- Given and default ids get into each other's way: an entry without an id is taken for the region
that is required, and a given id is refused for an entry that has none. -/
theorem defaultIds_interfere :
    (∃ m, acceptValue numberedSpec .extended 0.3 (.object (field [anonymous 5])) = .ok m ∧
      ∃ q ∈ numberedSpec.regions, q.id ∉ givenIds (givenEntries (field [anonymous 5]))) ∧
    let entries : List Json :=
      [.object [("id", .text "region_1"), ("cells", .array [.int 4])], anonymous 5]
    (givenIds (givenEntries (field entries))).Nodup ∧
      acceptValue innSpec .extended 0.3 (.object (field entries)) =
        .error (.repeatedRegion "region_1") := by
  constructor
  · have accepted :
        (acceptValue numberedSpec .extended 0.3 (.object (field [anonymous 5]))).isOk := by
      decide +kernel
    obtain ⟨m, h⟩ := exists_eq_ok accepted
    exact ⟨m, h, _, List.mem_singleton_self _, by decide +kernel⟩
  · exact ⟨by decide +kernel, eq_error_of_repeatedId? (by decide +kernel)⟩

end BattleMaps.Proposal
