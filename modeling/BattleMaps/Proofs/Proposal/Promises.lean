import BattleMaps.Proofs.Proposal.Acceptance

/-!
# The first broken promise

What is asked of a proposal can be written down without saying how it is checked: promises in a
fixed order, each with the violation that reports it. Where the tiles are rows there is one promise
for their number and two for each of them; every entry that describes a region promises a new id,
and one that gives bounds instead of cells promises proper bounds besides. A proposal is accepted
exactly if it keeps all promises, and otherwise the violation is that of the first one that it
breaks.

## Main definitions

* `Promise`, `FirstBroken` — what is asked, and what is reported if not all of it is so
* `Checks` — whether a check accepts exactly what keeps all promises, and else reports the first
  broken one
* `promises` — all that is asked of a proposal

## Main results

* `regionsFrom_checks` — the pass over the entries checks the promises of the entries
* `accept_checks` — acceptance checks all promises
* `acceptValue_object_checks` — and each of its violations concerns what was promised there
-/

namespace BattleMaps.Proposal

variable {α β : Type}

/-! ## Promises -/

/-- Something that is asked of a proposal, and what is reported if it is not so. -/
structure Promise where
  Kept : Prop
  violation : Violation

variable {p : Promise} {own others : List Promise} {v : Violation} {check : Except Violation α}

/-- Whether a violation is that of the first broken promise. -/
inductive FirstBroken : List Promise → Violation → Prop where
  | here {p : Promise} {rest : List Promise} (broken : ¬ p.Kept) :
      FirstBroken (p :: rest) p.violation
  | later {p : Promise} {rest : List Promise} {v : Violation} (kept : p.Kept)
      (first : FirstBroken rest v) : FirstBroken (p :: rest) v

theorem not_firstBroken_nil : ¬ FirstBroken [] v := fun h => nomatch h

theorem firstBroken_cons_iff :
    FirstBroken (p :: own) v ↔ ¬ p.Kept ∧ v = p.violation ∨ p.Kept ∧ FirstBroken own v := by
  constructor
  · intro h
    cases h with
    | here broken => exact .inl ⟨broken, rfl⟩
    | later kept first => exact .inr ⟨kept, first⟩
  · rintro (⟨broken, rfl⟩ | ⟨kept, first⟩)
    · exact .here broken
    · exact .later kept first

/-- Later promises count once all earlier ones are kept. -/
theorem firstBroken_append_iff :
    FirstBroken (own ++ others) v ↔
      FirstBroken own v ∨ (∀ p ∈ own, p.Kept) ∧ FirstBroken others v := by
  induction own with
  | nil => simp [not_firstBroken_nil]
  | cons p rest ih =>
    rw [List.cons_append, firstBroken_cons_iff, firstBroken_cons_iff, ih, List.forall_mem_cons]
    tauto

/-! ## Checks -/

/-- Whether a check succeeds exactly if all promises are kept, and otherwise reports the first
broken one. -/
structure Checks (promises : List Promise) (check : Except Violation α) : Prop where
  isOk_iff : check.isOk ↔ ∀ p ∈ promises, p.Kept
  error_iff : ∀ v, check = .error v ↔ FirstBroken promises v

namespace Checks

theorem ok (a : α) : Checks [] (.ok a) where
  isOk_iff := by simp [Except.isOk, Except.toBool]
  error_iff := by simp [not_firstBroken_nil]

theorem error (broken : ¬ p.Kept) :
    Checks (p :: own) (.error p.violation : Except Violation α) where
  isOk_iff := by simp [Except.isOk, Except.toBool, broken]
  error_iff v := by
    rw [firstBroken_cons_iff, Except.error.injEq]
    simp [broken, eq_comm]

/-- A promise that is kept is passed over. -/
theorem cons (kept : p.Kept) (rest : Checks own check) : Checks (p :: own) check where
  isOk_iff := by rw [rest.isOk_iff, List.forall_mem_cons, and_iff_right kept]
  error_iff v := by
    rw [rest.error_iff, firstBroken_cons_iff]
    simp [kept]

/-- One step after another: the later promises matter once the first step has succeeded. -/
theorem bind {next : α → Except Violation β} (first : Checks own check)
    (second : ∀ a, check = .ok a → Checks others (next a)) :
    Checks (own ++ others) (check >>= next) := by
  cases result : check with
  | error e =>
    have broken : FirstBroken own e := (first.error_iff e).mp result
    have some : ¬ ∀ p ∈ own, p.Kept := by
      rw [← first.isOk_iff, result]
      exact Bool.false_ne_true
    constructor
    · rw [List.forall_mem_append]
      exact ⟨fun absent => absurd absent Bool.false_ne_true, fun all => absurd all.1 some⟩
    · intro v
      rw [firstBroken_append_iff, ← first.error_iff, result]
      constructor
      · intro same
        exact .inl (congrArg Except.error (Except.error.inj same))
      · rintro (same | ⟨all, -⟩)
        · exact congrArg Except.error (Except.error.inj same)
        · exact absurd all some
  | ok a =>
    have kept : ∀ p ∈ own, p.Kept := first.isOk_iff.mp (by rw [result]; rfl)
    have rest := second a result
    change Checks (own ++ others) (next a)
    constructor
    · rw [List.forall_mem_append, rest.isOk_iff, and_iff_right kept]
    · intro v
      rw [firstBroken_append_iff, rest.error_iff, ← first.error_iff, result, and_iff_right kept]
      simp

/-- What only makes something of a result checks no further promises. -/
theorem map {f : α → β} (first : Checks own check) : Checks own (check.map f) := by
  have same : check.map f = check >>= fun a => .ok (f a) := by cases check <;> rfl
  have whole := first.bind fun a _ => Checks.ok (f a)
  rwa [List.append_nil, ← same] at whole

end Checks

/-! ## Tiles -/

/-- The values of a row; a value that is no row has none. -/
def rowValues (row : Json) : List Json := row.items?.getD []

/-- What is asked of the row at an index: it is a list, and of full length. -/
def rowPromises (index : Nat) (row : Json) : List Promise :=
  [⟨row.items?.isSome, .rowNotAList index⟩,
   ⟨(rowValues row).length = gridSize, .rowLength index (rowValues row).length⟩]

/-- What is asked of the tiles: twenty rows of twenty values if there are rows, and otherwise a list
of four hundred values. -/
def shapePromises (proposal : Fields) : List Promise :=
  match (proposal.value "rows").items?, (proposal.value "tileData").items? with
  | some rows, _ =>
    ⟨rows.length = gridSize, .rowCount rows.length⟩ ::
      rows.zipIdx.flatMap fun (row, index) => rowPromises index row
  | none, some values => [⟨values.length = cellCount, .tileCount values.length⟩]
  | none, none => [⟨False, .noTiles⟩]

/-- The values that are given for the tiles, row by row. -/
def givenValues (proposal : Fields) : List Json :=
  match (proposal.value "rows").items?, (proposal.value "tileData").items? with
  | some rows, _ => rows.flatMap rowValues
  | none, some values => values
  | none, none => []

/-- What is asked of the grid: enough of it is walkable. -/
def walkablePromise (encoding : Encoding) (floor : Float) (proposal : Fields) : Promise :=
  let share := (Grid.ofValues encoding (givenValues proposal)).walkableFraction
  ⟨¬ share < floor, .tooWalled (share * 100) (floor * 100)⟩

variable {spec : CombatSpec} {encoding : Encoding} {floor : Float} {proposal fields : Fields}
  {id : String} {value : Json} {before entries : List Json}

theorem flattenRows_checks (index : Nat) (rows : List Json) :
    Checks ((rows.zipIdx index).flatMap fun (row, index) => rowPromises index row)
      (flattenRows index rows) := by
  induction rows generalizing index with
  | nil => exact .ok []
  | cons row rest ih =>
    rw [List.zipIdx_cons, List.flatMap_cons]
    cases row with
    | array items =>
      rw [flattenRows]
      refine .cons rfl ?_
      split_ifs with full
      · exact .cons full (ih (index + 1)).map
      · exact .error full
    | _ => exact .error Bool.false_ne_true

theorem flattenRows_eq_ok {index : Nat} {rows values : List Json}
    (h : flattenRows index rows = .ok values) : values = rows.flatMap rowValues := by
  induction rows generalizing index values with
  | nil => exact (Except.ok.inj h).symm
  | cons row rest ih =>
    cases row with
    | array items =>
      rw [flattenRows] at h
      split_ifs at h
      obtain ⟨others, read, rfl⟩ := map_eq_ok.mp h
      rw [List.flatMap_cons, ih read]
      rfl
    | _ => simp [flattenRows] at h

theorem tiles_checks : Checks (shapePromises proposal) (tiles proposal) := by
  rw [tiles_eq, shapePromises]
  cases (proposal.value "rows").items? with
  | some rows =>
    dsimp only
    split_ifs with full
    · exact .cons full (flattenRows_checks 0 rows)
    · exact .error full
  | none =>
    cases (proposal.value "tileData").items? with
    | some values =>
      dsimp only
      split_ifs with full
      · exact .cons full (.ok values)
      · exact .error full
    | none => exact .error not_false

theorem tiles_eq_ok {values : List Json} (h : tiles proposal = .ok values) :
    values = givenValues proposal := by
  rw [tiles_eq] at h
  rw [givenValues]
  cases rows : (proposal.value "rows").items? with
  | some rows =>
    simp only [rows] at h ⊢
    split_ifs at h
    exact flattenRows_eq_ok h
  | none =>
    cases given : (proposal.value "tileData").items? with
    | some values =>
      simp only [rows, given] at h ⊢
      split_ifs at h
      exact (Except.ok.inj h).symm
    | none =>
      simp only [rows, given] at h
      contradiction

theorem checkWalkable_checks :
    Checks [walkablePromise encoding floor proposal]
      (checkWalkable (Grid.ofValues encoding (givenValues proposal)) floor) := by
  unfold checkWalkable
  dsimp only
  split_ifs with below
  · exact .error (p := walkablePromise encoding floor proposal) (not_not_intro below)
  · exact .cons below (.ok ())

/-! ## Regions -/

/-- The value that is given for a side of a rectangle; a missing or absent one is zero. -/
def givenSide (bounds : Fields) (side : Side) : Json :=
  match bounds.value side.key with
  | .null => .int 0
  | v => v

/-- Whether two sides, if they are whole numbers, are in order. -/
def InOrder (bounds : Fields) (low high : Side) : Prop :=
  ∀ a ∈ (givenSide bounds low).wholeNumber?, ∀ b ∈ (givenSide bounds high).wholeNumber?, a ≤ b

/-- What is asked of one side: it is a whole number. -/
def sidePromise (id : String) (bounds : Fields) (side : Side) : Promise :=
  ⟨(givenSide bounds side).wholeNumber?.isSome, .boundNotWhole id side (givenSide bounds side)⟩

/-- What is asked of bounds: they are an object, their sides are whole numbers, and neither ends
before it starts. -/
def boundsPromises (id : String) (bounds : Json) : List Promise :=
  let sides := bounds.fields?.getD []
  ⟨bounds.fields?.isSome, .boundsNotAnObject id⟩ ::
    [Side.minRow, .maxRow, .minCol, .maxCol].map (sidePromise id sides) ++
      [⟨InOrder sides .minRow .maxRow ∧ InOrder sides .minCol .maxCol, .reversedBounds id⟩]

def listsCells (fields : Fields) : Bool := (fields.value "cells").items?.isSome

/-- The id of the entry at an index if it describes a region: if it is an object that lists cells or
gives bounds. -/
def describedId? (index : Nat) : Json → Option String
  | .object fields =>
    if listsCells fields || (Fields.value fields "bounds").isFilled then
      some (regionId index fields)
    else none
  | _ => none

/-- The ids of all entries that describe a region. -/
def describedIds (entries : List Json) : List String :=
  entries.zipIdx.filterMap fun (entry, index) => describedId? index entry

/-- What is asked of the entry at an index, given the ids of the entries before it: an id of its
own, and bounds if it lists no cells. Nothing is asked of an entry that describes no region. -/
def entryPromises (earlier : List String) (index : Nat) (entry : Json) : List Promise :=
  match describedId? index entry, entry.fields?.getD [] with
  | some id, fields =>
    ⟨id ∉ earlier, .repeatedRegion id⟩ ::
      if listsCells fields then [] else boundsPromises id (fields.value "bounds")
  | none, _ => []

/-- What is asked of entries, one after the other. -/
def regionPromises (entries : List Json) : List Promise :=
  entries.zipIdx.flatMap fun (entry, index) =>
    entryPromises (describedIds (entries.take index)) index entry

/-- What is asked of the regions as a whole: no required one is missing. -/
def requiredPromise (required : List RequiredRegion) (entries : List Json) : Promise :=
  let missing := (required.map (·.id)).filter fun id => !(describedIds entries).contains id
  ⟨missing = [], .missingRegions missing⟩

theorem side_eq {bounds : Fields} {which : Side} :
    side bounds id which = (givenSide bounds which).wholeNumber?.elim
      (.error (.boundNotWhole id which (givenSide bounds which))) .ok := by
  unfold side
  dsimp only
  split
  · rename_i n given
    have whole : (givenSide bounds which).wholeNumber? = some n := given
    rw [whole, Option.elim_some]
  · rename_i given
    have none : (givenSide bounds which).wholeNumber? = none := given
    rw [none, Option.elim_none]
    rfl

theorem side_checks {bounds : Fields} {which : Side} :
    Checks [sidePromise id bounds which] (side bounds id which) := by
  rw [side_eq]
  cases whole : (givenSide bounds which).wholeNumber? with
  | some n => exact .cons (by simp [sidePromise, whole]) (.ok n)
  | none => exact .error (p := sidePromise id bounds which) (by simp [sidePromise, whole])

theorem side_eq_ok {bounds : Fields} {which : Side} {n : Int} (h : side bounds id which = .ok n) :
    (givenSide bounds which).wholeNumber? = some n := by
  rw [side_eq] at h
  cases whole : (givenSide bounds which).wholeNumber? with
  | some m =>
    rw [whole] at h
    exact congrArg some (Except.ok.inj h)
  | none =>
    rw [whole] at h
    contradiction

theorem bounds_checks : Checks (boundsPromises id value) (bounds id value) := by
  cases value with
  | object sides =>
    have whole (which : Side) : Checks [sidePromise id sides which] (side sides id which) :=
      side_checks
    refine .cons rfl ?_
    refine (whole .minRow).bind fun minRow top => (whole .maxRow).bind fun maxRow bottom =>
      (whole .minCol).bind fun minCol left => (whole .maxCol).bind fun maxCol right => ?_
    have order : (InOrder sides .minRow .maxRow ∧ InOrder sides .minCol .maxCol) ↔
        ¬ (minRow > maxRow ∨ minCol > maxCol) := by
      simp [InOrder, side_eq_ok top, side_eq_ok bottom, side_eq_ok left, side_eq_ok right]
    split_ifs with reversed
    · exact .error fun kept => order.mp kept reversed
    · exact .cons (order.mpr reversed) (.ok _)
  | _ => exact .error Bool.false_ne_true

/-- The entries that describe a region are those that regions are made of. -/
theorem describedId?_eq (index : Nat) (entry : Json) :
    describedId? index entry = ( entry? entry).map fun described => regionId index described.1 := by
  cases entry with
  | object fields =>
    rw [entry?_object, describedId?, listsCells]
    cases (Fields.value fields "cells").items? with
    | some values => rfl
    | none => cases (Fields.value fields "bounds").isFilled <;> rfl
  | _ => rfl

/-- The cells of an entry are those that it lists, and only bounds promise anything. -/
theorem extent_checks (id : String) {entry : Json} {extent : Extent}
    (h : entry? entry = some (fields, extent)) :
    entry = .object fields ∧
      Checks (if listsCells fields then [] else boundsPromises id (fields.value "bounds"))
        (extent.cells id) := by
  cases entry with
  | object members =>
    rw [entry?_object] at h
    cases cells : (Fields.value members "cells").items? with
    | some values =>
      rw [cells] at h
      obtain ⟨rfl, rfl⟩ := Prod.mk.inj (Option.some.inj h)
      rw [listsCells, cells, if_pos Option.isSome_some]
      exact ⟨rfl, .ok (listedCells values)⟩
    | none =>
      simp only [cells] at h
      split_ifs at h
      obtain ⟨rfl, rfl⟩ := Prod.mk.inj (Option.some.inj h)
      rw [listsCells, cells, Option.isSome_none, if_neg Bool.false_ne_true]
      exact ⟨rfl, bounds_checks.map⟩
  | _ => contradiction

theorem mem_describedIds_concat {entry : Json} {other : String} :
    other ∈ describedIds (before ++ [entry]) ↔
      other ∈ describedIds before ∨ describedId? before.length entry = some other := by
  simp [describedIds, List.zipIdx_append]

/-- The pass over the entries checks the promises of the entries that are left, if the ids that it
has seen are those of the entries behind it. -/
theorem regionsFrom_checks (before rest : List Json) {seen : List String}
    (behind : ∀ id, id ∈ seen ↔ id ∈ describedIds before) :
    Checks
      ((rest.zipIdx before.length).flatMap fun (entry, index) =>
        entryPromises (describedIds ((before ++ rest).take index)) index entry)
      (regionsFrom before.length seen rest) := by
  induction rest generalizing before seen with
  | nil => exact .ok []
  | cons entry rest ih =>
    -- Once the entry is dealt with, it stands behind the pass like those before it.
    have next (seen' : List String)
        (behind' : ∀ id, id ∈ seen' ↔ id ∈ describedIds (before ++ [entry])) := ih _ behind'
    rw [List.length_append, List.length_singleton, List.append_assoc, List.singleton_append] at next
    rw [List.zipIdx_cons, List.flatMap_cons]
    dsimp only
    rw [List.take_left, regionsFrom, entryPromises, describedId?_eq]
    cases described : entry? entry with
    | none =>
      refine next seen fun id => ?_
      rw [mem_describedIds_concat, behind, describedId?_eq, described]
      simp
    | some found =>
      obtain ⟨fields, extent⟩ := found
      obtain ⟨rfl, cells⟩ := extent_checks (regionId before.length fields) described
      have fresh : regionId before.length fields ∉ describedIds before ↔
          ¬ seen.contains (regionId before.length fields) := by
        rw [List.contains_iff_mem, behind]
      by_cases repeated : seen.contains (regionId before.length fields)
      · dsimp only
        rw [if_pos repeated]
        exact .error fun kept => fresh.mp kept repeated
      · dsimp only
        rw [if_neg repeated]
        refine .cons (fresh.mpr repeated) (cells.bind fun found _ => ?_)
        have others := next (regionId before.length fields :: seen) fun id => by
          rw [mem_describedIds_concat, List.mem_cons, behind, describedId?_eq, described]
          simp [or_comm, eq_comm]
        exact others.map

/-- Every entry that describes a region becomes the region of its id. -/
theorem regionsFrom_eq_ok {index : Nat} {seen : List String} {found : List Region}
    (h : regionsFrom index seen entries = .ok found) :
    found.map (·.id) =
      (entries.zipIdx index).filterMap fun (entry, index) => describedId? index entry := by
  induction entries generalizing index seen found with
  | nil =>
    obtain rfl := Except.ok.inj h
    rfl
  | cons entry rest ih =>
    rw [regionsFrom] at h
    rw [List.zipIdx_cons, List.filterMap_cons]
    dsimp only
    rw [describedId?_eq]
    split at h
    · rename_i none
      rw [none]
      exact ih h
    · rename_i fields extent described
      dsimp only at h
      split_ifs at h
      obtain ⟨cells, -, h⟩ := bind_eq_ok.mp h
      obtain ⟨others, read, h⟩ := bind_eq_ok.mp h
      obtain rfl := Except.ok.inj h
      rw [described, List.map_cons, ih read, region_id, Option.map_some]

theorem regions_checks : Checks (regionPromises (value.items?.getD [])) (regions value) := by
  cases value with
  | array entries => exact regionsFrom_checks [] entries fun id => Iff.rfl
  | _ => exact .ok []

theorem regions_eq_ok {found : List Region} (h : regions value = .ok found) :
    found.map (·.id) = describedIds (value.items?.getD []) := by
  cases value with
  | array entries => exact regionsFrom_eq_ok h
  | _ =>
    obtain rfl := Except.ok.inj h
    rfl

theorem checkRequired_checks {required : List RequiredRegion} {found : List Region}
    (ids : found.map (·.id) = describedIds entries) :
    Checks [requiredPromise required entries] (checkRequired required found) := by
  unfold checkRequired
  rw [ids]
  split
  · rename_i complete
    exact .cons complete (.ok ())
  · rename_i missing incomplete
    exact .error (p := requiredPromise required entries) incomplete

/-! ## The whole -/

/-- The values that a proposal lists under its regions. -/
def givenEntries (proposal : Fields) : List Json := (proposal.value "regions").items?.getD []

/-- All that is asked of a proposal: four hundred tiles, enough of them walkable, proper regions,
and the required ones among them. -/
def promises (spec : CombatSpec) (encoding : Encoding) (floor : Float) (proposal : Fields) :
    List Promise :=
  shapePromises proposal ++ [walkablePromise encoding floor proposal] ++
    regionPromises (givenEntries proposal) ++ [requiredPromise spec.regions (givenEntries proposal)]

/-- A tile promise concerns the shape of the grid. -/
theorem family_of_mem_shapePromises (h : p ∈ shapePromises proposal) :
    p.violation.family = .gridShape := by
  unfold shapePromises at h
  split at h
  · rcases List.mem_cons.mp h with rfl | h
    · rfl
    · obtain ⟨⟨row, index⟩, -, h⟩ := List.mem_flatMap.mp h
      simp only [rowPromises, List.mem_cons, List.not_mem_nil, or_false] at h
      rcases h with rfl | rfl <;> rfl
  all_goals
    obtain rfl := List.mem_singleton.mp h
    rfl

theorem violation_of_mem_boundsPromises (h : p ∈ boundsPromises id value) :
    p.violation.family = .regionShape ∨ p.violation = .reversedBounds id := by
  simp only [boundsPromises, sidePromise, List.map_cons, List.map_nil, List.cons_append,
    List.nil_append, List.mem_cons, List.not_mem_nil, or_false] at h
  rcases h with rfl | rfl | rfl | rfl | rfl | rfl
  case inr.inr.inr.inr.inr => exact .inr rfl
  all_goals exact .inl rfl

/-- A promise of an entry concerns the shape of a region, or the order of its bounds. -/
theorem violation_of_mem_regionPromises (h : p ∈ regionPromises entries) :
    p.violation.family = .regionShape ∨ ∃ id ∈ describedIds entries,
      p.violation = .reversedBounds id := by
  obtain ⟨⟨entry, index⟩, member, h⟩ := List.mem_flatMap.mp h
  dsimp only [entryPromises] at h
  split at h
  · rename_i id described
    rcases List.mem_cons.mp h with rfl | h
    · exact .inl rfl
    · split_ifs at h
      · contradiction
      · have mine : id ∈ describedIds entries :=
          List.mem_filterMap.mpr ⟨(entry, index), member, described⟩
        exact (violation_of_mem_boundsPromises h).imp_right fun same => ⟨id, mine, same⟩
  · contradiction

theorem accept_checks :
    Checks (promises spec encoding floor proposal) (accept spec encoding floor proposal) := by
  unfold promises accept
  rw [List.append_assoc, List.append_assoc]
  refine tiles_checks.bind fun values shaped => ?_
  rw [tiles_eq_ok shaped]
  refine checkWalkable_checks.bind fun _ _ => ?_
  refine regions_checks.bind fun found read => ?_
  rw [← List.append_nil [_]]
  exact (checkRequired_checks (regions_eq_ok read)).bind fun _ _ => .ok _

/-- A proposal is accepted if and only if it keeps all promises, and otherwise the violation is
that of the first one that it breaks: the tiles are the shape of the grid, then comes its walkable
share, then the regions one after the other, and last the required ones. -/
theorem acceptValue_object_checks :
    Checks (promises spec encoding floor proposal)
        (acceptValue spec encoding floor (.object proposal)) ∧
      (∀ p ∈ shapePromises proposal, p.violation.family = .gridShape) ∧
      (walkablePromise encoding floor proposal).violation.family = .walkability ∧
      (∀ p ∈ regionPromises (givenEntries proposal), p.violation.family = .regionShape ∨
        ∃ id ∈ describedIds (givenEntries proposal), p.violation = .reversedBounds id) ∧
      (requiredPromise spec.regions (givenEntries proposal)).violation.family =
        .requiredRegions :=
  ⟨accept_checks, fun _ => family_of_mem_shapePromises, rfl,
    fun _ => violation_of_mem_regionPromises, rfl⟩

end BattleMaps.Proposal
