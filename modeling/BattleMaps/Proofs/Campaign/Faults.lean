import BattleMaps.Campaign.Reader
import BattleMaps.Proofs.Decimal.Overflow
import BattleMaps.Proofs.Success

/-!
# How reading a campaign fails

Whatever a campaign file holds, reading it succeeds or names the rule that is broken, with one
exception: a coordinate that is an integer beyond all doubles breaks no rule of the format, and
reading stops there. This happens exactly if everything before the coordinate is in order; a rule
that is broken earlier is named.

## Main definitions

* `OverflowsIff` — whether reading stops at a coordinate exactly if something is so, and otherwise
  succeeds or names a rule
* `FirstIs` — whether some member of a list is so, and all before it are read
* `OverflowsCampaign` — whether the first fault of a campaign is a coordinate beyond all doubles

## Main results

* `OverflowsIff.bind`, `OverflowsIff.mapM` — what steps and lists pass on
* `ofFields_overflowsIff` — how reading a campaign fails
-/

namespace BattleMaps.Campaign

variable {ε α β : Type} {huge huge' : Prop} {x : Except ReadError α} {mapId : String} {v : Json}
  {fields : Fields} {place : Place} {key : String} {index : Nat}

/-! ## Lists -/

/-- Whether some member of a list is so, and all members before it are read. -/
def FirstIs (read : α → Except ε β) (holds : α → Prop) (l : List α) : Prop :=
  ∃ before a after, l = before ++ a :: after ∧ (∀ b ∈ before, (read b).isOk) ∧ holds a

theorem not_firstIs_nil {read : α → Except ε β} {holds : α → Prop} : ¬ FirstIs read holds [] := by
  rintro ⟨before, a, after, parts, -⟩
  simp at parts

theorem firstIs_cons_iff {read : α → Except ε β} {holds : α → Prop} {a : α} {l : List α} :
    FirstIs read holds (a :: l) ↔ holds a ∨ (read a).isOk ∧ FirstIs read holds l := by
  constructor
  · rintro ⟨before, b, after, parts, fine, here⟩
    cases before with
    | nil =>
      obtain ⟨rfl, -⟩ := List.cons.inj parts
      exact .inl here
    | cons c before =>
      obtain ⟨rfl, rfl⟩ := List.cons.inj parts
      obtain ⟨first, others⟩ := List.forall_mem_cons.mp fine
      exact .inr ⟨first, before, b, after, rfl, others, here⟩
  · rintro (here | ⟨first, before, b, after, rfl, others, here⟩)
    · exact ⟨[], a, l, rfl, by simp, here⟩
    · exact ⟨a :: before, b, after, rfl, List.forall_mem_cons.mpr ⟨first, others⟩, here⟩

/-! ## Steps -/

/-- Whether reading stops at a coordinate beyond all doubles exactly if something is so, and names a
broken rule if it fails for any other reason. -/
structure OverflowsIff (huge : Prop) (x : Except ReadError α) : Prop where
  iff : x = .error .hugeCoordinate ↔ huge
  named : ∀ e, x = .error e → e = .hugeCoordinate ∨ ∃ rule, e = .format rule

namespace OverflowsIff

theorem ok (a : α) : OverflowsIff False (.ok a) where
  iff := by simp
  named := by simp

theorem format (rule : FormatError) :
    OverflowsIff False (.error (.format rule) : Except ReadError α) where
  iff := by simp
  named e h := .inr ⟨rule, (Except.error.inj h).symm⟩

theorem overflow : OverflowsIff True (.error .hugeCoordinate : Except ReadError α) where
  iff := by simp
  named e h := .inl (Except.error.inj h).symm

theorem congr (h : OverflowsIff huge x) (same : huge ↔ huge') : OverflowsIff huge' x :=
  propext same ▸ h

/-- The second of two steps is taken only if the first succeeds. -/
theorem bind {next : α → Except ReadError β} (later : α → Prop) (first : OverflowsIff huge x)
    (second : ∀ a, x = .ok a → OverflowsIff (later a) (next a)) :
    OverflowsIff (huge ∨ ∃ a, x = .ok a ∧ later a) (x >>= next) := by
  cases result : x with
  | error e =>
    rw [result] at first
    have same : (Except.error e >>= next) = (.error e : Except ReadError β) := rfl
    constructor
    · rw [same, ← first.iff]
      simp
    · rw [same]
      intro e' h
      exact first.named e' (congrArg _ (Except.error.inj h))
  | ok a =>
    have rest := second a result
    rw [result] at first
    refine congr (x := next a) rest ?_
    rw [← first.iff]
    simp

/-- A second step that stops or not whatever the first one yields. -/
theorem bind_const {next : α → Except ReadError β} (first : OverflowsIff huge x)
    (second : ∀ a, x = .ok a → OverflowsIff huge' (next a)) :
    OverflowsIff (huge ∨ x.isOk ∧ huge') (x >>= next) := by
  refine (bind (fun _ => huge') first second).congr ?_
  rw [isOk_iff, exists_and_right]

/-- Steps that never stop at a coordinate change nothing about it. -/
theorem bind_named {next : α → Except ReadError β} (first : OverflowsIff huge x)
    (second : ∀ a, x = .ok a → OverflowsIff False (next a)) : OverflowsIff huge (x >>= next) :=
  (first.bind_const second).congr (by simp)

/-- A list is read member by member. -/
theorem mapM {f : α → Except ReadError β} {holds : α → Prop}
    (each : ∀ a, OverflowsIff (holds a) (f a)) (l : List α) :
    OverflowsIff (FirstIs f holds l) (l.mapM f) := by
  induction l with
  | nil => exact (ok []).congr (by simp [not_firstIs_nil])
  | cons a rest ih =>
    rw [List.mapM_cons]
    have rest (b : β) := ih.bind_named fun bs _ => ok (b :: bs)
    exact ((each a).bind_const fun b _ => rest b).congr firstIs_cons_iff.symm

end OverflowsIff

/-! ## Coordinates -/

/-- Whether a coordinate is an integer beyond all doubles. -/
def IsHuge (v : Option Json) : Prop :=
  ∃ n : Int, v = some (.int n) ∧ Decimal.overflowBound ≤ n.natAbs

theorem required_overflowsIff : OverflowsIff False (required fields place key) := by
  unfold required
  split
  · exact .ok _
  · exact .format _

theorem coordinate_overflowsIff (mapId : String) (v : Option Json) :
    OverflowsIff (IsHuge v) (coordinate mapId v) := by
  cases v with
  | none => exact (OverflowsIff.ok _).congr (by simp [IsHuge])
  | some v =>
    cases v with
    | int n =>
      have huge : IsHuge (some (.int n)) ↔ Decimal.overflowBound ≤ n.natAbs := by simp [IsHuge]
      rw [huge, ← Decimal.isInf_ofScientific_iff (n < 0), coordinate]
      split_ifs with beyond
      · exact OverflowsIff.overflow.congr (iff_of_true trivial beyond)
      · exact (OverflowsIff.ok _).congr (iff_of_false not_false beyond)
    | text s =>
      rw [coordinate]
      split
      · exact (OverflowsIff.ok _).congr (by simp [IsHuge])
      · exact (OverflowsIff.format _).congr (by simp [IsHuge])
    | real x => exact (OverflowsIff.ok _).congr (by simp [IsHuge])
    | bool b => exact (OverflowsIff.ok _).congr (by simp [IsHuge])
    | _ => exact (OverflowsIff.format _).congr (by simp [IsHuge])

/-- Whether the first fault of a position is a coordinate beyond all doubles. -/
def OverflowsPosition (mapId : String) (v : Json) : Prop :=
  ∃ fields, v = .object fields ∧
    (IsHuge (Fields.get? fields "x") ∨
      (coordinate mapId (Fields.get? fields "x")).isOk ∧ IsHuge (Fields.get? fields "y"))

theorem position_overflowsIff (mapId : String) (v : Json) :
    OverflowsIff (OverflowsPosition mapId v) (position mapId v) := by
  cases v with
  | object fields =>
    have both := (coordinate_overflowsIff mapId (Fields.get? fields "x")).bind_const fun x _ =>
      (coordinate_overflowsIff mapId (Fields.get? fields "y")).bind_named fun y _ => .ok (x, y)
    exact both.congr (by simp [OverflowsPosition])
  | _ => exact (OverflowsIff.ok _).congr (by simp [OverflowsPosition])

/-! ## Overviews -/

/-- Whether the first fault of a point of interest is a coordinate beyond all doubles. -/
def OverflowsPoint (mapId : String) (v : Json) : Prop :=
  ∃ fields, v = .object fields ∧ OverflowsPosition mapId (Fields.value fields "position")

theorem pointOfInterest_overflowsIff (mapId : String) (index : Nat) (v : Json) :
    OverflowsIff (OverflowsPoint mapId v) (pointOfInterest mapId index v) := by
  cases v with
  | object fields =>
    rw [pointOfInterest]
    refine .congr (.bind_named (position_overflowsIff mapId _) fun place _ =>
      .bind_named required_overflowsIff fun id _ =>
        .bind_named required_overflowsIff fun name _ => .ok _) ?_
    simp [OverflowsPoint]
  | _ => exact (OverflowsIff.format _).congr (by simp [OverflowsPoint])

/-- Whether a point of interest is read does not depend on its place in the list. -/
theorem isOk_pointOfInterest (mapId : String) (i j : Nat) (v : Json) :
    (pointOfInterest mapId i v).isOk → (pointOfInterest mapId j v).isOk := by
  cases v with
  | object fields =>
    intro read
    obtain ⟨p, read⟩ := isOk_iff.mp read
    obtain ⟨place, first, read⟩ := bind_eq_ok.mp read
    obtain ⟨id, second, read⟩ := bind_eq_ok.mp read
    obtain ⟨name, third, -⟩ := bind_eq_ok.mp read
    exact isOk_iff.mpr ⟨_, bind_eq_ok.mpr ⟨place, first,
      bind_eq_ok.mpr ⟨id, second, bind_eq_ok.mpr ⟨name, third, rfl⟩⟩⟩⟩
  | _ => exact fun read => read

theorem points_overflowsIff (mapId : String) (index : Nat) (entries : List Json) :
    OverflowsIff (FirstIs (pointOfInterest mapId 0) (OverflowsPoint mapId) entries)
      (points mapId index entries) := by
  induction entries generalizing index with
  | nil => exact (OverflowsIff.ok []).congr (by simp [not_firstIs_nil])
  | cons v rest ih =>
    rw [points]
    refine .congr (.bind_const (pointOfInterest_overflowsIff mapId index v) fun p _ =>
      .bind_named (ih (index + 1)) fun others _ => .ok _) ?_
    have place : (pointOfInterest mapId index v).isOk ↔ (pointOfInterest mapId 0 v).isOk :=
      ⟨isOk_pointOfInterest mapId index 0 v, isOk_pointOfInterest mapId 0 index v⟩
    rw [firstIs_cons_iff, place]

/-- Whether the first fault of an overview is a coordinate beyond all doubles: it has an id, a name
and a list of points of interest, and the first of them that is not read stops there. -/
def OverflowsMap (v : Json) : Prop :=
  ∃ fields id entries, v = .object fields ∧
    required fields (.anyMap .exploration) "id" = .ok id ∧
    list? (Fields.value fields "pointsOfInterest") = some entries ∧
    (required fields (.map .exploration id) "name").isOk ∧
    FirstIs (pointOfInterest id 0) (OverflowsPoint id) entries

theorem explorationSpec_overflowsIff (v : Json) :
    OverflowsIff (OverflowsMap v) (explorationSpec v) := by
  cases v with
  | object fields =>
    rw [explorationSpec]
    refine .congr (.bind (fun id => ∃ entries,
      list? (Fields.value fields "pointsOfInterest") = some entries ∧
      (required fields (.map .exploration id) "name").isOk ∧
      FirstIs (pointOfInterest id 0) (OverflowsPoint id) entries)
      required_overflowsIff fun id _ => ?_) ?_
    · split
      · rename_i entries given
        refine .congr (.bind_const required_overflowsIff fun name _ =>
          .bind_named (points_overflowsIff id 0 entries) fun points _ => .ok _) ?_
        simp [given]
      · rename_i none
        exact (OverflowsIff.format _).congr
          (iff_of_false not_false fun ⟨entries, given, _⟩ => none entries given)
    · simp [OverflowsMap]
  | _ => exact (OverflowsIff.format _).congr (by simp [OverflowsMap])

/-! ## Campaigns -/

theorem requiredRegion_overflowsIff (mapId : String) (v : Json) :
    OverflowsIff False (requiredRegion mapId v) := by
  cases v with
  | object fields => exact .bind_named required_overflowsIff fun id _ => .ok _
  | _ => exact .format _

theorem not_firstIs_false {read : α → Except ε β} {l : List α} :
    ¬ FirstIs read (fun _ => False) l := by
  rintro ⟨_, _, _, -, -, never⟩
  exact never

/-- Battle maps have no coordinates. -/
theorem combatSpec_overflowsIff (v : Json) : OverflowsIff False (combatSpec v) := by
  cases v with
  | object fields =>
    rw [combatSpec]
    refine .bind_named required_overflowsIff fun id _ => ?_
    split
    · rename_i entries _
      have regions := (OverflowsIff.mapM (requiredRegion_overflowsIff id) entries).congr
        (iff_false_intro not_firstIs_false)
      refine .bind_named regions fun found _ => ?_
      dsimp only
      split
      · exact .format _
      · exact .bind_named required_overflowsIff fun name _ =>
          .bind_named required_overflowsIff fun layout _ => .ok _
    · exact .format _
  | _ => exact .format _

/-- Whether the first fault of a campaign is a coordinate beyond all doubles: it has an id and two
lists of maps, and the first of its overviews that is not read stops there. -/
def OverflowsCampaign (fields : Fields) : Prop :=
  (required (unwrap fields) .campaign "slug").isOk ∧ ∃ entries combat,
    list? (lists (unwrap fields)).exploration = some entries ∧
    list? (lists (unwrap fields)).combat = some combat ∧
    FirstIs explorationSpec OverflowsMap entries

theorem ofFields_overflowsIff (fields : Fields) :
    OverflowsIff (OverflowsCampaign fields) (ofFields fields) := by
  rw [ofFields]
  refine .congr (.bind (fun _ => ∃ entries combat,
    list? (lists (unwrap fields)).exploration = some entries ∧
    list? (lists (unwrap fields)).combat = some combat ∧
    FirstIs explorationSpec OverflowsMap entries) required_overflowsIff fun id _ => ?_) ?_
  · dsimp only
    split
    · rename_i entries combatEntries given given'
      refine .congr (.bind_named (.mapM explorationSpec_overflowsIff entries) fun maps _ =>
        .bind_named ((OverflowsIff.mapM combatSpec_overflowsIff combatEntries).congr
          (iff_false_intro not_firstIs_false)) fun others _ => .ok _) ?_
      simp [given, given']
    · rename_i none
      exact (OverflowsIff.format _).congr (iff_of_false not_false
        fun ⟨entries, combat, given, given', _⟩ => none entries combat given given')
  · rw [false_or, exists_and_right, ← isOk_iff]
    rfl

/-- Reading a campaign yields it, or names the rule that the file breaks, or stops at a coordinate
beyond all doubles; and the last happens exactly if the first fault of the file is such a
coordinate. -/
theorem ofFields_ends (fields : Fields) :
    ((∃ campaign, ofFields fields = .ok campaign) ∨
      (∃ rule, ofFields fields = .error (.format rule)) ∨
      ofFields fields = .error .hugeCoordinate) ∧
    (ofFields fields = .error .hugeCoordinate ↔ OverflowsCampaign fields) := by
  have overflows := ofFields_overflowsIff fields
  refine ⟨?_, overflows.iff⟩
  cases result : ofFields fields with
  | ok campaign => exact .inl ⟨campaign, rfl⟩
  | error e =>
    rcases overflows.named e result with rfl | ⟨rule, rfl⟩
    · exact .inr (.inr rfl)
    · exact .inr (.inl ⟨rule, rfl⟩)

/-- A point of interest so far in the east that no double is near. -/
def farPoint : Json :=
  .object
    [("id", .text "cave"), ("name", .text "The cave"),
     ("position", .object [("x", .int (10 ^ 310)), ("y", .int 20)])]

/-- The isle with nothing but the far point on it. -/
def farIsle : Fields :=
  [("slug", .text "isle"),
   ("explorationMapSpecs", .array [.object
     [("id", .text "map"), ("name", .text "The isle"), ("pointsOfInterest", .array [farPoint])]])]

/-- No rule is named for a coordinate that is a number, but too large a one. -/
theorem farIsle_overflows :
    ofFields farIsle = .error .hugeCoordinate ∧
      ∀ rule, ofFields farIsle ≠ .error (.format rule) := by
  have far : IsHuge (some (.int (10 ^ 310))) := ⟨10 ^ 310, rfl, by decide +kernel⟩
  have point : OverflowsPoint "map" farPoint := ⟨_, rfl, _, rfl, .inl far⟩
  have overflows : ofFields farIsle = .error .hugeCoordinate := by
    refine (ofFields_overflowsIff farIsle).iff.mpr
      ⟨rfl, _, _, rfl, rfl, [], _, [], rfl, by simp, ?_⟩
    exact ⟨_, "map", _, rfl, rfl, rfl, rfl, [], farPoint, [], rfl, by simp, point⟩
  refine ⟨overflows, fun rule same => ?_⟩
  have causes : ReadError.hugeCoordinate = .format rule :=
    Except.error.inj (overflows.symm.trans same)
  cases causes

end BattleMaps.Campaign
