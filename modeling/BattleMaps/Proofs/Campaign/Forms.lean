import BattleMaps.Campaign.Reader
import BattleMaps.Proofs.Json.Members
import BattleMaps.Proofs.Success

/-!
# The two forms of a campaign

The list of battle maps tells in which form a campaign comes. Where it is given, the flat list of
the older form counts for nothing. Where it is absent, a flat list takes its place, and a list of
overviews beside that is passed over; without a flat list the campaign is in the newer form all the
same.

## Main definitions

* `AgreeExcept` — whether two objects say the same, some keys aside
* `IsList` — whether a value is a list

## Main results

* `ofFields_eq_of_lists` — what a campaign is read from
* `ofFields_forms` — which list of battle maps counts
* `overviews_passed_over` — a flat list beside overviews
-/

namespace BattleMaps.Campaign

variable {a b fields : Fields} {keys : List String} {key : String}

/-- Whether two objects say the same under every key, some keys aside. -/
def AgreeExcept (keys : List String) (a b : Fields) : Prop :=
  ∀ key, key ∉ keys → a.get? key = b.get? key

theorem AgreeExcept.value_eq (h : AgreeExcept keys a b) (other : key ∉ keys) :
    a.value key = b.value key := by
  rw [Fields.value, h key other, Fields.value]

theorem agreeExcept_erase (key : String) (fields : Fields) :
    AgreeExcept [key] fields (fields.erase key) := by
  intro other apart
  rw [Fields.get?_erase, if_neg (by simpa using apart)]

def IsList (v : Json) : Prop := ∃ items, v = .array items

/-- Notes in which form a campaign has come. -/
def withForm (isLegacy : Bool) (c : Campaign) : Campaign := { c with isLegacy := isLegacy }

/-! ## Lists of maps -/

/-- A list of battle maps that is given counts, and the flat list does not. -/
theorem lists_of_given (given : fields.value "combatMapSpecs" ≠ .null) :
    lists fields =
      ⟨fields.value "explorationMapSpecs", fields.value "combatMapSpecs", false⟩ := by
  unfold lists
  split
  · contradiction
  · rfl

theorem lists_of_not_isList (absent : ¬ IsList (fields.value "mapSpecs")) :
    lists fields =
      ⟨fields.value "explorationMapSpecs", fields.value "combatMapSpecs", false⟩ := by
  unfold lists
  split
  · rename_i specs _ flat
    exact absurd ⟨specs, flat⟩ absent
  · rfl

theorem lists_of_flat {specs : List Json} (absent : fields.value "combatMapSpecs" = .null)
    (flat : fields.value "mapSpecs" = .array specs) :
    lists fields = ⟨.array [], .array specs, true⟩ := by
  rw [lists, absent, flat]

theorem list?_eq_of_not_isFilled {v w : Json} (hv : v.isFilled = false) (hw : w.isFilled = false) :
    list? v = list? w := by
  rw [list?, hv, list?, hw, if_neg Bool.false_ne_true, if_neg Bool.false_ne_true]

/-! ## Reading -/

theorem map_bind {ε α β γ : Type} (f : β → γ) (x : Except ε α) (next : α → Except ε β) :
    (x >>= next).map f = x >>= fun a => (next a).map f := by
  cases x <;> rfl

/-- Besides its name, a campaign is read from its two lists of maps; the form in which it has come
is only noted. -/
theorem ofFields_eq_of_lists (slug : (unwrap a).value "slug" = (unwrap b).value "slug")
    (title : (unwrap a).value "title" = (unwrap b).value "title")
    (exploration : list? (lists (unwrap a)).exploration = list? (lists (unwrap b)).exploration)
    (combat : list? (lists (unwrap a)).combat = list? (lists (unwrap b)).combat) :
    ofFields a = (ofFields b).map (withForm (lists (unwrap a)).isLegacy) := by
  have name : required (unwrap a) .campaign "slug" = required (unwrap b) .campaign "slug" := by
    rw [required, slug, required]
  have heading : optional (unwrap a) "title" = optional (unwrap b) "title" := by
    rw [optional, title, optional]
  rw [ofFields, ofFields, map_bind, name]
  refine bind_congr fun id => ?_
  dsimp only
  rw [exploration, combat, heading]
  split
  · rw [map_bind]
    refine bind_congr fun overviews => ?_
    rw [map_bind]
    exact bind_congr fun maps => rfl
  · rfl

/-- The form is noted as it is. -/
theorem isLegacy_of_ofFields {c : Campaign} (h : ofFields a = .ok c) :
    c.isLegacy = (lists (unwrap a)).isLegacy := by
  rw [ofFields_eq_of_lists rfl rfl rfl rfl] at h
  obtain ⟨read, -, rfl⟩ := map_eq_ok.mp h
  rfl

/-- Where a list of battle maps is given, and where there is no flat list, the flat list counts for
nothing and the campaign is in the newer form. Where the one is absent and the other there, the
campaign is the one with the flat list for its battle maps and without overviews, whatever overviews
the file lists, except that it is in the older form. -/
theorem ofFields_forms (a b : Fields) :
    (AgreeExcept ["mapSpecs"] (unwrap a) (unwrap b) →
      (unwrap a).value "combatMapSpecs" ≠ .null ∨
        ¬ IsList ((unwrap a).value "mapSpecs") ∧ ¬ IsList ((unwrap b).value "mapSpecs") →
      ofFields a = ofFields b ∧ ∀ c, ofFields a = .ok c → c.isLegacy = false) ∧
    ∀ specs, (unwrap a).value "combatMapSpecs" = .null →
      (unwrap a).value "mapSpecs" = .array specs →
      AgreeExcept ["explorationMapSpecs", "combatMapSpecs"] (unwrap a) (unwrap b) →
      (unwrap b).value "combatMapSpecs" = .array specs →
      ((unwrap b).value "explorationMapSpecs").isFilled = false →
      ofFields a = (ofFields b).map (withForm true) := by
  constructor
  · intro same newer
    have combat := same.value_eq (show "combatMapSpecs" ∉ ["mapSpecs"] by decide)
    have exploration := same.value_eq (show "explorationMapSpecs" ∉ ["mapSpecs"] by decide)
    have listsA : lists (unwrap a) =
        ⟨(unwrap a).value "explorationMapSpecs", (unwrap a).value "combatMapSpecs", false⟩ :=
      newer.elim lists_of_given fun flat => lists_of_not_isList flat.1
    have listsB : lists (unwrap b) =
        ⟨(unwrap b).value "explorationMapSpecs", (unwrap b).value "combatMapSpecs", false⟩ :=
      newer.elim (fun given => lists_of_given (combat ▸ given)) fun flat =>
        lists_of_not_isList flat.2
    have alike : lists (unwrap a) = lists (unwrap b) := by
      rw [listsA, listsB, exploration, combat]
    refine ⟨?_, fun c read => by rw [isLegacy_of_ofFields read, listsA]⟩
    have title := same.value_eq (show "title" ∉ ["mapSpecs"] by decide)
    have slug := same.value_eq (show "slug" ∉ ["mapSpecs"] by decide)
    -- Both are read from the same lists, and the same form is noted.
    rw [ofFields_eq_of_lists slug title (congrArg (list? ·.exploration) alike)
        (congrArg (list? ·.combat) alike),
      ofFields_eq_of_lists (a := b) rfl rfl rfl rfl, alike]
    cases ofFields b <;> rfl
  · intro specs absent flat same given none
    have listsA := lists_of_flat absent flat
    have listsB : lists (unwrap b) =
        ⟨(unwrap b).value "explorationMapSpecs", .array specs, false⟩ := by
      rw [lists_of_given (by simp [given]), given]
    rw [ofFields_eq_of_lists (same.value_eq (by decide)) (same.value_eq (by decide)), listsA]
    · rw [listsA, listsB]
      exact list?_eq_of_not_isFilled rfl none
    · rw [listsA, listsB]

/-! ## A file half moved -/

/-- A map with nothing but what it needs. -/
def sketch (id : String) : Json :=
  .object [("id", .text id), ("name", .text "The isle"), ("layoutDescription", .text "A shore.")]

/-- The isle with its overview in a list of its own, and its inn still in the flat list. -/
def halfMoved : Fields :=
  [("slug", .text "isle"), ("explorationMapSpecs", .array [sketch "map"]),
   ("mapSpecs", .array [sketch "inn"])]

/-- The isle with its inn in both lists of battle maps. -/
def listedTwice : Fields := halfMoved.insert "combatMapSpecs" (.array [sketch "inn"])

/-- The isle with its inn in both lists, and without overviews. -/
def overviewless : Fields := listedTwice.erase "explorationMapSpecs"

/-- The flat list counts beside a list of overviews, which is lost by it. -/
theorem overviews_passed_over :
    AgreeExcept ["mapSpecs"] (unwrap halfMoved) (unwrap (halfMoved.erase "mapSpecs")) ∧
      IsList ((unwrap halfMoved).value "explorationMapSpecs") ∧
      (∃ c, ofFields halfMoved = .ok c ∧ c.isLegacy = true ∧ c.exploration.map (·.id) = []) ∧
      ∃ c, ofFields (halfMoved.erase "mapSpecs") = .ok c ∧ c.isLegacy = false ∧
        c.exploration.map (·.id) = ["map"] :=
  ⟨agreeExcept_erase "mapSpecs" halfMoved, ⟨_, rfl⟩, ⟨_, rfl, rfl, rfl⟩, ⟨_, rfl, rfl, rfl⟩⟩

theorem halfMoved_forms :
    (ofFields listedTwice = ofFields (listedTwice.erase "mapSpecs") ∧
      ∀ c, ofFields listedTwice = .ok c → c.isLegacy = false) ∧
    ofFields halfMoved = (ofFields overviewless).map (withForm true) := by
  have given : (unwrap listedTwice).value "combatMapSpecs" ≠ .null := nofun
  have same : AgreeExcept ["explorationMapSpecs", "combatMapSpecs"] (unwrap halfMoved)
      (unwrap overviewless) := by
    intro key apart
    obtain ⟨noOverviews, noMaps⟩ : key ≠ "explorationMapSpecs" ∧ key ≠ "combatMapSpecs" := by
      simpa using apart
    change halfMoved.get? key = overviewless.get? key
    rw [overviewless, Fields.get?_erase, if_neg noOverviews, listedTwice, Fields.get?_insert,
      if_neg noMaps]
  exact ⟨(ofFields_forms listedTwice _).1 (agreeExcept_erase "mapSpecs" listedTwice) (.inl given),
    (ofFields_forms halfMoved overviewless).2 _ rfl rfl same rfl rfl⟩

end BattleMaps.Campaign
