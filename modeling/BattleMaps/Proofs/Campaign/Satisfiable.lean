import BattleMaps.Campaign.Reader
import BattleMaps.Proofs.Proposal.Answers

/-!
# Campaigns that can be satisfied

A campaign file that is read asks for nothing impossible. The ids of required regions are trimmed as
they are read, blank ones are refused, and so are ids that a map requires twice. This is just what
is needed for an answer to be possible.

## Main results

* `firstRepeated_eq_none_iff` — when no text is found to be repeated
* `hasProperIds_of_ofFields` — the required ids of a campaign that is read are proper
* `satisfiable_of_ofFields` — every battle map of a campaign that is read can be answered
-/

namespace BattleMaps

namespace Campaign

variable {fields : Fields} {place : Place} {key s id : String} {v : Json} {seen l : List String}

theorem required_eq_ok (h : required fields place key = .ok s) : Text.nonBlank? s = some s := by
  unfold required at h
  split at h
  · rename_i given
    obtain rfl := Except.ok.inj h
    unfold Json.nonBlankText? at given
    split at given
    · exact Text.nonBlank?_of_eq_some given
    · contradiction
  · contradiction

theorem requiredRegion_eq_ok {q : RequiredRegion} (h : requiredRegion id v = .ok q) :
    Text.nonBlank? q.id = some q.id := by
  cases v with
  | object fields =>
    obtain ⟨s, given, h⟩ := bind_eq_ok.mp h
    obtain rfl := Except.ok.inj h
    exact required_eq_ok given
  | _ => contradiction

/-- No repetition is found exactly if the texts are distinct, and none was seen before. -/
theorem firstRepeated_eq_none_iff :
    firstRepeated seen l = none ↔ l.Nodup ∧ ∀ s ∈ l, s ∉ seen := by
  induction l generalizing seen with
  | nil => simp [firstRepeated]
  | cons s rest ih =>
    rw [firstRepeated, List.nodup_cons, List.forall_mem_cons]
    split_ifs with repeated
    · simp [List.contains_iff_mem.mp repeated]
    · rw [List.contains_iff_mem] at repeated
      rw [ih]
      constructor
      · rintro ⟨distinct, fresh⟩
        refine ⟨⟨fun again => fresh s again (List.mem_cons_self ..), distinct⟩, repeated, ?_⟩
        exact fun t member seen => fresh t member (List.mem_cons_of_mem _ seen)
      · rintro ⟨⟨new, distinct⟩, -, fresh⟩
        refine ⟨distinct, fun t member => List.not_mem_cons_of_ne_of_not_mem ?_ (fresh t member)⟩
        rintro rfl
        exact new member

theorem combatSpec_eq_ok {spec : CombatSpec} (h : combatSpec v = .ok spec) :
    spec.HasProperIds := by
  cases v with
  | object fields =>
    obtain ⟨id, -, h⟩ := bind_eq_ok.mp h
    split at h
    · obtain ⟨regions, read, h⟩ := bind_eq_ok.mp h
      dsimp only at h
      split at h
      · contradiction
      · rename_i distinct
        obtain ⟨name, -, h⟩ := bind_eq_ok.mp h
        obtain ⟨layout, -, h⟩ := bind_eq_ok.mp h
        obtain rfl := Except.ok.inj h
        constructor
        · intro q member
          obtain ⟨entry, -, here⟩ := exists_mem_of_mapM_eq_ok read q member
          exact requiredRegion_eq_ok here
        · exact (firstRepeated_eq_none_iff.mp (Option.eq_none_iff_forall_ne_some.mpr distinct)).1
    · contradiction
  | _ => contradiction

/-- The battle maps of a campaign that is read have proper ids. -/
theorem hasProperIds_of_ofFields {campaign : Campaign} (h : ofFields fields = .ok campaign) :
    ∀ spec ∈ campaign.combat, spec.HasProperIds := by
  obtain ⟨id, -, h⟩ := bind_eq_ok.mp h
  dsimp only at h
  split at h
  · rename_i explorationEntries combatEntries _ _
    obtain ⟨exploration, -, h⟩ := bind_eq_ok.mp h
    obtain ⟨combat, read, h⟩ := bind_eq_ok.mp h
    obtain rfl := Except.ok.inj h
    intro spec member
    obtain ⟨entry, -, here⟩ := exists_mem_of_mapM_eq_ok read spec member
    exact combatSpec_eq_ok here
  · contradiction

/-- Every battle map of a campaign that is read can be satisfied: an answer of the right shape, not
below the floor, with one entry for each required region that gives its id, perhaps with blanks
around it, and lists cells, is accepted, and its regions are the required ones. At every floor that
an open field reaches there is such an answer. -/
theorem satisfiable_of_ofFields {campaign : Campaign} (loaded : ofFields fields = .ok campaign)
    {spec : CombatSpec} (asked : spec ∈ campaign.combat) (encoding : Encoding) (floor : Float) :
    (∀ (proposal : Fields) (entries : List Json) (order : List RequiredRegion),
      (∀ p ∈ Proposal.shapePromises proposal, p.Kept) →
      (Proposal.walkablePromise encoding floor proposal).Kept →
      proposal.value "regions" = .array entries →
      order.Perm spec.regions → List.Forall₂ Proposal.Answers entries order →
      ∃ m, Proposal.acceptValue spec encoding floor (.object proposal) = .ok m ∧
        m.regions.map (·.id) = order.map (·.id)) ∧
    (¬ 1 < floor → ∃ proposal m,
      Proposal.acceptValue spec encoding floor (.object proposal) = .ok m ∧
        m.regions.map (·.id) = spec.regions.map (·.id)) := by
  have proper := hasProperIds_of_ofFields loaded spec asked
  constructor
  · intro proposal entries order shaped walkable given all answered
    exact Proposal.accept_of_answers proper shaped walkable given all answered
  · intro low
    exact ⟨_, Proposal.accept_field_plainEntry proper low⟩

/-- A campaign file with an inn that requires two regions; blanks around their ids. -/
def paddedInn : Fields :=
  [("slug", .text "isle"),
   ("combatMapSpecs", .array [.object
     [("id", .text "inn"), ("name", .text "The inn"), ("layoutDescription", .text "A hall."),
      ("regions", .array
        [.object [("id", .text " hall ")], .object [("id", .text "back yard\n")]])]])]

/-- What the file asks for. -/
def trimmedInn : CombatSpec where
  id := "inn"
  name := "The inn"
  feetPerSquare := 5
  terrain := "mixed"
  lighting := "mixed"
  layout := "A hall."
  regions :=
    [{ id := "hall", name := "hall", kind := "custom", size := "medium" },
     { id := "back yard", name := "back yard", kind := "custom", size := "medium" }]

/-- The other way round and with other blanks, and with cells that are no numbers. -/
theorem paddedInn_satisfied :
    let entries : List Json :=
      [.object [("cells", .array [.null, .text "?"]), ("id", .text "\t back yard")],
       .object [("id", .text "hall"), ("cells", .array [.int 3])]]
    ofFields paddedInn = .ok ⟨"isle", "isle", [], [trimmedInn], false⟩ ∧
      (∃ m, Proposal.acceptValue trimmedInn .legacy 0.9 (.object (Proposal.field entries)) = .ok m ∧
        m.regions.map (·.id) = ["back yard", "hall"]) ∧
      ∃ proposal m, Proposal.acceptValue trimmedInn .extended 1 (.object proposal) = .ok m ∧
        m.regions.map (·.id) = ["hall", "back yard"] := by
  intro entries
  have loaded : ofFields paddedInn = .ok ⟨"isle", "isle", [], [trimmedInn], false⟩ := rfl
  have asked : trimmedInn ∈ [trimmedInn] := List.mem_singleton_self _
  refine ⟨loaded, (satisfiable_of_ofFields loaded asked .legacy 0.9).1 (Proposal.field entries)
    entries trimmedInn.regions.reverse ?_ ?_ rfl (List.reverse_perm _) ?_,
    (satisfiable_of_ofFields loaded asked .extended 1).2 (by decide +kernel)⟩
  · intro p member
    obtain rfl := List.mem_singleton.mp member
    exact List.length_replicate
  · exact Proposal.walkablePromise_field .legacy (by decide +kernel) entries
  · have blanks : "\t ".toList.all Text.isBlank := by decide
    exact .cons ⟨_, _, _, rfl, rfl, ⟨"\t ", "", blanks, rfl, rfl⟩, rfl⟩
      (.cons ⟨_, _, _, rfl, rfl, .refl "hall", rfl⟩ .nil)

end Campaign

end BattleMaps
