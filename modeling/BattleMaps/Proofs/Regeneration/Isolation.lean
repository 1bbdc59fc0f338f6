import BattleMaps.Proofs.Regeneration.FirstAnswer

/-!
# Maps that keep apart

The key of a map's document joins the ids of its campaign and of the map with an underscore, which
either id may hold itself. Two maps have the same key exactly if they are the same, or if the id of
one campaign goes on where the other one ends, with a part that the id of the map lacks. Maps of one
campaign always keep apart, and a call leaves alone all that is stored under other keys.

## Main definitions

* `Overlaps` — whether the ids of two maps of different campaigns join to the same key

## Main results

* `documentId_eq_iff` — which maps have the same key
* `regenerate_isolated` — a call leaves the documents of all maps alone that it does not overlap
* `inns_overlap` — two inns of different campaigns that have the same key
-/

namespace BattleMaps

open Store (Table)

variable {campaignId mapId otherCampaign otherMap : String}

/-- Whether the id of another campaign goes on where that of a campaign ends, with a part that the
id of the other map lacks. -/
def Overlaps (campaignId mapId otherCampaign otherMap : String) : Prop :=
  ∃ part, otherCampaign = campaignId ++ "_" ++ part ∧ mapId = part ++ "_" ++ otherMap

theorem toList_documentId (campaignId mapId : String) :
    (documentId campaignId mapId).toList = campaignId.toList ++ '_' :: mapId.toList := by
  simp [documentId, toString]

theorem documentId_eq_of_overlaps (h : Overlaps campaignId mapId otherCampaign otherMap) :
    documentId campaignId mapId = documentId otherCampaign otherMap := by
  obtain ⟨part, rfl, rfl⟩ := h
  rw [← String.toList_inj]
  simp [toList_documentId]

/-- Where one of two joined texts splits later than the other, they overlap or split alike. -/
theorem overlaps_of_append {rest : List Char}
    (longer : otherCampaign.toList = campaignId.toList ++ rest)
    (split : '_' :: mapId.toList = rest ++ '_' :: otherMap.toList) :
    campaignId = otherCampaign ∧ mapId = otherMap ∨
      Overlaps campaignId mapId otherCampaign otherMap := by
  cases rest with
  | nil =>
    rw [List.append_nil, String.toList_inj] at longer
    rw [List.nil_append, List.cons.injEq, String.toList_inj] at split
    exact .inl ⟨longer.symm, split.2⟩
  | cons c part =>
    -- The longer text has the underscore where the shorter one is split.
    rw [List.cons_append, List.cons.injEq] at split
    obtain ⟨rfl, split⟩ := split
    refine .inr ⟨String.ofList part, ?_, ?_⟩ <;> rw [← String.toList_inj] <;> simp [longer, split]

/-- Two maps have the same key exactly if they are the same or overlap. -/
theorem documentId_eq_iff :
    documentId campaignId mapId = documentId otherCampaign otherMap ↔
      campaignId = otherCampaign ∧ mapId = otherMap ∨
        Overlaps campaignId mapId otherCampaign otherMap ∨
        Overlaps otherCampaign otherMap campaignId mapId := by
  constructor
  · intro same
    have same := congrArg String.toList same
    rw [toList_documentId, toList_documentId, List.append_eq_append_iff] at same
    rcases same with ⟨rest, longer, split⟩ | ⟨rest, longer, split⟩
    · exact (overlaps_of_append longer split).imp_right .inl
    · rcases overlaps_of_append longer split with ⟨campaign, map⟩ | overlaps
      · exact .inl ⟨campaign.symm, map.symm⟩
      · exact .inr (.inr overlaps)
  · rintro (⟨rfl, rfl⟩ | overlaps | overlaps)
    · rfl
    · exact documentId_eq_of_overlaps overlaps
    · exact (documentId_eq_of_overlaps overlaps).symm

/-- Maps of one campaign do not overlap. -/
theorem not_overlaps_self : ¬ Overlaps campaignId mapId campaignId otherMap := by
  rintro ⟨part, same, -⟩
  have length := congrArg (·.toList.length) same
  simp [String.toList_append] at length

theorem documentId_inj : documentId campaignId mapId = documentId campaignId otherMap ↔
    mapId = otherMap := by
  simp [documentId_eq_iff, not_overlaps_self]

/-! ## What a call leaves alone -/

section Calls

variable {σ κ : Type} [Amount κ] {services : Services σ κ} {config : Config κ} {spec : Spec}
  {table : Table}

/-- A call touches the document under the key of its map and no other. -/
theorem document?_regenerate_of_ne {other : String} (apart : documentId campaignId spec.id ≠ other)
    (world : σ) :
    ((regenerate services config campaignId spec table).run world).result.table.document? other =
      table.document? other := by
  let call : Call σ κ := ⟨services, config, campaignId, spec⟩
  have follows : Step.Follows ⟨call, _, _⟩ table := call.make_follows world
  rcases follows.table with same | ⟨_, _, _, saved⟩
  · exact congrArg (·.document? other) same
  · exact saved.others other apart

/-- A call leaves alone what is stored for every other map that it does not overlap. -/
theorem regenerate_isolated (apart : (campaignId, spec.id) ≠ (otherCampaign, otherMap))
    (ends : ¬ Overlaps campaignId spec.id otherCampaign otherMap)
    (begins : ¬ Overlaps otherCampaign otherMap campaignId spec.id) (world : σ) :
    ((regenerate services config campaignId spec table).run world).result.table.document?
        (documentId otherCampaign otherMap) =
      table.document? (documentId otherCampaign otherMap) := by
  refine document?_regenerate_of_ne (fun same => ?_) world
  rcases documentId_eq_iff.mp same with ⟨campaign, map⟩ | overlaps | overlaps
  · exact apart (Prod.ext campaign map)
  · exact ends overlaps
  · exact begins overlaps

end Calls

theorem innCall_isolated :
    ("reef", innCall.spec.id) ≠ ("isle", "inn") ∧ ¬ Overlaps "reef" "inn" "isle" "inn" ∧
      ¬ Overlaps "isle" "inn" "reef" "inn" ∧
      ((regenerate innCall.services innCall.config "reef" innCall.spec [innRow none]).run
        ()).result.table.document? (documentId "isle" "inn") =
          some (Json.readFields (innRow none).payload) := by
  have ends : ¬ Overlaps "reef" "inn" "isle" "inn" :=
    fun overlaps => absurd (documentId_eq_of_overlaps overlaps) (by decide)
  have begins : ¬ Overlaps "isle" "inn" "reef" "inn" :=
    fun overlaps => absurd (documentId_eq_of_overlaps overlaps) (by decide)
  have apart : ("reef", innCall.spec.id) ≠ ("isle", "inn") := by decide
  refine ⟨apart, ends, begins, ?_⟩
  rw [regenerate_isolated apart ends begins, document?_innRow]

/-- A call for the inn in the east of the isle; another campaign is about the east of the isle and
has an inn as well. -/
def eastInnCall : Call Unit Float :=
  { innCall with spec := .combat { Proposal.innSpec with id := "east_inn" } }

def eastInnRow : Store.Row :=
  { fields := Draft.common "isle" "east_inn" .combat "The inn"
      ++ [("gridSize", .int gridSize), ("feetPerSquare", .int 5)] ++ Draft.newGrid innMap :
    Draft }.row "isle" "east_inn" .combat 0

theorem table_eastInnCall : (eastInnCall.make [] ()).result.table = [eastInnRow] := by
  -- Only the regions of a map matter for what an answer becomes.
  have same : judge { Proposal.innSpec with id := "east_inn" } = judge Proposal.innSpec := rfl
  have judged : judge { Proposal.innSpec with id := "east_inn" } .extended 0.3
      Proposal.innProposal.write = .ok innMap := by rw [same, judge_innProposal]
  have made : ∃ o : Outcome Float, o.status = .generated ∧
      eastInnCall.make [] () = ⟨⟨.ok o, [eastInnRow]⟩, [.completed (gridRequest .standard
        { Proposal.innSpec with id := "east_inn" } none)
          (.ok ⟨Proposal.innProposal.write, 0⟩)], ()⟩ := by
    simp only [Call.make, eastInnCall, innCall, regenerate_combat]
    exact regenerateCombat_of_first_answer .nil (fun _ => rfl) rfl (by decide) judged rfl
      (by decide +kernel)
  obtain ⟨o, -, run⟩ := made
  rw [run]

/-- A call for the inn in the east of the isle leaves a document where the other campaign looks for
its own inn. -/
theorem inns_overlap :
    (eastInnCall.campaignId, eastInnCall.spec.id) ≠ ("isle_east", "inn") ∧
      Table.document? [] (documentId "isle_east" "inn") = none ∧
      (eastInnCall.make [] ()).result.table.document? (documentId "isle_east" "inn") =
        some (Json.readFields eastInnRow.payload) := by
  have key : documentId "isle_east" "inn" = eastInnRow.id := by decide
  refine ⟨by decide, rfl, ?_⟩
  rw [table_eastInnCall, key]
  exact Table.document?_singleton eastInnRow

end BattleMaps
