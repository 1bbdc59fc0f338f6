import BattleMaps.Proofs.Regeneration.Overviews

/-!
# Hidden places are kept from the services

Two overviews look alike if they agree on all that an onlooker may learn of them: what they are
called, how they are described, and the names of the places that are not hidden. Hidden places may
stand anywhere among the others. A call for one of two overviews that look alike asks what a call
for the other one asks, and gets the same answers. What is stored makes a difference only by the
address of the picture, so what is hidden in the store does not show either.

## Main definitions

* `ShowAlike` — whether two lists of places differ only in what they hide
* `ExplorationSpec.LooksLike` — whether two overviews differ only in what they hide

## Main results

* `showAlike_iff` — places show alike exactly if they lead to the same landmarks
* `Spec.make_of_looksLike` — the same is made of overviews that look alike
* `events_of_looksLike` — what is asked depends on the store only by the address of the picture
* `hidden_unheard` — calls for overviews that look alike cannot be told apart by the services
-/

namespace BattleMaps

open Store (Table)

variable {p q : PointOfInterest} {ps qs : List PointOfInterest} {spec spec' : ExplorationSpec}

/-! ## Places -/

/-- Whether two lists of places show the same names in the same order. Between the places that are
shown, each list may hide what it likes. -/
inductive ShowAlike : List PointOfInterest → List PointOfInterest → Prop
  | nothing : ShowAlike [] []
  | hiddenLeft {p : PointOfInterest} {ps qs : List PointOfInterest} (hidden : p.isHidden = true)
      (rest : ShowAlike ps qs) : ShowAlike (p :: ps) qs
  | hiddenRight {q : PointOfInterest} {ps qs : List PointOfInterest} (hidden : q.isHidden = true)
      (rest : ShowAlike ps qs) : ShowAlike ps (q :: qs)
  | shown {p q : PointOfInterest} {ps qs : List PointOfInterest} (left : p.isHidden = false)
      (right : q.isHidden = false) (name : p.name = q.name) (rest : ShowAlike ps qs) :
      ShowAlike (p :: ps) (q :: qs)

namespace Prompt

theorem landmarks_cons_of_hidden (hidden : p.isHidden = true) :
    landmarks (p :: ps) = landmarks ps := by
  simp [landmarks, hidden]

theorem landmarks_cons_of_shown (shown : p.isHidden = false) :
    landmarks (p :: ps) = p.name :: landmarks ps := by
  simp [landmarks, shown]

end Prompt

open Prompt (landmarks landmarks_cons_of_hidden landmarks_cons_of_shown)

theorem showAlike_of_landmarks (same : landmarks ps = landmarks qs) : ShowAlike ps qs := by
  induction ps generalizing qs with
  | nil =>
    -- All that the other list holds is hidden.
    induction qs with
    | nil => exact .nothing
    | cons q qs ih =>
      cases hidden : q.isHidden with
      | true => exact .hiddenRight hidden (ih (same.trans (landmarks_cons_of_hidden hidden)))
      | false =>
        rw [landmarks_cons_of_shown hidden] at same
        exact absurd same (List.cons_ne_nil _ _).symm
  | cons p ps ih =>
    cases hiddenLeft : p.isHidden with
    | true =>
      exact .hiddenLeft hiddenLeft (ih ((landmarks_cons_of_hidden hiddenLeft).symm.trans same))
    | false =>
      -- The first place of the other list that is not hidden has the same name.
      induction qs with
      | nil =>
        rw [landmarks_cons_of_shown hiddenLeft] at same
        exact absurd same (List.cons_ne_nil _ _)
      | cons q qs ih' =>
        cases hiddenRight : q.isHidden with
        | true =>
          exact .hiddenRight hiddenRight (ih' (same.trans (landmarks_cons_of_hidden hiddenRight)))
        | false =>
          rw [landmarks_cons_of_shown hiddenLeft, landmarks_cons_of_shown hiddenRight,
            List.cons.injEq] at same
          exact .shown hiddenLeft hiddenRight same.1 (ih same.2)

/-- Places show alike exactly if they lead to the same landmarks. -/
theorem showAlike_iff : ShowAlike ps qs ↔ landmarks ps = landmarks qs := by
  refine ⟨fun alike => ?_, showAlike_of_landmarks⟩
  induction alike with
  | nothing => rfl
  | hiddenLeft hidden _ ih => rw [landmarks_cons_of_hidden hidden, ih]
  | hiddenRight hidden _ ih => rw [landmarks_cons_of_hidden hidden, ih]
  | shown left right name _ ih =>
    rw [landmarks_cons_of_shown left, landmarks_cons_of_shown right, name, ih]

/-! ## Overviews -/

/-- Whether two overviews differ only in what they hide, and in how they are stored. -/
structure ExplorationSpec.LooksLike (spec spec' : ExplorationSpec) : Prop where
  id_eq : spec.id = spec'.id
  name_eq : spec.name = spec'.name
  description_eq : spec.description = spec'.description
  points : ShowAlike spec.points spec'.points

/-- Pictures of overviews that look alike are asked for in the same words. -/
theorem Prompt.explorationPicture_of_looksLike (alike : spec.LooksLike spec') :
    explorationPicture spec = explorationPicture spec' := by
  rw [explorationPicture, explorationPicture, alike.name_eq, alike.description_eq,
    showAlike_iff.mp alike.points]

variable {σ κ : Type} [Amount κ] {services : Services σ κ} {config : Config κ}
  {campaignId : String} {table table' : Table} {stored stored' : Option Fields}

/-- The same is made of overviews that look alike, if their pictures are stored under the same
address or not at all. -/
theorem Spec.make_of_looksLike (alike : spec.LooksLike spec')
    (picture : stored.bind Document.pictureUrl? = stored'.bind Document.pictureUrl?) :
    (Spec.exploration spec).make services config campaignId stored =
      (Spec.exploration spec').make services config campaignId stored' := by
  have plan : ExplorationAction.plan (.of stored) services.paintsOverviews =
      .plan (.of stored') services.paintsOverviews := by
    rw [ExplorationAction.plan, ExplorationAction.plan, hasPicture_of, hasPicture_of, picture]
  rw [make, make, plan, picture]
  cases ExplorationAction.plan (.of stored') services.paintsOverviews with
  | reuse => rfl
  | unavailable => rfl
  | paint =>
    unfold makeExploration
    rw [Prompt.explorationPicture_of_looksLike alike, alike.id_eq]

/-! ## Calls -/

/-- Calls for overviews that look alike ask the same and get the same answers, whatever is stored,
as long as it has the same address of a picture. -/
theorem events_of_looksLike (alike : spec.LooksLike spec')
    (picture : (storedFor campaignId (.exploration spec) table).bind Document.pictureUrl? =
      (storedFor campaignId (.exploration spec') table').bind Document.pictureUrl?) (world : σ) :
    ((regenerate services config campaignId (.exploration spec) table).run world).events =
        ((regenerate services config campaignId (.exploration spec') table').run world).events ∧
      ((regenerate services config campaignId (.exploration spec) table).run world).world =
        ((regenerate services config campaignId (.exploration spec') table').run world).world := by
  rw [events_regenerate, events_regenerate, world_regenerate, world_regenerate,
    Spec.make_of_looksLike alike picture]
  exact ⟨rfl, rfl⟩

/-- Nothing of a hidden place reaches the services: whatever they answer and whatever is stored,
calls for two overviews that look alike cause the same events, each with the same request and the
same answer, and leave the same world. -/
theorem hidden_unheard (alike : spec.LooksLike spec') (services : Services σ κ) (config : Config κ)
    (campaignId : String) (table : Table) (world : σ) :
    ((regenerate services config campaignId (.exploration spec) table).run world).events =
        ((regenerate services config campaignId (.exploration spec') table).run world).events ∧
      ((regenerate services config campaignId (.exploration spec) table).run world).world =
        ((regenerate services config campaignId (.exploration spec') table).run world).world := by
  refine events_of_looksLike alike ?_ world
  rw [storedFor, storedFor, Spec.id, Spec.id, alike.id_eq]

/-- The isle with the cave, and with a hoard under the cave and a well behind it that players must
not learn of. -/
def secretiveSpec : ExplorationSpec where
  id := "map"
  name := "The isle"
  points :=
    [{ id := "hoard", number := 7, name := "The hoard", description := "", isHidden := true },
     { id := "cave", number := 1, name := "The cave", description := "Mind the hoard." },
     { id := "well", number := 8, name := "The well", description := "", isHidden := true }]
  feetPerSquare := 50

theorem secretive_unheard :
    secretiveSpec.LooksLike (caveSpec .spelledNaN) ∧
      let isle := caveCall .spelledNaN 0
      let events := fun spec => ((regenerate isle.services isle.config isle.campaignId
        (.exploration spec) []).run ()).events
      events secretiveSpec = events (caveSpec .spelledNaN) ∧
        (events secretiveSpec).head? = some (.painted
          ⟨Prompt.explorationPicture (caveSpec .spelledNaN), Prompt.unwanted⟩
          (.ok ⟨emptyPicture, 0⟩)) := by
  have alike : secretiveSpec.LooksLike (caveSpec .spelledNaN) :=
    ⟨rfl, rfl, rfl, .hiddenLeft rfl (.shown rfl rfl rfl (.hiddenLeft rfl .nothing))⟩
  obtain ⟨events, -⟩ :=
    hidden_unheard alike (caveCall .spelledNaN 0).services .standard "isle" [] ()
  refine ⟨alike, events, ?_⟩
  exact (congrArg List.head? events).trans rfl

end BattleMaps
