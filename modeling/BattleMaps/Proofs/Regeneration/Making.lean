import BattleMaps.Making
import BattleMaps.Proofs.Proposal.Acceptance
import BattleMaps.Proofs.Service.Contracts

/-!
# What making promises

Whatever the services answer, and whichever way is taken, a new grid is one that was accepted, a
picture that is there keeps its address, no new picture is asked for while there is one, and no
model is asked while there is a complete grid.

## Main definitions

* `SoundGrid` — whether a new grid, if there is one, keeps its promises
* `Made.Keeps` — whether making has come to a sound grid, if any, and has kept the picture
* `CombatAction.IsPlanned` — which action is planned when
* `Event.IsNeeded` — whether an event is called for while some artifacts are there

## Main results

* `generate_ensures` — asking for a grid yields a sound one or none
* `CombatAction.isPlanned_of` — what is planned for a stored document
* `makeCombat_ensures`, `makeExploration_ensures` — the contracts of the two actions
-/

namespace BattleMaps

open Work (Ensures)

variable {σ κ : Type} [Amount κ] {services : Services σ κ} {config : Config κ} {spec : CombatSpec}
  {picture : Option Picture} {made : Made κ} {event : Event κ → Prop}

/-! ## Grids -/

/-- An answer that becomes a map becomes a sound one. -/
theorem sound_of_judge_eq_ok {encoding : Encoding} {floor : Float} {answer : String} {m : BattleMap}
    (h : judge spec encoding floor answer = .ok m) : m.Sound encoding floor spec.regions := by
  unfold judge at h
  split at h
  · contradiction
  · rename_i proposal _
    cases accepted : Proposal.accept spec encoding floor proposal with
    | error violation =>
      rw [accepted] at h
      contradiction
    | ok accepted' =>
      rw [accepted] at h
      obtain rfl := Except.ok.inj h
      exact Proposal.sound_of_accept_eq_ok accepted

/-- Whether a grid, if there is one, keeps the promises of some encoding. -/
def SoundGrid (config : Config κ) (spec : CombatSpec) (grid : Option BattleMap) : Prop :=
  ∀ m ∈ grid, ∃ encoding, m.Sound encoding config.minWalkable spec.regions

theorem askRepeatedly_ensures (left asked : Nat) (cost : κ) (lastError : String) :
    (askRepeatedly services config spec picture left asked cost lastError).Ensures
      Event.isCompletion
      fun result => ∀ generated, result = .ok generated → SoundGrid config spec generated.map := by
  -- Whatever the attempts behind have cost or said, the next answer is judged by itself.
  induction left generalizing asked cost lastError with
  | zero =>
    rw [askRepeatedly]
    exact .pure fun _ absent => nomatch absent
  | succ left ih =>
    rw [askRepeatedly]
    -- The only event of a round is the prompt; nothing is known about its answer.
    refine .bind (.ask fun _ => trivial) fun answer _ => ?_
    cases answer with
    | error fault => exact ih _ _ _
    | ok reply =>
      dsimp only
      split
      · rename_i m accepted
        refine .pure ?_
        rintro _ ⟨⟩ _ ⟨⟩
        exact ⟨_, sound_of_judge_eq_ok accepted⟩
      · exact ih _ _ _

/-- Whatever the model answers, a grid that comes of it is sound. -/
theorem generate_ensures :
    (generate services config spec picture).Ensures Event.isCompletion
      fun result => ∀ generated, result = .ok generated → SoundGrid config spec generated.map :=
  askRepeatedly_ensures _ _ _ _

/-- Whether making has come to a sound grid, if any, and the address of the picture is the given
one. -/
structure Made.Keeps (config : Config κ) (spec : CombatSpec) (url : Option String) (made : Made κ) :
    Prop where
  grid : SoundGrid config spec made.grid
  url_eq : made.url = url

theorem Made.keeps_start {status : Status} {path : String} {url : Option String} :
    (Made.start status path url : Made κ).Keeps config spec url :=
  ⟨fun _ absent => (nomatch absent), rfl⟩

variable {url : Option String}

theorem layOut_ensures (kept : made.Keeps config spec url) :
    (layOut services config spec made).Ensures Event.isCompletion (Made.Keeps config spec url) := by
  refine .bind generate_ensures fun answer sound => ?_
  cases answer with
  | ok generated => exact .pure ⟨sound generated rfl, kept.url_eq⟩
  | error e => exact .pure ⟨kept.grid, kept.url_eq⟩

theorem fallBack_ensures {setback : Setback κ} (kept : made.Keeps config spec url) :
    (fallBack services config spec made setback).Ensures Event.isCompletion
      (Made.Keeps config spec url) :=
  layOut_ensures ⟨kept.grid, kept.url_eq⟩

theorem readPicture_ensures {picture : Picture} (kept : made.Keeps config spec url) :
    (readPicture services config spec picture made).Ensures Event.isCompletion
      (Made.Keeps config spec url) := by
  unfold readPicture
  split_ifs
  · refine .bind generate_ensures fun answer sound => ?_
    cases answer with
    | ok generated => exact .pure ⟨sound generated rfl, kept.url_eq⟩
    | error e => exact fallBack_ensures ⟨kept.grid, kept.url_eq⟩
  · exact fallBack_ensures kept

/-- Reading the stored picture fetches it and asks models, and nothing else. -/
theorem readStored_ensures (kept : made.Keeps config spec url) :
    (readStored services config spec made).Ensures (¬ Event.isPictorial ·)
      (Made.Keeps config spec url) := by
  unfold readStored
  split
  · refine .bind (.ask fun _ => id) fun answer _ => ?_
    cases answer with
    | ok bytes =>
      exact (readPicture_ensures kept).events_mono fun _ => Event.not_isPictorial_of_isCompletion
    | error fault =>
      exact (fallBack_ensures kept).events_mono fun _ => Event.not_isPictorial_of_isCompletion
  · exact (fallBack_ensures kept).events_mono fun _ => Event.not_isPictorial_of_isCompletion

/-! ## Pictures -/

variable {campaignId mapId : String} {prompt : String}

/-- Whether what was made, if anything, has a sound grid, if any. -/
def SoundResult (config : Config κ) (spec : CombatSpec) (result : Except Breakdown (Made κ)) :
    Prop :=
  ∀ made, result = .ok made → SoundGrid config spec made.grid

omit [Amount κ] in
theorem keepPicture_ensures {picture : Picture} :
    (keepPicture services config campaignId mapId picture).Ensures (¬ Event.isCompletion ·)
      fun _ => True := by
  unfold keepPicture
  split
  · exact .pure trivial
  · split
    · exact .pure trivial
    · exact .bind (.ask fun _ => id) fun _ _ => .pure trivial

omit [Amount κ] in
theorem keepFor_ensures {picture : Picture} (sound : SoundGrid config spec made.grid) :
    (keepFor services config campaignId mapId picture made).Ensures (¬ Event.isCompletion ·)
      (SoundResult config spec) := by
  refine .bind keepPicture_ensures fun answer _ => ?_
  cases answer with
  | ok url => exact .pure fun _ same => Except.ok.inj same ▸ sound
  | error fault => exact .pure fun _ absent => nomatch absent

omit [Amount κ] in
/-- Painting adds one event to what comes after it. -/
theorem paint_ensures {next : Except Fault (Painting κ) → Work σ κ (Except Breakdown (Made κ))}
    {post : Except Breakdown (Made κ) → Prop}
    (painted : ∀ request answer, event (.painted request answer))
    (noPainter : post (.error .noPainter)) (after : ∀ answer, (next answer).Ensures event post) :
    (paint services prompt next).Ensures event post := by
  unfold paint
  split
  · exact .pure noPainter
  · exact .bind (.ask fun _ => painted _ _) fun answer _ => after answer

theorem paintAndRead_ensures (kept : made.Keeps config spec url) :
    (paintAndRead services config campaignId spec made).Ensures (fun _ => True)
      (SoundResult config spec) := by
  refine paint_ensures (fun _ _ => trivial) (fun _ absent => nomatch absent) fun answer => ?_
  cases answer with
  | error fault =>
    refine .bind ((fallBack_ensures kept).events_mono fun _ _ => trivial) fun made kept => ?_
    exact .pure fun _ same => Except.ok.inj same ▸ kept.grid
  | ok painting =>
    have paid : (made.payPicture painting.cost).Keeps config spec url := ⟨kept.grid, kept.url_eq⟩
    refine .bind ((readPicture_ensures paid).events_mono fun _ _ => trivial) fun made kept => ?_
    split_ifs
    · exact .pure fun _ same => Except.ok.inj same ▸ kept.grid
    · exact (keepFor_ensures kept.grid).events_mono fun _ _ => trivial

theorem attachPicture_ensures (kept : made.Keeps config spec url) :
    (attachPicture services config campaignId spec made).Ensures (¬ Event.isCompletion ·)
      (SoundResult config spec) := by
  refine paint_ensures (fun _ _ => id) (fun _ absent => nomatch absent) fun answer => ?_
  cases answer with
  | error fault => exact .pure fun _ same => Except.ok.inj same ▸ kept.grid
  | ok painting => exact keepFor_ensures kept.grid

/-! ## Actions -/

/-- Whether the grid is there. -/
def Artifacts.hasGrid : Artifacts → Bool
  | .gridOnly | .both => true
  | .neither | .pictureOnly => false

theorem hasPicture_of (stored : Option Fields) :
    (Artifacts.of stored).hasPicture = (stored.bind Document.pictureUrl?).isSome := by
  cases stored with
  | none => rfl
  | some document =>
    rw [Artifacts.of, Option.bind_some]
    cases (Document.pictureUrl? document).isSome <;> cases Document.hasCompleteGrid document <;> rfl

theorem hasGrid_of (stored : Option Fields) :
    (Artifacts.of stored).hasGrid = stored.any Document.hasCompleteGrid := by
  cases stored with
  | none => rfl
  | some document =>
    rw [Artifacts.of, Option.any_some]
    cases (Document.pictureUrl? document).isSome <;> cases Document.hasCompleteGrid document <;> rfl

/-- Which action is planned for a battle map when: whether a complete grid and a picture are there,
and whether maps are painted, decides. -/
inductive CombatAction.IsPlanned (hasGrid hasPicture paints : Bool) : CombatAction → Prop
  | reuse (grid : hasGrid) (picture : paints → hasPicture) :
      IsPlanned hasGrid hasPicture paints .reuse
  | readStored (painter : paints) (bare : hasGrid = false) (picture : hasPicture) :
      IsPlanned hasGrid hasPicture paints .readStored
  | paintAndRead (painter : paints) (bare : hasGrid = false) (unseen : ¬ hasPicture) :
      IsPlanned hasGrid hasPicture paints .paintAndRead
  | attachPicture (painter : paints) (grid : hasGrid) (unseen : ¬ hasPicture) :
      IsPlanned hasGrid hasPicture paints .attachPicture
  | layOut (noPainter : paints = false) (bare : hasGrid = false) :
      IsPlanned hasGrid hasPicture paints .layOut

/-- The four states of the artifacts, each with and without a painter, are all that is planned
for. -/
theorem CombatAction.isPlanned_plan (artifacts : Artifacts) (paints : Bool) :
    IsPlanned artifacts.hasGrid artifacts.hasPicture paints (plan artifacts paints) := by
  cases artifacts with
  | both => exact .reuse rfl fun _ => rfl
  | gridOnly =>
    cases paints with
    | false => exact .reuse rfl nofun
    | true => exact .attachPicture rfl rfl Bool.false_ne_true
  | pictureOnly =>
    cases paints with
    | false => exact .layOut rfl rfl
    | true => exact .readStored rfl rfl rfl
  | neither =>
    cases paints with
    | false => exact .layOut rfl rfl
    | true => exact .paintAndRead rfl rfl Bool.false_ne_true

theorem CombatAction.isPlanned_of (stored : Option Fields) (paints : Bool) :
    IsPlanned (stored.any Document.hasCompleteGrid) (stored.bind Document.pictureUrl?).isSome
      paints (plan (.of stored) paints) := by
  rw [← hasGrid_of, ← hasPicture_of]
  exact isPlanned_plan _ _

/-- Whether an event is called for: no new picture while there is one, and no prompt while there
is a complete grid. -/
def Event.IsNeeded (artifacts : Artifacts) (e : Event κ) : Prop :=
  (artifacts.hasPicture → ¬ e.isPictorial) ∧ (artifacts.hasGrid → ¬ e.isCompletion)

/-- What an action comes to for a battle map: a sound grid, if any, and the address that was given
if a picture is there. -/
def CombatResult (config : Config κ) (spec : CombatSpec) (artifacts : Artifacts)
    (url : Option String) (result : Except Breakdown (Made κ)) : Prop :=
  ∀ made, result = .ok made →
    SoundGrid config spec made.grid ∧ (artifacts.hasPicture → made.url = url)

omit [Amount κ] in
theorem combatResult_of_keeps {artifacts : Artifacts} (kept : made.Keeps config spec url) :
    CombatResult config spec artifacts url (.ok made) := by
  rintro _ ⟨⟩
  exact ⟨kept.grid, fun _ => kept.url_eq⟩

/-- Carrying out what is planned for a battle map causes only events that are called for, makes no
grid but a sound one, and keeps the address of a picture that is there. -/
theorem makeCombat_ensures (artifacts : Artifacts) (paints : Bool) :
    (makeCombat services config campaignId spec url (.plan artifacts paints)).Ensures
      (Event.IsNeeded artifacts) (CombatResult config spec artifacts url) := by
  have planned := CombatAction.isPlanned_plan artifacts paints
  generalize CombatAction.plan artifacts paints = action at planned ⊢
  -- Every action starts without a grid and with the address that is stored.
  have start : (Made.start .generated action.name url : Made κ).Keeps config spec url :=
    Made.keeps_start
  cases planned with
  | reuse => exact .pure (combatResult_of_keeps ⟨start.grid, start.url_eq⟩)
  | layOut _ bare =>
    refine .bind ((layOut_ensures start).events_mono fun _ completion => ?_) fun _ kept =>
      .pure (combatResult_of_keeps kept)
    exact ⟨fun _ => Event.not_isPictorial_of_isCompletion completion, by simp [bare]⟩
  | readStored _ bare =>
    refine .bind ((readStored_ensures start).events_mono fun _ silent => ?_) fun _ kept =>
      .pure (combatResult_of_keeps kept)
    exact ⟨fun _ => silent, by simp [bare]⟩
  | attachPicture _ _ unseen =>
    refine (attachPicture_ensures start).mono ?_ ?_
    -- Here a grid is there and no picture: painting is called for, and a prompt would not be.
    · exact fun _ silent => ⟨by simp [unseen], fun _ => silent⟩
    · exact fun _ sound made same => ⟨sound made same, by simp [unseen]⟩
  | paintAndRead _ bare unseen =>
    refine (paintAndRead_ensures start).mono ?_ ?_
    -- With neither of them there, every event is called for.
    · exact fun _ _ => ⟨by simp [unseen], by simp [bare]⟩
    · exact fun _ sound made same => ⟨sound made same, by simp [unseen]⟩

/-- Carrying out what is planned for an overview asks no model at all, asks for no new picture
while there is one, and keeps the address of a picture that is there. -/
theorem makeExploration_ensures {places : ExplorationSpec} (artifacts : Artifacts) (paints : Bool) :
    (makeExploration services config campaignId places url (.plan artifacts paints)).Ensures
      (Event.IsNeeded artifacts)
      fun result => ∀ made, result = .ok made → artifacts.hasPicture → made.url = url := by
  unfold ExplorationAction.plan
  split_ifs with there paintable
  · refine .pure ?_
    rintro _ ⟨⟩ _
    rfl
  -- the one action that paints is planned only where no picture is
  · have silent : (makeExploration services config campaignId places url .paint).Ensures
        (¬ Event.isCompletion ·) fun _ => True := by
      refine paint_ensures (fun _ _ => id) trivial fun answer => ?_
      cases answer with
      | error fault => exact .pure trivial
      | ok painting =>
        exact .bind keepPicture_ensures fun answer _ => by cases answer <;> exact .pure trivial
    refine silent.mono ?_ ?_
    · exact fun _ silent => ⟨fun picture => absurd picture there, fun _ => silent⟩
    · exact fun _ _ _ _ picture => absurd picture there
  · exact .pure fun _ _ picture => absurd picture there

end BattleMaps
