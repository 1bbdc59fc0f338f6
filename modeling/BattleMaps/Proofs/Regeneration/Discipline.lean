import BattleMaps.Proofs.Regeneration.Course

/-!
# The discipline of a call

Whatever the services answer, a call for a battle map runs a proper course. That follows function by
function: asking ends with the first answer that becomes a map, prose is asked for only where no
picture could be read, and a picture is kept only if a grid is there for it.

## Main definitions

* `Asked` — what asking for a grid comes to
* `ReadFor` — what reading a picture comes to

## Main results

* `generate_asked` — asking ends with the first answer that becomes a map
* `makeCombat_runs` — whatever is planned runs a proper course
* `regenerateCombat_disciplined` — the discipline of a call
-/

namespace BattleMaps

open Work (Traces)
open Store (Table)

variable {σ κ : Type} {services : Services σ κ} {config : Config κ} {spec : CombatSpec}
  {campaignId mapId prompt : String} {picture : Option Picture} {made : Made κ} {table : Table}
  {stored : Option Fields} {paints : Bool} {caused laid : List (Event κ)}

/-! ## Asking for a grid -/

/-- What asking for a grid comes to: the same request again and again, no more often than allowed,
and a map exactly if some answer becomes one. -/
structure Asked (config : Config κ) (spec : CombatSpec) (picture : Option Picture) (limit : Nat)
    (result : Except (Exhausted κ) (Generated κ)) (events : List (Event κ)) : Prop where
  same : ∀ e ∈ events, ∃ answer, e = .completed (gridRequest config spec picture) answer
  length_le : events.length ≤ limit
  isOk_iff : result.isOk ↔ ∃ e ∈ events, e.Succeeds config spec

/-- An answer that becomes no map leads to nothing but another attempt. -/
theorem Asked.cons {limit : Nat} {result : Except (Exhausted κ) (Generated κ)}
    {answer : Except Fault (Completion κ)} (h : Asked config spec picture limit result caused)
    (failed : ¬ (Event.completed (gridRequest config spec picture) answer).Succeeds config spec) :
    Asked config spec picture (limit + 1) result
      (.completed (gridRequest config spec picture) answer :: caused) where
  same := List.forall_mem_cons.mpr ⟨⟨answer, rfl⟩, h.same⟩
  length_le := Nat.succ_le_succ h.length_le
  isOk_iff := by
    rw [h.isOk_iff, List.exists_mem_cons_iff]
    exact (or_iff_right failed).symm

variable [Amount κ]

theorem askRepeatedly_asked (left asked : Nat) (cost : κ) (lastError : String) :
    (askRepeatedly services config spec picture left asked cost lastError).Traces
      (Asked config spec picture left) := by
  induction left generalizing asked cost lastError with
  | zero =>
    rw [askRepeatedly]
    exact .pure ⟨by simp, Nat.le_refl _, by simp [Except.isOk, Except.toBool]⟩
  | succ left ih =>
    rw [askRepeatedly]
    refine .bind .ask fun answer before noted => ?_
    subst noted
    -- A round that fails is put before the rounds that follow; one that succeeds is the last.
    cases answer with
    | error fault =>
      refine (ih _ _ _).mono fun result after rest => rest.cons ?_
      rintro ⟨_, _, answered, -⟩
      contradiction
    | ok reply =>
      have judged (m : BattleMap) :
          judge spec (approach (gridRequest config spec picture).picture).encoding
            config.minWalkable reply.text = .ok m ↔
          judge spec (approach picture).encoding config.minWalkable reply.text = .ok m := by
        rw [picture_gridRequest]
      dsimp only
      split
      · rename_i m accepted
        refine .pure ⟨?_, Nat.succ_le_succ (Nat.zero_le _), fun _ => ?_, fun _ => rfl⟩
        · exact List.forall_mem_singleton.mpr ⟨_, rfl⟩
        · exact ⟨_, List.mem_singleton_self _, reply, m, rfl, (judged m).mpr accepted⟩
      · rename_i why rejected
        refine (ih _ _ _).mono fun result after rest => rest.cons ?_
        rintro ⟨_, m, ⟨⟩, accepted⟩
        rw [(judged m).mp accepted] at rejected
        contradiction

/-- Asking ends with the first answer that becomes a map, or when the attempts are used up. -/
theorem generate_asked :
    (generate services config spec picture).Traces
      (Asked config spec picture config.attempts.toNat) :=
  askRepeatedly_asked _ _ _ _

/-! ## Making a grid -/

omit [Amount κ] in
theorem Asked.prose {result : Except (Exhausted κ) (Generated κ)}
    (h : Asked config spec none config.attempts.toNat result caused) : Prose config caused where
  stage := by
    intro e found
    obtain ⟨answer, rfl⟩ := h.same e found
    rfl
  length_le := h.length_le

theorem layOut_traces :
    (layOut services config spec made).Traces fun result events =>
      result.setback = made.setback ∧ Prose config events := by
  refine .bind_pure generate_asked fun answer events asked => ?_
  cases answer <;> exact ⟨_, rfl, rfl, asked.prose⟩

/-- A way over a picture that was given up is not taken again. -/
theorem fallBack_traces {setback : Setback κ} :
    (fallBack services config spec made setback).Traces fun result events =>
      result.setback ≠ none ∧ Prose config events := by
  refine layOut_traces.mono fun result events ⟨same, laidOut⟩ => ⟨?_, laidOut⟩
  rw [same]
  exact Option.some_ne_none _

/-- Whether events are those of reading a picture that came to a result: they are as they should be,
and the way over the picture was given up unless some answer became a map. -/
def ReadFor (config : Config κ) (spec : CombatSpec) (result : Made κ) (events : List (Event κ)) :
    Prop :=
  ∃ readings prose, events = readings ++ prose ∧ Gridwork config spec readings prose ∧
    (result.setback = none → ∃ e ∈ readings, e.Succeeds config spec)

omit [Amount κ] in
theorem ReadFor.of_prose (given : made.setback ≠ none) (laidOut : Prose config caused) :
    ReadFor config spec made caused :=
  ⟨[], caused, rfl, laidOut.gridwork, fun kept => absurd kept given⟩

theorem readPicture_traces {picture : Picture} :
    (readPicture services config spec picture made).Traces (ReadFor config spec) := by
  unfold readPicture
  split_ifs
  · refine .bind generate_asked fun answer readings asked => ?_
    have stage : ∀ e ∈ readings, e.stage = .reading := by
      intro e found
      obtain ⟨answer, rfl⟩ := asked.same e found
      rfl
    cases answer with
    | ok generated =>
      -- Some answer has become a map, so nothing is laid out.
      refine .pure ⟨readings, [], rfl, ⟨stage, asked.length_le, fun _ => rfl, .nil⟩, fun _ => ?_⟩
      exact asked.isOk_iff.mp rfl
    | error e =>
      have none : ¬ ∃ e ∈ readings, e.Succeeds config spec := by
        rw [← asked.isOk_iff]
        exact Bool.false_ne_true
      refine fallBack_traces.mono fun result prose ⟨given, laidOut⟩ => ?_
      exact ⟨readings, prose, rfl, ⟨stage, asked.length_le, fun some => absurd some none, laidOut⟩,
        fun kept => absurd kept given⟩
  · exact fallBack_traces.mono fun _ _ ⟨given, laidOut⟩ => .of_prose given laidOut

/-! ## What is planned runs a proper course -/

omit [Amount κ] in
theorem keepFor_traces {picture : Picture} :
    (keepFor services config campaignId mapId picture made).Traces fun _ events =>
      events = [] ∨ ∃ path answer, events = [.uploaded ⟨path, picture⟩ answer] := by
  have kept : (keepPicture services config campaignId mapId picture).Traces fun _ events =>
      events = [] ∨ ∃ path answer, events = [.uploaded ⟨path, picture⟩ answer] := by
    unfold keepPicture
    split
    · exact .pure (.inl rfl)
    · split
      · exact .pure (.inl rfl)
      · refine .bind .ask fun answer before asked => .pure ?_
        rw [asked, List.append_nil]
        exact .inr ⟨_, answer, rfl⟩
  refine .bind_pure kept fun answer events shape => ?_
  cases answer <;> exact ⟨_, rfl, shape⟩

theorem readStored_runs (same : stored.bind Document.pictureUrl? = made.url)
    (incomplete : stored.any Document.hasCompleteGrid = false) :
    (readStored services config spec made).Traces fun _ => Runs config spec stored true := by
  unfold readStored
  split
  · rename_i url _ given
    refine .bind .ask fun answer before asked => ?_
    subst asked
    have opens : Course.Opens stored (.downloaded url answer : Event κ) :=
      .fetched answer (same.trans given) incomplete
    cases answer with
    | ok bytes =>
      refine readPicture_traces.mono ?_
      rintro result _ ⟨readings, prose, rfl, grids, -⟩
      exact .of_opens opens grids
    | error fault =>
      exact fallBack_traces.mono fun _ _ ⟨_, laidOut⟩ => .of_opens opens laidOut.gridwork
  · exact fallBack_traces.mono fun _ _ ⟨_, laidOut⟩ => .of_prose laidOut

theorem paintAndRead_runs :
    (paintAndRead services config campaignId spec made).Traces fun _ =>
      Runs config spec stored true := by
  refine paint_traces runs_nil fun request answer => ?_
  cases answer with
  | error fault =>
    exact .bind_pure fallBack_traces fun result prose ⟨_, laidOut⟩ =>
      ⟨_, rfl, .of_opens (.painted request _) laidOut.gridwork⟩
  | ok painting =>
    refine .bind readPicture_traces ?_
    rintro result _ ⟨readings, prose, rfl, grids, read⟩
    split_ifs with given
    · refine .pure ?_
      rw [List.append_nil]
      exact .of_opens (.painted request _) grids
    -- the picture is kept only if the way over it was not given up
    · have kept : result.setback = none := by simpa using given
      exact keepFor_traces.mono fun _ events shape => .of_kept grids (fun _ => read kept) shape

theorem attachPicture_runs (complete : stored.any Document.hasCompleteGrid) :
    (attachPicture services config campaignId spec made).Traces fun _ =>
      Runs config spec stored true := by
  have nothing : Gridwork config spec [] ([] : List (Event κ)) := Prose.nil.gridwork
  refine paint_traces runs_nil fun request answer => ?_
  cases answer with
  | error fault => exact .pure (.of_opens (.painted request _) nothing)
  | ok painting =>
    refine keepFor_traces.mono fun _ events shape => .of_kept nothing (fun incomplete => ?_) shape
    rw [complete] at incomplete
    contradiction

/-- Whatever is planned for what is stored runs a proper course. -/
theorem makeCombat_runs (stored : Option Fields) (paints : Bool) :
    (makeCombat services config campaignId spec (stored.bind Document.pictureUrl?)
      (.plan (.of stored) paints)).Traces fun _ => Runs config spec stored paints := by
  have planned := CombatAction.isPlanned_of stored paints
  generalize CombatAction.plan (.of stored) paints = action at planned ⊢
  cases planned with
  | reuse => exact .pure runs_nil
  | layOut => exact .bind_pure layOut_traces fun _ _ ⟨_, laidOut⟩ => ⟨_, rfl, .of_prose laidOut⟩
  | attachPicture painter grid =>
    obtain rfl := painter
    exact attachPicture_runs grid
  | readStored painter bare =>
    obtain rfl := painter
    exact .bind_pure (readStored_runs rfl bare) fun _ _ runs => ⟨_, rfl, runs⟩
  | paintAndRead painter =>
    obtain rfl := painter
    exact paintAndRead_runs

theorem regenerateCombat_runs :
    (regenerateCombat services config campaignId spec table).Traces fun _ =>
      Runs config spec (table.document? (documentId campaignId spec.id))
        services.paintsBattleMaps :=
  (regenerateCombat_delivers (makeCombat_runs _ _)).mono fun _ _ ⟨_, runs, _⟩ => runs

/-- Whatever is stored and whatever the services answer, the events of a call for a battle map keep
to the discipline. -/
theorem regenerateCombat_disciplined (services : Services σ κ) (config : Config κ)
    (campaignId : String) (spec : CombatSpec) (table : Table) (world : σ) :
    Disciplined services config spec (table.document? (documentId campaignId spec.id))
      ((regenerateCombat services config campaignId spec table).run world).events := by
  have runs : (regenerateCombat services config campaignId spec table).Traces _ :=
    regenerateCombat_runs
  obtain ⟨c, caused, proper⟩ := runs world
  rw [← caused]
  exact proper.disciplined rfl

end BattleMaps
