import BattleMaps.Proofs.Service.Contracts
import BattleMaps.Proofs.Store.Saving
import BattleMaps.Regeneration

/-!
# How a call ends

A call breaks down, or it fails and says why, or it finds that its draft says nothing new, or it
stores its draft. Only in the last case is the table another one than before.

## Main definitions

* `Made.Honest` — whether making has failed exactly if it gives a reason
* `Conclusion`, `Delivery` — all that a draft may come to, and a call after its making
* `Ending` — all that a call may end in, with the drafts that it may store as a parameter
* `Regenerated.FailsCleanly` — whether a failure is reported as one and has changed nothing

## Main results

* `regenerateCombat_delivers`, `regenerateExploration_delivers` — what calls come to after their
  making, without asking anybody
* `regenerateCombat_ends`, `regenerateExploration_ends` — how calls end
* `regenerate_failsCleanly` — a call that fails leaves the table as it was
-/

namespace BattleMaps

open Store (Table)

variable {σ κ : Type} {services : Services σ κ} {config : Config κ} {campaignId mapId : String}
  {table : Table} {event : Event κ → Prop} {made : Made κ}

/-! ## Reasons -/

/-- Whether making has failed exactly if it gives a reason, and the reason is not empty. -/
structure Made.Honest (made : Made κ) : Prop where
  failed_iff : made.status = .failed ↔ made.error.isSome
  ne_empty : ∀ e ∈ made.error, e ≠ ""

/-- Whether making has not failed so far. -/
structure Made.Unfailed (made : Made κ) : Prop where
  status_ne : made.status ≠ .failed
  error_eq : made.error = none

theorem Made.Honest.of_unfailed (h : made.Unfailed) : made.Honest where
  failed_iff := by simp [h.status_ne, h.error_eq]
  ne_empty := by simp [h.error_eq]

theorem Made.honest_fail {error : String} (said : error ≠ "") : (made.fail error).Honest where
  failed_iff := by simp [Made.fail]
  ne_empty := by simpa [Made.fail] using said

theorem Exhausted.message_ne_empty (e : Exhausted κ) : e.message ≠ "" := by
  intro empty
  have none := congrArg String.toList empty
  simp [Exhausted.message, toString] at none

/-- What was made, if anything, is honest. -/
def HonestResult (result : Except Breakdown (Made κ)) : Prop :=
  ∀ made, result = .ok made → made.Honest

theorem honestResult_ok (h : made.Honest) : HonestResult (.ok made) := by
  rintro _ ⟨⟩
  exact h

theorem honestResult_error (b : Breakdown) : HonestResult (.error b : Except Breakdown (Made κ)) :=
  fun _ absent => nomatch absent

theorem keepFor_honest {picture : Picture} (unfailed : made.Unfailed) :
    (keepFor services config campaignId mapId picture made).Yields event HonestResult := by
  refine .bind .any fun answer _ => ?_
  cases answer with
  | ok url =>
    exact .pure (honestResult_ok (.of_unfailed ⟨unfailed.status_ne, unfailed.error_eq⟩))
  | error fault => exact .pure (honestResult_error _)

/-- Where somebody paints, a painter is asked, and the rest of the work depends on the answer. -/
theorem exists_paint_eq {prompt : String}
    {next : Except Fault (Painting κ) → Work σ κ (Except Breakdown (Made κ))}
    (somebody : services.paint.isSome) : ∃ painter,
      paint services prompt next =
        Work.ask painter .painted ⟨prompt, Prompt.unwanted⟩ >>= next := by
  obtain ⟨painter, there⟩ := Option.isSome_iff_exists.mp somebody
  refine ⟨painter, ?_⟩
  rw [paint, there]

/-- What holds of a result without a painter, and of all that follows the painter's answer, holds
of the result. -/
theorem paint_yields {prompt : String}
    {next : Except Fault (Painting κ) → Work σ κ (Except Breakdown (Made κ))}
    {post : Except Breakdown (Made κ) → Prop} (noPainter : post (.error .noPainter))
    (after : ∀ request answer, event (.painted request answer) → (next answer).Yields event post) :
    (paint services prompt next).Yields event post := by
  unfold paint
  split
  · exact .pure noPainter
  · exact .bind .ask fun answer painted => after _ answer painted

/-- What holds without a painter, when nothing happens, and with the painter's answer before all
that follows it, holds of all that happens. -/
theorem paint_traces {prompt : String}
    {next : Except Fault (Painting κ) → Work σ κ (Except Breakdown (Made κ))}
    {post : Except Breakdown (Made κ) → List (Event κ) → Prop}
    (nobody : post (.error .noPainter) [])
    (after : ∀ request answer, (next answer).Traces fun result events =>
      post result ([.painted request answer] ++ events)) :
    (paint services prompt next).Traces post := by
  unfold paint
  split
  · exact .pure nobody
  · refine .bind .ask fun answer before noted => ?_
    subst noted
    exact after _ answer

variable [Amount κ] {spec : CombatSpec} {places : ExplorationSpec}

theorem layOut_honest (unfailed : made.Unfailed) :
    (layOut services config spec made).Yields event Made.Honest := by
  refine .bind .any fun answer _ => ?_
  cases answer with
  | ok generated =>
    exact .pure (.of_unfailed ⟨unfailed.status_ne, unfailed.error_eq⟩)
  | error e => exact .pure (Made.honest_fail e.message_ne_empty)

theorem fallBack_honest {setback : Setback κ} (unfailed : made.Unfailed) :
    (fallBack services config spec made setback).Yields event Made.Honest :=
  layOut_honest ⟨unfailed.status_ne, unfailed.error_eq⟩

theorem readPicture_honest {picture : Picture} (unfailed : made.Unfailed) :
    (readPicture services config spec picture made).Yields event Made.Honest := by
  unfold readPicture
  split_ifs
  · refine .bind .any fun answer _ => ?_
    cases answer with
    | ok generated =>
      exact .pure (.of_unfailed ⟨unfailed.status_ne, unfailed.error_eq⟩)
    | error e => exact fallBack_honest ⟨unfailed.status_ne, unfailed.error_eq⟩
  · exact fallBack_honest unfailed

theorem readStored_honest (unfailed : made.Unfailed) :
    (readStored services config spec made).Yields event Made.Honest := by
  unfold readStored
  split
  · refine .bind .any fun answer _ => ?_
    cases answer with
    | ok bytes => exact readPicture_honest unfailed
    | error fault => exact fallBack_honest unfailed
  · exact fallBack_honest unfailed

theorem paintAndRead_honest (unfailed : made.Unfailed) :
    (paintAndRead services config campaignId spec made).Yields event HonestResult := by
  refine paint_yields (honestResult_error _) fun _ answer _ => ?_
  cases answer with
  | error fault =>
    exact .bind (fallBack_honest unfailed) fun _ honest => .pure (honestResult_ok honest)
  | ok painting =>
    have paid : (made.payPicture painting.cost).Unfailed :=
      ⟨unfailed.status_ne, unfailed.error_eq⟩
    refine .bind (readPicture_honest paid) fun read honest => ?_
    split_ifs with setback
    · exact .pure (honestResult_ok honest)
    · refine .bind .any fun answer _ => ?_
      cases answer with
      | ok url => exact .pure (honestResult_ok ⟨honest.failed_iff, honest.ne_empty⟩)
      | error fault => exact .pure (honestResult_error _)

theorem attachPicture_honest (unfailed : made.Unfailed) :
    (attachPicture services config campaignId spec made).Yields event HonestResult := by
  refine paint_yields (honestResult_error _) fun _ answer _ => ?_
  cases answer with
  | error fault =>
    exact .pure (honestResult_ok (.of_unfailed ⟨by simp, unfailed.error_eq⟩))
  | ok painting => exact keepFor_honest ⟨unfailed.status_ne, unfailed.error_eq⟩

/-- Whatever is done for a battle map, it fails exactly if a reason is given. -/
theorem makeCombat_honest {url : Option String} (action : CombatAction) :
    (makeCombat services config campaignId spec url action).Yields event HonestResult := by
  have start : (Made.start .generated action.name url : Made κ).Unfailed :=
    ⟨by simp [Made.start], rfl⟩
  cases action with
  | reuse => exact .pure (honestResult_ok (.of_unfailed ⟨by simp, rfl⟩))
  | readStored =>
    exact .bind (readStored_honest start) fun _ honest => .pure (honestResult_ok honest)
  | paintAndRead => exact paintAndRead_honest start
  | attachPicture => exact attachPicture_honest start
  | layOut => exact .bind (layOut_honest start) fun _ honest => .pure (honestResult_ok honest)

/-- Whatever is done for an overview, it fails exactly if a reason is given. -/
theorem makeExploration_honest {url : Option String} (action : ExplorationAction) :
    (makeExploration services config campaignId places url action).Yields event HonestResult := by
  cases action with
  | reuse => exact .pure (honestResult_ok (.of_unfailed ⟨by simp, rfl⟩))
  | unavailable => exact .pure (honestResult_ok (Made.honest_fail (by decide)))
  | paint =>
    refine paint_yields (honestResult_error _) fun _ answer _ => ?_
    cases answer with
    | error fault =>
      refine .pure (honestResult_ok (Made.honest_fail fun empty => ?_))
      have none := congrArg String.toList empty
      simp [toString] at none
    | ok painting => exact keepFor_honest ⟨by simp [Made.start, Made.payPicture], rfl⟩

/-! ## What is delivered -/

omit [Amount κ]

/-- All that a draft may come to, given what is stored under the id of its map: it says nothing new,
it is stored, or it is refused. -/
inductive Conclusion (campaignId : String) (stored : Option Fields) (d : Draft)
    (url : Option String) (outcome : Outcome κ) (before : Table) : Regenerated κ → Prop where
  | unchanged {document : Fields} (found : stored = some document) (same : d.isUnchanged document) :
      Conclusion campaignId stored d url outcome before
        ⟨.ok { outcome with confidence := d.fields.value "confidence", pictureUrl := url }, before⟩
  | stored {now : Int} {after : Table} (writable : (d.stamped now).isWritable)
      (put : before.put (d.row campaignId outcome.mapId outcome.mapType now) = .ok after) :
      Conclusion campaignId stored d url outcome before
        ⟨.ok { outcome with
          confidence := d.fields.value "confidence", pictureUrl := url, written := true }, after⟩
  | refused (b : Breakdown) : Conclusion campaignId stored d url outcome before ⟨.error b, before⟩

theorem conclude_cases {stored : Option Fields} {d : Draft} {url : Option String}
    {outcome : Outcome κ} :
    (conclude services campaignId stored d url outcome table).Ensures (fun _ => False)
      (Conclusion campaignId stored d url outcome table) := by
  unfold conclude
  dsimp only
  split_ifs with same
  · obtain ⟨document, found, same⟩ := (Option.any_eq_true ..).mp same
    exact .pure (.unchanged found same)
  -- only a draft that says something new is stamped with the time and saved
  · refine .bind (.peek fun _ => trivial) fun now _ => ?_
    split_ifs with writable
    · rw [Store.save_eq]
      cases put : table.put (d.row campaignId outcome.mapId outcome.mapType now) with
      | ok after => exact .pure (.stored writable put)
      | error c => exact .pure (.refused _)
    · exact .pure (.refused _)

/-- All that a call may come to after its making, given the drafts that may be made of what was
made. -/
inductive Delivery (campaignId mapId : String) (mapType : MapType) (stored : Option Fields)
    (drafts : Made κ → Draft → Prop) (before : Table) :
    Except Breakdown (Made κ) → Regenerated κ → Prop where
  | brokenDown (b : Breakdown) :
      Delivery campaignId mapId mapType stored drafts before (.error b) ⟨.error b, before⟩
  | failed {made : Made κ} {error : String} (given : made.error = some error) :
      Delivery campaignId mapId mapType stored drafts before (.ok made)
        ⟨.ok (made.outcome mapId mapType), before⟩
  | undrafted (made : Made κ) (b : Breakdown) :
      Delivery campaignId mapId mapType stored drafts before (.ok made) ⟨.error b, before⟩
  | concluded {made : Made κ} {d : Draft} {r : Regenerated κ} (silent : made.error = none)
      (drafted : drafts made d)
      (conclusion : Conclusion campaignId stored d made.url (made.outcome mapId mapType) before r) :
      Delivery campaignId mapId mapType stored drafts before (.ok made) r

section Calls

variable [Amount κ] {promise : Except Breakdown (Made κ) → List (Event κ) → Prop}

/-- After its making, a call for a battle map asks nobody. -/
theorem regenerateCombat_delivers
    (making : (makeCombat services config campaignId spec
      ((table.document? (documentId campaignId spec.id)).bind Document.pictureUrl?)
      (.plan (.of (table.document? (documentId campaignId spec.id)))
        services.paintsBattleMaps)).Traces promise) :
    (regenerateCombat services config campaignId spec table).Traces fun r events =>
      ∃ answer, promise answer events ∧
        Delivery campaignId spec.id .combat (table.document? (documentId campaignId spec.id))
          (fun made d => Draft.combat? campaignId spec
            (table.document? (documentId campaignId spec.id)) made.grid made.url = some d)
          table answer r := by
  refine making.bind_silent fun answer => ?_
  cases answer with
  | error b => exact .pure (.brokenDown b)
  | ok made =>
    dsimp only
    cases given : made.error with
    | some error => exact .pure (.failed given)
    | none =>
      rw [Option.isSome_none, if_neg Bool.false_ne_true]
      split
      · exact .pure (.undrafted made _)
      · rename_i d drafted
        exact conclude_cases.mono (fun _ absent => absent) fun _ => .concluded given drafted

/-- After its making, a call for an overview asks nobody. -/
theorem regenerateExploration_delivers
    (making : (makeExploration services config campaignId places
      ((table.document? (documentId campaignId places.id)).bind Document.pictureUrl?)
      (.plan (.of (table.document? (documentId campaignId places.id)))
        services.paintsOverviews)).Traces promise) :
    (regenerateExploration services config campaignId places table).Traces fun r events =>
      ∃ answer, promise answer events ∧
        Delivery campaignId places.id .exploration
          (table.document? (documentId campaignId places.id))
          (fun made d => d = .exploration campaignId places made.url) table answer r := by
  refine making.bind_silent fun answer => ?_
  cases answer with
  | error b => exact .pure (.brokenDown b)
  | ok made =>
    dsimp only
    cases given : made.error with
    | some error => exact .pure (.failed given)
    | none =>
      rw [Option.isSome_none, if_neg Bool.false_ne_true]
      exact conclude_cases.mono (fun _ absent => absent) fun _ => .concluded given rfl

end Calls

/-! ## Endings -/

/-- Whether an outcome reports a failure, with a reason. -/
structure Outcome.Failed (o : Outcome κ) : Prop where
  status_eq : o.status = .failed
  unwritten : o.written = false
  says_why : ∃ e, o.error = some e ∧ e ≠ ""

/-- Whether an outcome reports no failure. -/
structure Outcome.Succeeded (o : Outcome κ) : Prop where
  status_ne : o.status ≠ .failed
  error_eq : o.error = none

/-- All that a call may end in, given what is stored under the id of its map, the drafts that it
may store, and the table that it starts from. -/
inductive Ending (campaignId mapId : String) (mapType : MapType) (stored : Option Fields)
    (drafts : Draft → Prop) (before : Table) : Regenerated κ → Prop where
  | brokenDown (b : Breakdown) :
      Ending campaignId mapId mapType stored drafts before ⟨.error b, before⟩
  | failed {o : Outcome κ} (failed : o.Failed) :
      Ending campaignId mapId mapType stored drafts before ⟨.ok o, before⟩
  | unchanged {o : Outcome κ} {d : Draft} {document : Fields} (succeeded : o.Succeeded)
      (unwritten : o.written = false) (drafted : drafts d) (found : stored = some document)
      (same : d.isUnchanged document) :
      Ending campaignId mapId mapType stored drafts before ⟨.ok o, before⟩
  | stored {o : Outcome κ} {d : Draft} {now : Int} {after : Table} (succeeded : o.Succeeded)
      (written : o.written = true) (drafted : drafts d) (writable : (d.stamped now).isWritable)
      (put : before.put (d.row campaignId mapId mapType now) = .ok after) :
      Ending campaignId mapId mapType stored drafts before ⟨.ok o, after⟩

theorem Made.Honest.failed {e mapId : String} {mapType : MapType} (honest : made.Honest)
    (given : made.error = some e) : (made.outcome mapId mapType).Failed where
  status_eq := honest.failed_iff.mpr (by rw [given, Option.isSome_some])
  unwritten := rfl
  says_why := ⟨e, given, honest.ne_empty e given⟩

theorem Made.Honest.succeeded {mapId : String} {mapType : MapType} (honest : made.Honest)
    (silent : made.error = none) : (made.outcome mapId mapType).Succeeded where
  status_ne := by
    intro failed
    have given := honest.failed_iff.mp failed
    rw [silent] at given
    contradiction
  error_eq := silent

variable {post : Made κ → Prop} {mapType : MapType} {stored : Option Fields}
  {drafts : Made κ → Draft → Prop} {answer : Except Breakdown (Made κ)} {r : Regenerated κ}

/-- What was made honestly is delivered with an ending. -/
theorem Delivery.ending (h : Delivery campaignId mapId mapType stored drafts table answer r)
    (promised : ∀ made, answer = .ok made → post made) (honest : HonestResult answer) :
    Ending campaignId mapId mapType stored
      (fun d => ∃ made, post made ∧ made.error = none ∧ drafts made d) table r := by
  cases h with
  | brokenDown b => exact .brokenDown b
  | failed given => exact .failed ((honest _ rfl).failed given)
  | undrafted made b => exact .brokenDown b
  | @concluded made d r silent drafted conclusion =>
    have succeeded : (made.outcome mapId mapType).Succeeded := (honest made rfl).succeeded silent
    have origin : ∃ made, post made ∧ made.error = none ∧ drafts made d :=
      ⟨made, promised made rfl, silent, drafted⟩
    cases conclusion with
    | unchanged found same =>
      exact .unchanged ⟨succeeded.status_ne, succeeded.error_eq⟩ rfl origin found same
    | stored writable put =>
      exact .stored ⟨succeeded.status_ne, succeeded.error_eq⟩ rfl origin writable put
    | refused b => exact .brokenDown b

section Calls

variable [Amount κ]

/-- How a call for a battle map ends, given what is promised of its making. -/
theorem regenerateCombat_ends
    (making : (makeCombat services config campaignId spec
      ((table.document? (documentId campaignId spec.id)).bind Document.pictureUrl?)
      (.plan (.of (table.document? (documentId campaignId spec.id)))
        services.paintsBattleMaps)).Yields event fun result => ∀ made, result = .ok made →
          post made) :
    (regenerateCombat services config campaignId spec table).Yields event
      (Ending campaignId spec.id .combat (table.document? (documentId campaignId spec.id))
        (fun d => ∃ made, post made ∧ made.error = none ∧
          Draft.combat? campaignId spec (table.document? (documentId campaignId spec.id)) made.grid
            made.url = some d) table) := by
  intro world all
  obtain ⟨answer, promise, delivery⟩ :=
    regenerateCombat_delivers (making.and (makeCombat_honest _)).traces world
  obtain ⟨promised, honest⟩ := promise all
  exact delivery.ending promised honest

/-- How a call for an overview ends, given what is promised of its making. -/
theorem regenerateExploration_ends
    (making : (makeExploration services config campaignId places
      ((table.document? (documentId campaignId places.id)).bind Document.pictureUrl?)
      (.plan (.of (table.document? (documentId campaignId places.id)))
        services.paintsOverviews)).Yields event fun result => ∀ made, result = .ok made →
          post made) :
    (regenerateExploration services config campaignId places table).Yields event
      (Ending campaignId places.id .exploration (table.document? (documentId campaignId places.id))
        (fun d => ∃ made, post made ∧ made.error = none ∧
          d = .exploration campaignId places made.url) table) := by
  intro world all
  obtain ⟨answer, promise, delivery⟩ :=
    regenerateExploration_delivers (making.and (makeExploration_honest _)).traces world
  obtain ⟨promised, honest⟩ := promise all
  exact delivery.ending promised honest

end Calls

/-! ## Failures -/

/-- Whether what came of a call reports a failure exactly if there was one, and has changed nothing
if there was one. -/
structure Regenerated.FailsCleanly (before : Table) (r : Regenerated κ) : Prop where
  brokenDown : ∀ b, r.outcome = .error b → r.table = before
  failed : ∀ o, r.outcome = .ok o → o.status = .failed → r.table = before ∧ o.written = false
  failed_iff : ∀ o, r.outcome = .ok o → (o.status = .failed ↔ ∃ e, o.error = some e ∧ e ≠ "")

theorem Ending.failsCleanly {drafts : Draft → Prop}
    (h : Ending campaignId mapId mapType stored drafts table r) : r.FailsCleanly table := by
  have succeeds {o : Outcome κ} {after : Table} (succeeded : o.Succeeded) :
      Regenerated.FailsCleanly table ⟨.ok o, after⟩ := by
    constructor
    · exact fun _ absent => nomatch absent
    · rintro _ ⟨⟩ failed
      exact absurd failed succeeded.status_ne
    · rintro _ ⟨⟩
      simp [succeeded.status_ne, succeeded.error_eq]
  cases h with
  | brokenDown b =>
    exact ⟨fun _ _ => rfl, fun _ absent => (nomatch absent), fun _ absent => nomatch absent⟩
  | failed failed =>
    refine ⟨fun _ absent => (nomatch absent), ?_, ?_⟩
    · rintro _ ⟨⟩ -
      exact ⟨rfl, failed.unwritten⟩
    · rintro _ ⟨⟩
      exact ⟨fun _ => failed.says_why, fun _ => failed.status_eq⟩
  | unchanged succeeded => exact succeeds succeeded
  | stored succeeded => exact succeeds succeeded

/-- Whatever the services answer, a call that breaks down or fails leaves the whole table as it was,
and an outcome is a failure exactly if it gives a reason. -/
theorem regenerate_failsCleanly [Amount κ] (spec : Spec) (world : σ) :
    ((regenerate services config campaignId spec table).run world).result.FailsCleanly table := by
  -- Nothing is known of the events, and nothing need be known of what is made.
  have making (work : Work σ κ (Except Breakdown (Made κ))) :
      work.Yields (fun _ => True) fun result => ∀ made, result = .ok made → True :=
    fun _ _ _ _ => trivial
  have clean : (regenerate services config campaignId spec table).Yields (fun _ => True)
      (Regenerated.FailsCleanly table) := by
    cases spec with
    | combat spec => exact (regenerateCombat_ends (making _)).mono fun _ ends => ends.failsCleanly
    | exploration places =>
      exact (regenerateExploration_ends (making _)).mono fun _ ends => ends.failsCleanly
  exact clean world fun _ _ => trivial

end BattleMaps
