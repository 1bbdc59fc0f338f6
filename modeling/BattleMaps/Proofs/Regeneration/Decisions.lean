import BattleMaps.Proofs.Regeneration.Steps

/-!
# Calls as decisions

Only the making of a call asks services. What comes after it is a decision that the call takes on
its own: it breaks down, leaves the table as it is, or saves a row. The decision rests on what has
been made, on the document that is stored under the id of the map, and on the time; the rest of the
table has no part in it until the row is to be saved.

## Main definitions

* `Decision`, `Decision.apply` — what a call decides, and what comes of that for a table
* `Draft.decide`, `Spec.decide` — the decision on a draft, and on what has been made
* `Spec.make` — the making of a call, for either kind of map

## Main results

* `run_regenerate` — a call is its making, followed by the decision on what has been made
* `events_regenerate`, `world_regenerate` — what a call asks is what its making asks
-/

namespace BattleMaps

open Store (Table)

variable {σ κ : Type}

/-- What a call decides once the services have been asked. -/
inductive Decision (κ : Type) where
  | breaksDown (b : Breakdown)
  -- The outcome stands, and nothing is to be saved.
  | leaves (outcome : Outcome κ)
  -- The outcome is written if the row can be saved.
  | saves (outcome : Outcome κ) (row : Store.Row)

/-- What comes of a decision for a table. -/
def Decision.apply (table : Table) : Decision κ → Regenerated κ
  | breaksDown b => ⟨.error b, table⟩
  | leaves outcome => ⟨.ok outcome, table⟩
  | saves outcome row =>
    match table.put row with
    | .ok after => ⟨.ok { outcome with written := true }, after⟩
    | .error c => ⟨.error (.conflict c), table⟩

/-- The decision on a draft: it is saved if it says something new and can be written. -/
def Draft.decide (d : Draft) (campaignId : String) (stored : Option Fields) (url : Option String)
    (outcome : Outcome κ) (now : Int) : Decision κ :=
  let outcome := { outcome with confidence := d.fields.value "confidence", pictureUrl := url }
  if stored.any fun document => d.isUnchanged document then .leaves outcome
  else if (d.stamped now).isWritable then
    .saves outcome (d.row campaignId outcome.mapId outcome.mapType now)
  else .breaksDown (.conflict .longInteger)

/-- The draft of what has been made for a map, if there can be one. -/
def Spec.draft? (campaignId : String) (stored : Option Fields) (made : Made κ) :
    Spec → Option Draft
  | .combat spec => Draft.combat? campaignId spec stored made.grid made.url
  | .exploration places => some (.exploration campaignId places made.url)

/-- The decision on what has been made for a map. -/
def Spec.decide (campaignId : String) (spec : Spec) (stored : Option Fields)
    (answer : Except Breakdown (Made κ)) (now : Int) : Decision κ :=
  match answer with
  | .error b => .breaksDown b
  | .ok made =>
    if made.error.isSome then .leaves (made.outcome spec.id spec.mapType)
    else
      match spec.draft? campaignId stored made with
      | none => .breaksDown (.noGrid spec.id)
      | some d => d.decide campaignId stored made.url (made.outcome spec.id spec.mapType) now

/-- Carrying out what is planned for a map, given what is stored under its id. -/
def Spec.make [Amount κ] (services : Services σ κ) (config : Config κ) (campaignId : String)
    (stored : Option Fields) : Spec → Work σ κ (Except Breakdown (Made κ))
  | .combat spec => makeCombat services config campaignId spec (stored.bind Document.pictureUrl?)
      (.plan (.of stored) services.paintsBattleMaps)
  | .exploration places => makeExploration services config campaignId places
      (stored.bind Document.pictureUrl?) (.plan (.of stored) services.paintsOverviews)

variable {services : Services σ κ} {config : Config κ} {campaignId : String} {d : Draft}
  {stored : Option Fields} {url : Option String} {outcome : Outcome κ} {table : Table} {spec : Spec}
  {made : Made κ} {now : Int}

/-- Where making has not failed, the decision is the one on the draft. -/
theorem Spec.decide_ok (silent : made.error = none)
    (drafted : spec.draft? campaignId stored made = some d) :
    spec.decide campaignId stored (.ok made) now =
      d.decide campaignId stored made.url (made.outcome spec.id spec.mapType) now := by
  dsimp only [Spec.decide]
  rw [silent, Option.isSome_none, if_neg Bool.false_ne_true, drafted]

/-- A draft is concluded by the decision on it; nobody is asked for that. -/
theorem run_conclude (world : σ) :
    (conclude services campaignId stored d url outcome table).run world =
      ⟨(d.decide campaignId stored url outcome (services.now world)).apply table, [], world⟩ := by
  unfold conclude Draft.decide
  dsimp only
  split_ifs with same writable
  · rfl
  · cases put : table.put (d.row campaignId outcome.mapId outcome.mapType (services.now world)) <;>
    simp [Decision.apply, Store.save_eq, writable, put]
  · simp [Decision.apply, writable]

/-- A draft that says something new, and whose row can be put into the table, is saved. -/
theorem run_conclude_of_put {after : Table} {world : σ}
    (new : (stored.any fun document => d.isUnchanged document) = false)
    (writable : (d.stamped (services.now world)).isWritable)
    (put : table.put (d.row campaignId outcome.mapId outcome.mapType (services.now world)) =
      .ok after) :
    (conclude services campaignId stored d url outcome table).run world =
      ⟨⟨.ok { outcome with confidence := d.fields.value "confidence", pictureUrl := url,
                           written := true }, after⟩, [], world⟩ := by
  rw [run_conclude, Draft.decide]
  simp only [new, writable, Bool.false_eq_true, if_false, if_true, Decision.apply, put]

/-- A call is its making, followed by the decision on what has been made. -/
theorem run_regenerate [Amount κ] {answer : Except Breakdown (Made κ)} {events : List (Event κ)}
    {world later : σ}
    (making : (spec.make services config campaignId (storedFor campaignId spec table)).run world =
      ⟨answer, events, later⟩) :
    (regenerate services config campaignId spec table).run world =
      ⟨(spec.decide campaignId (storedFor campaignId spec table) answer
        (services.now later)).apply table, events, later⟩ := by
  cases spec with
  | combat spec =>
    rw [regenerate, regenerateCombat, Work.run_bind]
    dsimp only [Spec.make, storedFor, Spec.id] at making ⊢
    rw [making]
    cases answer with
    | error b => simp [Spec.decide, Decision.apply]
    | ok made =>
      dsimp only [Spec.decide, Spec.draft?]
      split_ifs with failed
      · simp [Decision.apply, Spec.id, Spec.mapType]
      · cases Draft.combat? campaignId spec _ made.grid made.url with
        | none => simp [Decision.apply, Spec.id]
        | some d => simp [run_conclude, Spec.id, Spec.mapType]
  | exploration places =>
    rw [regenerate, regenerateExploration, Work.run_bind]
    dsimp only [Spec.make, storedFor, Spec.id] at making ⊢
    rw [making]
    cases answer with
    | error b => simp [Spec.decide, Decision.apply]
    | ok made =>
      dsimp only [Spec.decide, Spec.draft?]
      split_ifs with failed
      · simp [Decision.apply, Spec.id, Spec.mapType]
      · simp [run_conclude, Spec.id, Spec.mapType]

/-- What a call asks is what its making asks. -/
theorem events_regenerate [Amount κ] {world : σ} :
    ((regenerate services config campaignId spec table).run world).events =
      ((spec.make services config campaignId (storedFor campaignId spec table)).run
        world).events := by
  generalize making : (spec.make services config campaignId (storedFor campaignId spec table)).run
    world = done
  rw [run_regenerate making]

theorem world_regenerate [Amount κ] {world : σ} :
    ((regenerate services config campaignId spec table).run world).world =
      ((spec.make services config campaignId (storedFor campaignId spec table)).run
        world).world := by
  generalize making : (spec.make services config campaignId (storedFor campaignId spec table)).run
    world = done
  rw [run_regenerate making]

end BattleMaps
