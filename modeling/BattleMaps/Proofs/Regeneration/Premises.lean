import BattleMaps.Proofs.Regeneration.Fallback
import BattleMaps.Proofs.Regeneration.Statuses

/-!
# What an action relies on

An action does not ask whether it can be carried out. To paint takes a painter; to read a picture
takes somebody who reads pictures and, where the stored one is read, its address; to reuse a grid
takes a document that has one. Where such a premise fails, a call comes to a branch that is not
meant to be taken: it breaks down for want of a painter or of a grid, or, where nobody reads
pictures, it falls back on prose as if no grid could be read off the picture. That last branch shows
in no outcome; only the setback that is noted tells it from the others.

The plan sees to the premises, whatever is stored and whichever services are at hand, so none of
these branches is ever taken. A call breaks down over patterns and conflicts only, and it gives up
the way over a picture only because of what its services have answered, or because there is no place
to fetch a stored picture from.

## Main definitions

* `StoresPicture`, `StoresGrid` — whether a document is there and has what is read from it
* `CombatAction.Premises`, `ExplorationAction.Premises` — what each action relies on
* `Setback.IsBorneOut` — whether a setback follows from what has happened
* `Made.IsBorneOut` — whether all setbacks of what was made do
* `Origin` — where a member of a draft comes from
* `Foreseen` — what holds of a call and of its making

## Main results

* `CombatAction.premises_plan`, `ExplorationAction.premises_plan` — the premises of what is planned
  hold
* `makeCombat_foreseen`, `makeExploration_foreseen` — what an action comes to if its premises hold
* `readPicture_of_unread` — a missing reader leaves its own setback, and always that one
* `regenerate_foreseen` — no call comes to a branch that is not meant to be taken
-/

namespace BattleMaps

open Store (Table)
open Work (Traces Yields)

variable {σ κ : Type} {services : Services σ κ} {config : Config κ} {spec : CombatSpec}
  {places : ExplorationSpec} {campaignId mapId key : String} {stored : Option Fields}
  {made : Made κ} {events : List (Event κ)} {table : Table} {now : Int}

/-! ## What is stored -/

/-- Whether a document is there and has the address of a picture, which is not blank. -/
def StoresPicture (stored : Option Fields) : Prop :=
  ∃ document url, stored = some document ∧
    Fields.get? document "backgroundImageUrl" = some (.text url) ∧ (Text.nonBlank? url).isSome

/-- Whether a document is there and has the two lists of a grid: all of its tiles, and at least one
region. -/
def StoresGrid (stored : Option Fields) : Prop :=
  ∃ document tiles regions, stored = some document ∧
    Fields.get? document "tileData" = some (.array tiles) ∧ tiles.length = cellCount ∧
    Fields.get? document "regions" = some (.array regions) ∧ regions ≠ []

/-- What is found under a key, and is not what stands in for a missing member, is there. -/
theorem Fields.get?_eq_some_iff {document : Fields} {v : Json} (present : v ≠ .null) :
    document.get? key = some v ↔ document.value key = v := by
  rw [value]
  cases document.get? key with
  | none => simp [present.symm]
  | some w => simp

theorem storesPicture_iff : StoresPicture stored ↔ (Artifacts.of stored).hasPicture := by
  rw [hasPicture_of]
  constructor
  · rintro ⟨document, url, rfl, found, filled⟩
    rw [Fields.get?_eq_some_iff (by simp)] at found
    rw [Option.bind_some, pictureUrl?_eq_some_iff.mpr ⟨found, filled⟩, Option.isSome_some]
  · intro there
    obtain ⟨url, named⟩ := Option.isSome_iff_exists.mp there
    obtain ⟨document, rfl, named⟩ := Option.bind_eq_some_iff.mp named
    obtain ⟨found, filled⟩ := pictureUrl?_eq_some_iff.mp named
    exact ⟨document, url, rfl, (Fields.get?_eq_some_iff (by simp)).mpr found, filled⟩

theorem storesGrid_iff : StoresGrid stored ↔ (Artifacts.of stored).hasGrid := by
  rw [hasGrid_of]
  constructor
  · rintro ⟨document, tiles, regions, rfl, foundTiles, length, foundRegions, nonempty⟩
    rw [Fields.get?_eq_some_iff (by simp)] at foundTiles foundRegions
    rw [Option.any_some, Draft.hasCompleteGrid_iff]
    exact ⟨tiles, regions, foundTiles, length, foundRegions, nonempty⟩
  · intro there
    obtain ⟨document, rfl, complete⟩ := (Option.any_eq_true ..).mp there
    obtain ⟨tiles, regions, foundTiles, length, foundRegions, nonempty⟩ :=
      Draft.hasCompleteGrid_iff.mp complete
    rw [← Fields.get?_eq_some_iff (by simp)] at foundTiles foundRegions
    exact ⟨document, tiles, regions, rfl, foundTiles, length, foundRegions, nonempty⟩

/-! ## Premises -/

/-- What an action for a battle map relies on. -/
def CombatAction.Premises (services : Services σ κ) (stored : Option Fields) : CombatAction → Prop
  | .reuse => StoresGrid stored
  | .readStored => services.readsPictures ∧ StoresPicture stored
  | .paintAndRead => services.paint.isSome ∧ services.readsPictures
  | .attachPicture => services.paint.isSome ∧ StoresGrid stored
  | .layOut => True

/-- What an action for an overview relies on. -/
def ExplorationAction.Premises (services : Services σ κ) (stored : Option Fields) :
    ExplorationAction → Prop
  | .reuse => StoresPicture stored
  | .paint => services.paint.isSome
  | .unavailable => True

/-- Whatever is stored, a battle map's action is planned only where its premises hold. -/
theorem CombatAction.premises_plan (services : Services σ κ) (stored : Option Fields) :
    (plan (.of stored) services.paintsBattleMaps).Premises services stored := by
  have planned := isPlanned_plan (.of stored) services.paintsBattleMaps
  generalize plan (.of stored) services.paintsBattleMaps = action at planned ⊢
  cases planned with
  | reuse grid => exact storesGrid_iff.mpr grid
  | layOut => trivial
  | attachPicture painter grid =>
    exact ⟨(Services.paintsBattleMaps_iff.mp painter).1, storesGrid_iff.mpr grid⟩
  | readStored painter _ picture =>
    exact ⟨(Services.paintsBattleMaps_iff.mp painter).2, storesPicture_iff.mpr picture⟩
  | paintAndRead painter => exact Services.paintsBattleMaps_iff.mp painter

/-- Whatever is stored, an overview's action is planned only where its premises hold. -/
theorem ExplorationAction.premises_plan (services : Services σ κ) (stored : Option Fields) :
    (plan (.of stored) services.paintsOverviews).Premises services stored := by
  unfold plan
  split_ifs with there paintable
  · exact storesPicture_iff.mpr there
  · exact paintable
  · trivial

/-- What the action that is planned for a map relies on. -/
def Spec.Premises (services : Services σ κ) (stored : Option Fields) : Spec → Prop
  | .combat _ => (CombatAction.plan (.of stored) services.paintsBattleMaps).Premises services stored
  | .exploration _ =>
    (ExplorationAction.plan (.of stored) services.paintsOverviews).Premises services stored

theorem Spec.premises (services : Services σ κ) (stored : Option Fields) (spec : Spec) :
    spec.Premises services stored := by
  cases spec with
  | combat spec => exact CombatAction.premises_plan services stored
  | exploration places => exact ExplorationAction.premises_plan services stored

/-! ## Setbacks -/

/-- Whether a setback follows from what has happened: a service failed, or there is no place to
fetch the stored picture from, or no answer to a picture has become a map. -/
def Setback.IsBorneOut (services : Services σ κ) (config : Config κ) (spec : CombatSpec)
    (events : List (Event κ)) : Setback κ → Prop
  | .noBlobStore => services.blobs = none
  | .fetching fault => ∃ url, .downloaded url (.error fault) ∈ events
  | .painting fault => ∃ request, .painted request (.error fault) ∈ events
  -- Nothing that can happen bears this one out.
  | .noReader => False
  | .reading _ => ∀ m, ∀ e ∈ events, ¬ e.Reads config spec m

/-- Whether a setback of a call is borne out; an overview has none. -/
def Spec.BearsOut (services : Services σ κ) (config : Config κ) (events : List (Event κ))
    (s : Setback κ) : Spec → Prop
  | .combat spec => s.IsBorneOut services config spec events
  | .exploration _ => False

/-- Whether all setbacks, if any, are borne out. -/
def Made.IsBorneOut (services : Services σ κ) (config : Config κ) (spec : Spec) (made : Made κ)
    (events : List (Event κ)) : Prop :=
  ∀ s ∈ made.setback, spec.BearsOut services config events s

theorem Made.isBorneOut_of_setback {spec : Spec} (start : made.setback = none) :
    made.IsBorneOut services config spec events :=
  fun _ noted => nomatch start.symm.trans noted

section Setbacks

variable [Amount κ] {picture : Picture}

theorem layOut_setback :
    (layOut services config spec made).Traces fun after _ => after.setback = made.setback := by
  intro world
  rw [run_layOut]
  exact Made.setback_laidOut _

/-- The setback that leads to prose stays noted, and nothing is read off a picture any more. -/
theorem fallBack_setback {setback : Setback κ} :
    (fallBack services config spec made setback).Traces fun after events =>
      after.setback = some setback ∧ ∀ m, ∀ e ∈ events, ¬ e.Reads config spec m :=
  layOut_setback.and layOut_reads

/-- Where somebody reads pictures, reading one is given up only if no answer becomes a map. -/
theorem readPicture_setback (reads : services.readsPictures) (start : made.setback = none) :
    (readPicture services config spec picture made).Traces fun after events =>
      ∀ s ∈ after.setback, (∃ e, s = .reading e) ∧
        ∀ m, ∀ e ∈ events, ¬ e.Reads config spec m := by
  rw [readPicture, if_pos reads]
  refine .bind generate_reads fun answer before read => ?_
  cases answer with
  | ok generated =>
    refine .pure fun s noted => ?_
    have absent : none = some s := start.symm.trans noted
    contradiction
  | error e =>
    refine fallBack_setback.mono ?_
    rintro after later ⟨given, unread⟩ s noted
    obtain rfl := Option.some.inj (given.symm.trans noted)
    refine ⟨⟨e, rfl⟩, fun m event found reading => ?_⟩
    rcases List.mem_append.mp found with first | second
    · obtain ⟨-, _, absent, -⟩ := read m event first reading
      contradiction
    · exact unread m event second reading

/-- Where nobody reads pictures, reading one is given up for want of a reader: no other setback
hides it. -/
theorem readPicture_of_unread (unread : services.readsPictures = false) :
    (readPicture services config spec picture made).Traces fun after _ =>
      after.setback = some .noReader := by
  rw [readPicture, unread, if_neg Bool.false_ne_true]
  exact fallBack_setback.mono fun _ _ noted => noted.1

omit [Amount κ] in
/-- Where somebody reads pictures, what is read after a first event that is no answer to a picture
leaves a setback that is borne out. -/
theorem isBorneOut_of_read {after : Made κ} {first : Event κ}
    (unread : ∀ m, ¬ first.Reads config spec m)
    (given : ∀ s ∈ after.setback, (∃ e, s = .reading e) ∧
      ∀ m, ∀ e ∈ events, ¬ e.Reads config spec m) :
    after.IsBorneOut services config (.combat spec) (first :: events) := by
  intro s noted
  obtain ⟨⟨e, rfl⟩, none⟩ := given s noted
  exact fun m => List.forall_mem_cons.mpr ⟨unread m, none m⟩

/-- What falls back on prose over a setback that is borne out by then has that setback. -/
theorem fallBack_isBorneOut {setback : Setback κ} {before : List (Event κ)}
    (due : ∀ later, setback.IsBorneOut services config spec (before ++ later)) :
    (fallBack services config spec made setback).Traces fun after later =>
      after.IsBorneOut services config (.combat spec) (before ++ later) := by
  refine fallBack_setback.mono ?_
  rintro after later ⟨given, -⟩ s noted
  obtain rfl := Option.some.inj (given.symm.trans noted)
  exact due later

/-- A stored picture whose address is there is given up over a service that has failed, or for want
of a place to fetch it from. -/
theorem readStored_isBorneOut (reads : services.readsPictures) (there : made.url.isSome)
    (start : made.setback = none) :
    (readStored services config spec made).Traces
      (Made.IsBorneOut services config (.combat spec)) := by
  unfold readStored
  split
  · refine .bind .ask fun answer before noted => ?_
    subst noted
    cases answer with
    | ok bytes =>
      exact (readPicture_setback reads start).mono fun _ _ => isBorneOut_of_read fun _ => id
    | error fault => exact fallBack_isBorneOut fun _ => ⟨_, List.mem_cons_self⟩
  · rename_i incomplete
    -- The address is there, so it is the place that is missing.
    obtain ⟨url, named⟩ := Option.isSome_iff_exists.mp there
    have nowhere : services.blobs = none := by
      cases place : services.blobs with
      | none => rfl
      | some blobs => exact (incomplete blobs url place named).elim
    have borneOut : (fallBack services config spec made .noBlobStore).Traces fun after later =>
        after.IsBorneOut services config (.combat spec) ([] ++ later) :=
      fallBack_isBorneOut fun _ => nowhere
    exact borneOut

end Setbacks

/-! ## Actions -/

/-- Whether making has come to its end with the given setback, if any, or has broken down over
nothing but a pattern. -/
def EndsWith (setback : Option (Setback κ)) : Except Breakdown (Made κ) → Prop
  | .ok made => made.setback = setback
  | .error b => ∃ fault, b = .badPattern fault

/-- Whether making has come to its end with a setback that is borne out, if any, or has broken down
over nothing but a pattern. -/
def ForeseenResult (services : Services σ κ) (config : Config κ) (spec : Spec) :
    Except Breakdown (Made κ) → List (Event κ) → Prop
  | .ok made, events => made.IsBorneOut services config spec events
  | .error b, _ => ∃ fault, b = .badPattern fault

theorem EndsWith.foreseen {spec : Spec} {answer : Except Breakdown (Made κ)}
    (h : EndsWith none answer) : ForeseenResult services config spec answer events := by
  cases answer with
  | ok made => exact Made.isBorneOut_of_setback h
  | error b => exact h

theorem keepFor_endsWith {picture : Picture} :
    (keepFor services config campaignId mapId picture made).Traces fun answer _ =>
      EndsWith made.setback answer := by
  have any : (keepPicture services config campaignId mapId picture).Traces fun _ _ => True :=
    fun _ => trivial
  refine any.bind_pure fun answer events _ => ?_
  cases answer with
  | ok url => exact ⟨_, rfl, rfl⟩
  | error fault => exact ⟨_, rfl, fault, rfl⟩

/-- Where somebody paints, what holds of the painter's answer and of all that follows it holds of
all that happens. -/
theorem paint_traces_of_isSome {prompt : String}
    {next : Except Fault (Painting κ) → Work σ κ (Except Breakdown (Made κ))}
    {post : Except Breakdown (Made κ) → List (Event κ) → Prop} (able : services.paint.isSome)
    (after : ∀ request answer, (next answer).Traces fun result events =>
      post result ([.painted request answer] ++ events)) :
    (paint services prompt next).Traces post := by
  obtain ⟨painter, asked⟩ := exists_paint_eq able
  rw [asked]
  refine .bind .ask fun answer before noted => ?_
  subst noted
  exact after _ answer

section Actions

variable [Amount κ]

theorem paintAndRead_foreseen (able : services.paint.isSome) (reads : services.readsPictures)
    (start : made.setback = none) :
    (paintAndRead services config campaignId spec made).Traces
      (ForeseenResult services config (.combat spec)) := by
  refine paint_traces_of_isSome able fun request answer => ?_
  cases answer with
  | error fault =>
    exact .bind_pure (fallBack_isBorneOut fun _ => ⟨_, List.mem_cons_self⟩)
      fun _ _ borneOut => ⟨_, rfl, borneOut⟩
  | ok painting =>
    have start : (made.payPicture painting.cost).setback = none := start
    refine .bind (readPicture_setback reads start) fun read reading given => ?_
    split_ifs with setback
    · refine .pure ?_
      rw [List.append_nil]
      exact isBorneOut_of_read (fun _ => id) given
    -- a picture that a grid was read off is kept, and leaves no setback
    · have unhindered : read.setback = none := by simpa using setback
      exact keepFor_endsWith.mono fun _ _ ends => (unhindered ▸ ends).foreseen

theorem attachPicture_foreseen (able : services.paint.isSome) (start : made.setback = none) :
    (attachPicture services config campaignId spec made).Traces
      (ForeseenResult services config (.combat spec)) := by
  refine paint_traces_of_isSome able fun request answer => ?_
  cases answer with
  | error fault => exact .pure (Made.isBorneOut_of_setback start)
  | ok painting =>
    have start : (made.payPicture painting.cost).setback = none := start
    exact keepFor_endsWith.mono fun _ _ ends => (start ▸ ends).foreseen

/-- An action for a battle map whose premises hold breaks down over nothing but a pattern, and gives
up the way over a picture only for a setback that is borne out. -/
theorem makeCombat_foreseen {action : CombatAction} (premises : action.Premises services stored) :
    (makeCombat services config campaignId spec (stored.bind Document.pictureUrl?) action).Traces
      (ForeseenResult services config (.combat spec)) := by
  cases action with
  | reuse => exact .pure (Made.isBorneOut_of_setback rfl)
  | readStored =>
    obtain ⟨reads, picture⟩ := premises
    have there : (stored.bind Document.pictureUrl?).isSome := by
      rw [← hasPicture_of]
      exact storesPicture_iff.mp picture
    exact .bind_pure (readStored_isBorneOut reads there rfl) fun _ _ borneOut => ⟨_, rfl, borneOut⟩
  | paintAndRead => exact paintAndRead_foreseen premises.1 premises.2 rfl
  | attachPicture => exact attachPicture_foreseen premises.1 rfl
  | layOut =>
    exact .bind_pure layOut_setback fun _ _ same => ⟨_, rfl, Made.isBorneOut_of_setback same⟩

/-- An action for an overview whose premises hold breaks down over nothing but a pattern, and has no
setback at all. -/
theorem makeExploration_foreseen {action : ExplorationAction} {url : Option String}
    (premises : action.Premises services stored) :
    (makeExploration services config campaignId places url action).Traces fun answer _ =>
      EndsWith none answer := by
  cases action with
  | reuse => exact .pure rfl
  | unavailable => exact .pure rfl
  | paint =>
    refine paint_traces_of_isSome premises fun request answer => ?_
    cases answer with
    | error fault => exact .pure rfl
    | ok painting => exact keepFor_endsWith

/-- Whether all that was made, if anything, has failed or has a grid, made or stored. -/
def GriddedResult (stored : Option Fields) (answer : Except Breakdown (Made κ)) : Prop :=
  ∀ made, answer = .ok made → StoresGrid stored ∨ made.GridOrFailed

/-- An action for a battle map whose premises hold fails or comes to a grid, unless one is
stored. -/
theorem makeCombat_gridded {action : CombatAction} {event : Event κ → Prop} {url : Option String}
    (premises : action.Premises services stored) :
    (makeCombat services config campaignId spec url action).Yields event
      (GriddedResult stored) := by
  have fresh {work : Work σ κ (Made κ)} (settles : work.Yields event Made.GridOrFailed) :
      (work >>= fun made => pure (.ok made)).Yields event (GriddedResult stored) := by
    refine .bind settles fun made settled => .pure ?_
    rintro _ ⟨⟩
    exact .inr settled
  cases action with
  | reuse => exact .pure fun _ _ => .inl premises
  | readStored => exact fresh (readStored_gridOrFailed rfl)
  | paintAndRead =>
    exact (paintAndRead_gridOrFailed rfl).mono fun _ settled made ok => .inr (settled made ok)
  | attachPicture => exact Yields.mono .any fun _ _ _ _ => .inl premises.2
  | layOut => exact fresh (layOut_gridOrFailed rfl)

end Actions

/-! ## Drafts -/

/-- There is a draft of a battle map exactly if a complete grid is stored or one has been made. -/
theorem isSome_combat?_iff {fresh : Option BattleMap} {url : Option String} :
    (Draft.combat? campaignId spec stored fresh url).isSome ↔ StoresGrid stored ∨ fresh.isSome := by
  rw [storesGrid_iff, hasGrid_of, Draft.combat?, Option.isSome_map, Draft.grid?]
  cases stored with
  | none => simp
  | some document =>
    cases complete : Document.hasCompleteGrid document <;> simp [Option.filter, complete]

/-- The keys that are read from a stored document before it is known what becomes of the map. -/
def readKeys : List String := ["backgroundImageUrl", "tileData", "regions"]

/-- Where a member of a draft comes from: from the stored document, which is there and has it, from
the map that was made, or from the place where the new picture was kept. -/
inductive Origin (stored : Option Fields) (fresh : Option BattleMap) (events : List (Event κ))
    (key : String) (v : Json) : Prop where
  | stored {document : Fields} (there : stored = some document) (found : document.get? key = some v)
  | made {m : BattleMap} (accepted : fresh = some m) (given : freshMember m key = some v)
  | kept {url : String} (answered : keptUrl events = some url) (given : v = .text url)

theorem origin_of_url {url : String}
    (named : (stored.bind Document.pictureUrl?).or (keptUrl events) = some url)
    (fresh : Option BattleMap) :
    Origin stored fresh events "backgroundImageUrl" (.text url) := by
  rcases Option.or_eq_some_iff.mp named with there | ⟨-, answered⟩
  · obtain ⟨document, there, found⟩ := Option.bind_eq_some_iff.mp there
    have found := (pictureUrl?_eq_some_iff.mp found).1
    exact .stored there ((Fields.get?_eq_some_iff (by simp)).mpr found)
  · exact .kept answered rfl

/-- The tiles and the regions of a grid that is taken over are there. -/
theorem origin_of_gridMember {fresh : Option BattleMap} {v : Json}
    (read : key = "tileData" ∨ key = "regions") (said : gridMember stored fresh key = some v) :
    Origin stored fresh events key v := by
  rw [gridMember] at said
  cases taken : stored.filter Document.hasCompleteGrid with
  | none =>
    rw [taken] at said
    obtain ⟨m, accepted, given⟩ := Option.bind_eq_some_iff.mp said
    exact .made accepted given
  | some document =>
    obtain ⟨there, complete⟩ := Option.filter_eq_some_iff.mp taken
    obtain ⟨tiles, regions, foundTiles, -, foundRegions, -⟩ :=
      Draft.hasCompleteGrid_iff.mp complete
    rw [taken] at said
    refine .stored there ?_
    rcases read with rfl | rfl
    · obtain rfl := Option.some.inj said
      rw [Fields.get?_eq_some_iff (by simp [foundTiles])]
    · obtain rfl := Option.some.inj said
      rw [Fields.get?_eq_some_iff (by simp [foundRegions])]

/-- Whatever a draft says under the keys that are read was there to be read, or has been made. -/
theorem Spec.origin_of_draft {spec : Spec} {d : Draft}
    (drafted : spec.draft? campaignId stored made = some d)
    (url : made.url = (stored.bind Document.pictureUrl?).or (keptUrl events)) :
    ∀ key ∈ readKeys, ∀ v, d.fields.get? key = some v →
      Origin stored made.grid events key v := by
  intro key read v said
  rw [Spec.get?_draft drafted] at said
  have picture (named : (made.url.filter (· ≠ "")).map .text = some v) :
      Origin stored made.grid events "backgroundImageUrl" v := by
    obtain ⟨u, filled, rfl⟩ := Option.map_eq_some_iff.mp named
    exact origin_of_url (url ▸ (Option.filter_eq_some_iff.mp filled).1) made.grid
  simp only [readKeys, List.mem_cons, List.not_mem_nil, or_false] at read
  cases spec with
  | combat spec =>
    rcases read with rfl | rfl | rfl
    · exact picture said
    · exact origin_of_gridMember (.inl rfl) said
    · exact origin_of_gridMember (.inr rfl) said
  | exploration places =>
    rcases read with rfl | rfl | rfl
    · exact picture said
    · contradiction
    · contradiction

/-! ## Calls -/

/-- What holds of a call, given its making and what it leaves: it relies on nothing that is not
there. -/
structure Foreseen (services : Services σ κ) (config : Config κ) (campaignId : String) (spec : Spec)
    (table : Table) (making : Done σ κ (Except Breakdown (Made κ))) (r : Regenerated κ) : Prop where
  -- What is left is what is decided on what has been made.
  decided : r = (spec.decide campaignId (storedFor campaignId spec table) making.result
    (services.now making.world)).apply table
  premises : spec.Premises services (storedFor campaignId spec table)
  painter : r.outcome ≠ .error .noPainter
  reader : ∀ made, making.result = .ok made → made.setback ≠ some .noReader
  grid : ∀ mapId, r.outcome ≠ .error (.noGrid mapId)
  result : ForeseenResult services config spec making.result making.events
  origin : ∀ made d, making.result = .ok made →
    spec.draft? campaignId (storedFor campaignId spec table) made = some d →
      ∀ key ∈ readKeys, ∀ v, d.fields.get? key = some v →
        Origin (storedFor campaignId spec table) made.grid making.events key v

section Calls

variable [Amount κ]

/-- Whatever is stored, making breaks down over nothing but a pattern, and every setback is borne
out. -/
theorem Spec.make_foreseen (services : Services σ κ) (config : Config κ) (campaignId : String)
    (stored : Option Fields) (spec : Spec) :
    (spec.make services config campaignId stored).Traces
      (ForeseenResult services config spec) := by
  cases spec with
  | combat spec => exact makeCombat_foreseen (CombatAction.premises_plan services stored)
  | exploration places =>
    exact (makeExploration_foreseen (ExplorationAction.premises_plan services stored)).mono
      fun _ _ ends => ends.foreseen

/-- Whatever is stored, there is a draft of what has been made without a failure. -/
theorem Spec.make_drafts (services : Services σ κ) (config : Config κ) (campaignId : String)
    (stored : Option Fields) (spec : Spec) :
    (spec.make services config campaignId stored).Traces fun answer _ =>
      ∀ made, answer = .ok made → made.error = none →
        (spec.draft? campaignId stored made).isSome := by
  cases spec with
  | combat spec =>
    have gridded : (makeCombat services config campaignId spec (stored.bind Document.pictureUrl?)
        (.plan (.of stored) services.paintsBattleMaps)).Yields (fun _ => True)
        (GriddedResult stored) :=
      makeCombat_gridded (CombatAction.premises_plan services stored)
    have honest := Spec.make_honest services config campaignId stored (.combat spec)
    refine (gridded.traces.and honest).mono ?_
    rintro answer events ⟨gridded, honest⟩ made ok silent
    rw [Spec.draft?, isSome_combat?_iff]
    rcases gridded (fun _ _ => trivial) made ok with complete | failed | ⟨-, fresh⟩
    · exact .inl complete
    -- what has failed has a reason
    · have given := (honest made ok).failed_iff.mp failed
      rw [silent] at given
      contradiction
    · exact .inr fresh
  | exploration places => exact fun _ _ _ _ => rfl

omit [Amount κ] in
/-- A decision on a draft breaks down over nothing but a conflict. -/
theorem Draft.exists_conflict_of_decide {d : Draft} {url : Option String} {outcome : Outcome κ}
    {b : Breakdown}
    (ended : ((d.decide campaignId stored url outcome now).apply table).outcome = .error b) :
    ∃ c, b = .conflict c := by
  rw [decide] at ended
  dsimp only at ended
  split_ifs at ended
  · contradiction
  · rw [Decision.apply] at ended
    split at ended
    · contradiction
    · exact ⟨_, (Except.error.inj ended).symm⟩
  · exact ⟨_, (Except.error.inj ended).symm⟩

/-- A call breaks down over nothing but a bad pattern or a conflict. -/
theorem regenerate_breaksDown {spec : Spec} {b : Breakdown} {world : σ}
    (ended : ((regenerate services config campaignId spec table).run world).result.outcome =
      .error b) :
    (∃ fault, b = .badPattern fault) ∨ ∃ c, b = .conflict c := by
  rcases making : (spec.make services config campaignId (storedFor campaignId spec table)).run
    world with ⟨answer, events, later⟩
  have foreseen := Spec.make_foreseen services config campaignId (storedFor campaignId spec table)
    spec world
  have drafts := Spec.make_drafts services config campaignId (storedFor campaignId spec table) spec
    world
  rw [making] at foreseen drafts
  rw [run_regenerate making] at ended
  cases answer with
  | error b' =>
    obtain rfl := Except.error.inj ended
    exact .inl foreseen
  | ok made =>
    cases silent : made.error with
    | some e => simp [Spec.decide, silent, Decision.apply] at ended
    | none =>
      obtain ⟨d, drafted⟩ := Option.isSome_iff_exists.mp (drafts made rfl silent)
      rw [Spec.decide_ok silent drafted] at ended
      exact .inr (Draft.exists_conflict_of_decide ended)

/-- Whatever is stored under the id of the map, whichever services are at hand and whatever they
answer, a call comes to no branch that is not meant to be taken. What its action relies on is there.
It breaks down neither for want of a painter nor for want of a grid. It never falls back on prose
because nobody reads pictures, but only for a setback that is borne out. And whatever it takes from
the stored document of the picture, the tiles and the regions is there to be taken. -/
theorem regenerate_foreseen (services : Services σ κ) (config : Config κ) (campaignId : String)
    (spec : Spec) (table : Table) (world : σ) :
    Foreseen services config campaignId spec table
      ((spec.make services config campaignId (storedFor campaignId spec table)).run world)
      ((regenerate services config campaignId spec table).run world).result where
  decided := by
    rw [run_regenerate rfl]
    rfl
  premises := Spec.premises services _ spec
  painter := by
    intro ended
    rcases regenerate_breaksDown ended with ⟨_, absent⟩ | ⟨_, absent⟩ <;> contradiction
  reader := by
    intro made ok missed
    have foreseen := Spec.make_foreseen services config campaignId (storedFor campaignId spec table)
      spec world
    rw [ok] at foreseen
    have borneOut := foreseen .noReader missed
    cases spec <;> exact borneOut
  grid := by
    intro mapId ended
    rcases regenerate_breaksDown ended with ⟨_, absent⟩ | ⟨_, absent⟩ <;> contradiction
  result := Spec.make_foreseen services config campaignId _ spec world
  origin := by
    intro made d ok drafted
    have merges := Spec.make_merges services config campaignId (storedFor campaignId spec table)
      spec world
    exact Spec.origin_of_draft drafted (merges made ok).2

end Calls

end BattleMaps
