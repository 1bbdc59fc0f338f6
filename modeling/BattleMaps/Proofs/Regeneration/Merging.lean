import BattleMaps.Proofs.Regeneration.Keeping

/-!
# What a call stores

The document that a call leaves under the id of its map is a merge of three sources. What the
specification says is always taken from the specification. The grid is the stored one, with all its
members, if that is complete, and otherwise the one that has just been made. The address of the
picture is the stored one if there is one, and otherwise the one that a new picture was kept under.
Where the merge says nothing new, the stored document stays with its time stamp; otherwise the merge
is stored with a new one.

## Main definitions

* `freshMap` — the map that an answer of the call has become, if any
* `Spec.merged` — what the merge says under a key

## Main results

* `Spec.make_merges` — making comes to the fresh map, and to the stored address or a new one
* `Spec.get?_draft` — a draft is the merge, key by key
* `Spec.decide_stores` — what a decision on what has been made leaves in the store
* `regenerate_stores_merge` — what is stored after a call
-/

namespace BattleMaps

open Store (Table)
open Work (Traces)
open Fields (HasDistinctKeys)

variable {σ κ : Type} {services : Services σ κ} {config : Config κ} {spec : CombatSpec}
  {places : ExplorationSpec} {campaignId mapId key : String} {made : Made κ}
  {events later : List (Event κ)} {stored : Option Fields} {picture : Option Picture}
  {url : Option String}

/-! ## Fresh maps -/

/-- The map that an answer has become, if it has become one. -/
def Event.map? (config : Config κ) (spec : CombatSpec) : Event κ → Option BattleMap
  | .completed request (.ok reply) =>
    (judge spec (approach request.picture).encoding config.minWalkable reply.text).toOption
  | _ => none

/-- The first map that an answer has become, if any has. -/
def freshMap (config : Config κ) (spec : CombatSpec) (events : List (Event κ)) : Option BattleMap :=
  events.findSome? (Event.map? config spec)

theorem freshMap_cons (e : Event κ) :
    freshMap config spec (e :: events) = (e.map? config spec).or (freshMap config spec events) := by
  rw [freshMap, List.findSome?_cons]
  cases e.map? config spec <;> rfl

theorem freshMap_append :
    freshMap config spec (events ++ later) =
      (freshMap config spec events).or (freshMap config spec later) :=
  List.findSome?_append

theorem freshMap_eq_none (h : ∀ e ∈ events, ¬ e.isCompletion) :
    freshMap config spec events = none := by
  refine List.findSome?_eq_none_iff.mpr fun e found => ?_
  cases e with
  | completed request answer => exact absurd trivial (h _ found)
  | _ => rfl

/-- Whether making has come to the map and to the address that its events lead to. -/
structure Made.Merges (config : Config κ) (spec : CombatSpec) (url : Option String) (made : Made κ)
    (events : List (Event κ)) : Prop where
  grid_eq : made.grid = freshMap config spec events
  url_eq : made.url = url.or (keptUrl events)

/-- Events that lead to nothing may come before. -/
theorem Made.Merges.after {before : List (Event κ)} (h : made.Merges config spec url events)
    (barren : freshMap config spec before = none) (unkept : keptUrl before = none) :
    made.Merges config spec url (before ++ events) where
  grid_eq := by rw [freshMap_append, barren, Option.none_or, h.grid_eq]
  url_eq := by rw [keptUrl_append, unkept, Option.none_or, h.url_eq]

theorem keptUrl_of_completions (h : ∀ e ∈ events, e.isCompletion) : keptUrl events = none :=
  keptUrl_eq_none fun e found => Event.not_isPictorial_of_isCompletion (h e found)

section Making

variable [Amount κ]

/-- Asking ends with the first answer that becomes a map. -/
theorem askRepeatedly_fresh (left asked : Nat) (cost : κ) (lastError : String) :
    (askRepeatedly services config spec picture left asked cost lastError).Traces
      fun result events => result.toOption.map (·.map) = freshMap config spec events := by
  induction left generalizing asked cost lastError with
  | zero =>
    rw [askRepeatedly]
    exact .pure rfl
  | succ left ih =>
    rw [askRepeatedly]
    refine .bind .ask fun answer before noted => ?_
    subst noted
    cases answer with
    | error fault => exact (ih _ _ _).mono fun result after fresh => fresh
    | ok reply =>
      have first : freshMap config spec [.completed (gridRequest config spec picture) (.ok reply)] =
          (judge spec (approach picture).encoding config.minWalkable reply.text).toOption := by
        rw [freshMap, List.findSome?_singleton, Event.map?, picture_gridRequest]
      dsimp only
      split
      · rename_i m accepted
        refine .pure ?_
        rw [List.append_nil, first, accepted]
        rfl
      · rename_i why rejected
        refine (ih _ _ _).mono fun result after fresh => ?_
        rw [freshMap_append, first, rejected, fresh]
        rfl

theorem generate_fresh :
    (generate services config spec picture).Traces fun result events =>
      result.toOption.map (·.map) = freshMap config spec events ∧ keptUrl events = none := by
  refine Traces.mono (Traces.and (askRepeatedly_fresh _ _ _ _) generate_ensures.traces) ?_
  rintro result events ⟨fresh, completions, -⟩
  exact ⟨fresh, keptUrl_of_completions completions⟩

theorem layOut_merges (bare : made.grid = none) :
    (layOut services config spec made).Traces (Made.Merges config spec made.url) := by
  refine .bind_pure generate_fresh fun answer events asked => ?_
  obtain ⟨fresh, unkept⟩ := asked
  cases answer with
  | ok generated => exact ⟨_, rfl, fresh, by rw [unkept, Option.or_none]; rfl⟩
  | error e => exact ⟨_, rfl, bare.trans fresh, by rw [unkept, Option.or_none]; rfl⟩

theorem fallBack_merges {setback : Setback κ} (bare : made.grid = none) :
    (fallBack services config spec made setback).Traces (Made.Merges config spec made.url) := by
  have start : ({ made with path := fallbackPath, setback := some setback } : Made κ).grid = none :=
    bare
  exact layOut_merges start

theorem readPicture_merges {picture : Picture} (bare : made.grid = none) :
    (readPicture services config spec picture made).Traces (Made.Merges config spec made.url) := by
  unfold readPicture
  split_ifs
  · refine .bind generate_fresh fun answer before asked => ?_
    obtain ⟨fresh, unkept⟩ := asked
    cases answer with
    | ok generated =>
      refine .pure ?_
      rw [List.append_nil]
      exact ⟨fresh, by rw [unkept, Option.or_none]; rfl⟩
    | error e =>
      have unpaid : (made.payCompletions e.cost).grid = none := bare
      exact (fallBack_merges unpaid).mono fun _ _ merges => merges.after fresh.symm unkept
  · exact fallBack_merges bare

theorem readStored_merges (bare : made.grid = none) :
    (readStored services config spec made).Traces (Made.Merges config spec made.url) := by
  unfold readStored
  split
  · refine .bind .ask fun answer before noted => ?_
    subst noted
    cases answer with
    | ok bytes => exact (readPicture_merges bare).mono fun _ _ merges => merges.after rfl rfl
    | error fault => exact (fallBack_merges bare).mono fun _ _ merges => merges.after rfl rfl
  · exact fallBack_merges bare

/-! ## Pictures -/

omit [Amount κ] in
/-- An address that keeping a picture has come to is the one that it was kept under. -/
theorem Keeps.url_eq {answer : Option String}
    (h : Keeps services config campaignId mapId (.ok answer) events) : answer = keptUrl events := by
  by_cases expands : Expands services config campaignId mapId
  · exact Except.ok.inj (h.kept expands)
  · obtain ⟨place, bad⟩ := Classical.not_imp.mp expands
    cases expanded : PathPattern.expand config.pathPattern campaignId mapId with
    | ok path =>
      rw [expanded] at bad
      exact absurd rfl bad
    | error fault => exact absurd (h.lost place fault expanded) (by simp)

/-- Whether all that was made, if anything, has come to the map and the address of the events. -/
def MergedResult (config : Config κ) (spec : CombatSpec) (url : Option String)
    (result : Except Breakdown (Made κ)) (events : List (Event κ)) : Prop :=
  ∀ made, result = .ok made → made.Merges config spec url events

omit [Amount κ] in
theorem mergedResult_ok (h : made.Merges config spec url events) :
    MergedResult config spec url (.ok made) events := by
  rintro _ ⟨⟩
  exact h

omit [Amount κ] in
/-- The picture is kept after all else, and the address that it is kept under is the new one. -/
theorem keepFor_merges {picture : Picture} {before : List (Event κ)}
    (grid : made.grid = freshMap config spec before) (unkept : keptUrl before = none) :
    (keepFor services config campaignId mapId picture made).Traces fun answer events =>
      MergedResult config spec none answer (before ++ events) := by
  have keeps : (keepPicture services config campaignId mapId picture).Traces
      (Keeps services config campaignId mapId) := keepPicture_keeps
  refine (keeps.and keepPicture_ensures.traces).bind_pure fun answer events kept => ?_
  obtain ⟨keeps, silent, -⟩ := kept
  cases answer with
  | ok kept =>
    refine ⟨_, rfl, mergedResult_ok ⟨?_, ?_⟩⟩
    · rw [freshMap_append, freshMap_eq_none silent, Option.or_none, ← grid]
    · rw [keptUrl_append, unkept, Option.none_or, Option.none_or, ← keeps.url_eq]
  | error fault => exact ⟨_, rfl, fun _ absent => nomatch absent⟩

theorem paintAndRead_merges (bare : made.grid = none) (unseen : made.url = none) :
    (paintAndRead services config campaignId spec made).Traces
      (MergedResult config spec none) := by
  refine paint_traces (fun _ absent => nomatch absent) fun request answer => ?_
  cases answer with
  | error fault =>
    refine .bind_pure (fallBack_merges bare) fun after events merges => ⟨_, rfl, ?_⟩
    rw [unseen] at merges
    exact mergedResult_ok (merges.after rfl rfl)
  | ok painting =>
    have unpaid : (made.payPicture painting.cost).grid = none := bare
    have keeps : (made.payPicture painting.cost).Keeps config spec none :=
      ⟨fun m there => (nomatch unpaid.symm.trans there), unseen⟩
    refine .bind (Traces.and (readPicture_merges unpaid) (readPicture_ensures keeps).traces)
      fun read reading promised => ?_
    obtain ⟨merges, completions, -⟩ := promised
    have unkept : keptUrl reading = none := keptUrl_of_completions completions
    have url : (made.payPicture painting.cost).url = none := unseen
    rw [url] at merges
    have merges : read.Merges config spec none ([.painted request (.ok painting)] ++ reading) :=
      merges.after rfl rfl
    split_ifs with setback
    · refine .pure (mergedResult_ok ?_)
      rwa [List.append_nil]
    · exact keepFor_merges merges.grid_eq unkept

theorem attachPicture_merges (bare : made.grid = none) :
    (attachPicture services config campaignId spec made).Traces
      (MergedResult config spec none) := by
  refine paint_traces (fun _ absent => nomatch absent) fun request answer => ?_
  cases answer with
  | error fault => exact .pure (mergedResult_ok ⟨bare, rfl⟩)
  | ok painting => exact keepFor_merges bare rfl

/-! ## Actions -/

/-- Carrying out what is planned for a battle map comes to the map that an answer has become, and to
the address that is stored or else the one that a new picture was kept under. -/
theorem makeCombat_merges (paints : Bool) :
    (makeCombat services config campaignId spec (stored.bind Document.pictureUrl?)
        (.plan (.of stored) paints)).Traces
      (MergedResult config spec (stored.bind Document.pictureUrl?)) := by
  have planned := CombatAction.isPlanned_of stored paints
  generalize CombatAction.plan (.of stored) paints = action at planned ⊢
  generalize stored.bind Document.pictureUrl? = url at planned ⊢
  cases planned with
  | reuse => exact .pure (mergedResult_ok ⟨rfl, Option.or_none.symm⟩)
  | layOut =>
    exact .bind_pure (layOut_merges rfl) fun _ _ merges => ⟨_, rfl, mergedResult_ok merges⟩
  | readStored =>
    exact .bind_pure (readStored_merges rfl) fun _ _ merges => ⟨_, rfl, mergedResult_ok merges⟩
  -- A new picture is painted only where none is stored.
  | attachPicture _ _ unseen =>
    obtain rfl := Option.not_isSome_iff_eq_none.mp unseen
    exact attachPicture_merges rfl
  | paintAndRead _ _ unseen =>
    obtain rfl := Option.not_isSome_iff_eq_none.mp unseen
    exact paintAndRead_merges rfl rfl

/-- Carrying out what is planned for an overview comes to no map, and to the address that is stored
or else the one that a new picture was kept under. -/
theorem makeExploration_merges (paints : Bool) :
    (makeExploration services config campaignId places (stored.bind Document.pictureUrl?)
        (.plan (.of stored) paints)).Traces fun answer events =>
      ∀ made, answer = .ok made → made.grid = none ∧
        made.url = (stored.bind Document.pictureUrl?).or (keptUrl events) := by
  rw [ExplorationAction.plan, hasPicture_of]
  generalize stored.bind Document.pictureUrl? = url
  split_ifs with there paintable
  · refine .pure ?_
    rintro _ ⟨⟩
    exact ⟨rfl, Option.or_none.symm⟩
  · obtain rfl : url = none := by simpa using there
    refine paint_traces (by simp) fun request answer => ?_
    cases answer with
    | error fault =>
      refine .pure ?_
      rintro _ ⟨⟩
      exact ⟨rfl, rfl⟩
    | ok painting =>
      refine .bind_pure keepPicture_keeps fun answer events keeps => ?_
      cases answer with
      | ok kept =>
        refine ⟨_, rfl, ?_⟩
        rintro _ ⟨⟩
        exact ⟨rfl, keeps.url_eq⟩
      | error fault => exact ⟨_, rfl, by simp⟩
  · refine .pure ?_
    rintro _ ⟨⟩
    exact ⟨rfl, Option.or_none.symm⟩

end Making

/-! ## The merge -/

/-- The map that a call has made afresh, if it is for a battle map and an answer has become one. -/
def Spec.freshMap (config : Config κ) (events : List (Event κ)) : Spec → Option BattleMap
  | .combat spec => BattleMaps.freshMap config spec events
  | .exploration _ => none

/-- What a complete stored grid says under a key. -/
def storedMember (document : Fields) : String → Option Json
  | "tileData" => some (document.value "tileData")
  | "regions" => some (document.value "regions")
  | "tileEncoding" => some (Draft.givenOr document "tileEncoding" Encoding.legacy.name)
  | "confidence" => some (Draft.givenOr document "confidence" Confidence.medium.name)
  | _ => none

/-- What a fresh map says under a key. -/
def freshMember (m : BattleMap) : String → Option Json
  | "tileData" => some (.array (m.grid.cells.map fun tile : Nat => .int tile))
  | "regions" => some (.array (m.regions.map Region.toJson))
  | "tileEncoding" => some (.text m.grid.encoding.name)
  | "confidence" => some (.text m.confidence.name)
  | _ => none

/-- What the grid of a battle map says under a key: all of it is stored, or all of it is fresh. -/
def gridMember (stored : Option Fields) (fresh : Option BattleMap) (key : String) : Option Json :=
  match stored.filter Document.hasCompleteGrid with
  | some document => storedMember document key
  | none => fresh.bind (freshMember · key)

/-- What the merge for a battle map says under a key. -/
def CombatSpec.merged (campaignId : String) (stored : Option Fields) (fresh : Option BattleMap)
    (url : Option String) (spec : CombatSpec) : String → Option Json
  | "campaignId" => some (.text campaignId)
  | "mapSpecId" => some (.text spec.id)
  | "mapType" => some (.text "combat")
  | "name" => some (.text spec.name)
  | "gridSize" => some (.int gridSize)
  | "feetPerSquare" => some (.int spec.feetPerSquare)
  | "backgroundImageUrl" => (url.filter (· ≠ "")).map .text
  | key => gridMember stored fresh key

/-- What the merge for an overview says under a key. -/
def ExplorationSpec.merged (campaignId : String) (url : Option String) (places : ExplorationSpec) :
    String → Option Json
  | "campaignId" => some (.text campaignId)
  | "mapSpecId" => some (.text places.id)
  | "mapType" => some (.text "exploration")
  | "name" => some (.text places.name)
  | "feetPerSquare" => some (.int places.feetPerSquare)
  | "pointsOfInterest" => some (.array (places.points.map PointOfInterest.toJson))
  | "backgroundImageUrl" => (url.filter (· ≠ "")).map .text
  | _ => none

/-- What the merge of a specification, the stored document, a fresh map and the address of a picture
says under a key. -/
def Spec.merged (campaignId : String) (stored : Option Fields) (fresh : Option BattleMap)
    (url : Option String) : Spec → String → Option Json
  | .combat spec => spec.merged campaignId stored fresh url
  | .exploration places => places.merged campaignId url

/-- A grid is that of the stored document or of the fresh map, key by key. -/
theorem get?_grid {grid : Fields} {fresh : Option BattleMap}
    (h : Draft.grid? stored fresh = some grid) : grid.get? key = gridMember stored fresh key := by
  rw [Draft.grid?] at h
  rw [gridMember]
  cases complete : stored.filter Document.hasCompleteGrid with
  | some document =>
    simp only [complete] at h
    rw [← Option.some.inj h, Draft.storedGrid]
    dsimp only
    unfold storedMember
    split <;> simp_all [Fields.get?_cons]
  | none =>
    simp only [complete] at h
    obtain ⟨m, rfl, rfl⟩ := Option.map_eq_some_iff.mp h
    rw [Draft.newGrid]
    dsimp only [Option.bind_some]
    unfold freshMember
    split <;> simp_all [Fields.get?_cons]

theorem gridMember_picture {fresh : Option BattleMap} :
    gridMember stored fresh "backgroundImageUrl" = none := by
  unfold gridMember
  split
  · rfl
  · cases fresh <;> rfl

/-- A draft of a battle map is the merge, key by key. -/
theorem get?_combat {d : Draft} {fresh : Option BattleMap}
    (h : Draft.combat? campaignId spec stored fresh url = some d) :
    d.fields.get? key = spec.merged campaignId stored fresh url key := by
  obtain ⟨grid, given, fields⟩ := Draft.combat?_eq_some h
  rw [fields, Draft.picture, Fields.get?_append, Fields.get?_append, Fields.get?_append,
    get?_grid given, Draft.common]
  unfold CombatSpec.merged
  split <;>
    simp_all [MapType.name, Fields.get?_cons, Fields.get?_optionalText, gridMember_picture]

/-- A draft of an overview is the merge, key by key. -/
theorem get?_exploration :
    (Draft.exploration campaignId places url).fields.get? key =
      places.merged campaignId url key := by
  rw [Draft.exploration, Draft.picture]
  unfold ExplorationSpec.merged
  split <;>
    simp_all [Draft.common, MapType.name, Fields.get?_cons, Fields.get?_optionalText]

/-- A draft is the merge, key by key. -/
theorem Spec.get?_draft {spec : Spec} {d : Draft}
    (h : spec.draft? campaignId stored made = some d) :
    d.fields.get? key = spec.merged campaignId stored made.grid made.url key := by
  cases spec with
  | combat spec => exact get?_combat h
  | exploration places =>
    obtain rfl := Option.some.inj h
    exact get?_exploration

/-! ## What is stored -/

/-- Whether a document is what the merge says, key by key, apart from the time stamp. -/
def Says (merged : String → Option Json) (document : Fields) : Prop :=
  ∀ key, key ≠ timeStampKey →
    Option.Rel (fun v w : Json => v.agrees w) (merged key) (document.get? key)

/-- The members of a draft are distinct, and none of them is a time stamp. -/
theorem Draft.distinct_fields {d : Draft} {now : Int}
    (distinct : HasDistinctKeys (d.document now)) :
    HasDistinctKeys d.fields ∧ ∀ m ∈ d.fields, m.1 ≠ timeStampKey := by
  rw [HasDistinctKeys, Draft.document, List.map_append, List.nodup_append] at distinct
  exact ⟨distinct.1, fun m member =>
    distinct.2.2 m.1 (List.mem_map_of_mem member) timeStampKey (by simp)⟩

/-- A document that a draft says nothing new about says what the draft says. -/
theorem Draft.says_of_isUnchanged {d : Draft} {document : Fields}
    (distinct : HasDistinctKeys (d.document 0)) (same : d.isUnchanged document) :
    Says d.fields.get? document := by
  obtain ⟨distinct, unstamped⟩ := distinct_fields distinct
  rw [isUnchanged, Bool.and_eq_true, Bool.and_eq_true, beq_iff_eq, List.all_eq_true] at same
  obtain ⟨⟨-, length⟩, agree⟩ := same
  have agrees : (Json.object d.fields).agrees (.object (document.erase timeStampKey)) := by
    rw [Json.agrees, length, beq_self_eq_true, Bool.true_and, Json.agreesFields_iff]
    intro m member
    have there := agree m member
    unfold agreesAt at there
    split at there
    · rename_i w found
      exact ⟨w, by rw [Fields.get?_erase, if_neg (unstamped m member), found], there⟩
    · contradiction
  intro key other
  have rel := Json.rel_get?_of_agrees distinct agrees key
  rwa [Fields.get?_erase, if_neg other] at rel

/-- What is read back of a draft says what the draft says, and has its time stamp. -/
theorem Draft.says_readFields {d : Draft} {now : Int}
    (regular : Json.Regular Json.maxDepth (d.stamped now)) (writable : (d.stamped now).isWritable) :
    Says d.fields.get? (Json.readFields (d.stamped now).write) ∧
      Fields.get? (Json.readFields (d.stamped now).write) timeStampKey = some (.int now) := by
  have distinct : HasDistinctKeys (d.document now) := by
    cases regular with
    | object distinct => exact distinct
  have read := Json.rearranged_readFields_write regular writable
  constructor
  · intro key other
    have rel := Json.rel_get?_of_agrees distinct (regular.agrees_of_rearranged read.symm) key
    rwa [document, Fields.get?_append, Fields.get?_cons, if_neg other, Fields.get?_nil,
      Option.or_none] at rel
  · have unstamped : d.fields.get? timeStampKey = none := by
      refine List.lookup_eq_none_iff.mpr fun m member => ?_
      simpa using ((distinct_fields distinct).2 m member).symm
    rw [stamped, Json.readFields_write regular writable, ← document, Json.get?_sorted distinct,
      document, Fields.get?_append, unstamped, Fields.get?_cons, if_pos rfl]
    rfl

/-- What the decision on a draft leaves in the store: what is there already, with its time stamp, or
what is read back of the draft, with the time. -/
theorem Draft.decide_stores {d : Draft} {table : Table} {now : Int} (outcome : Outcome κ)
    {o : Outcome κ} (regular : ∀ now, Json.Regular Json.maxDepth (d.stamped now))
    (unwritten : outcome.written = false)
    (ended : ((d.decide campaignId (table.document? (documentId campaignId outcome.mapId)) url
      outcome now).apply table).outcome = .ok o) :
    ∃ document, ((d.decide campaignId (table.document? (documentId campaignId outcome.mapId)) url
        outcome now).apply table).table.document? (documentId campaignId outcome.mapId) =
          some document ∧ Says d.fields.get? document ∧
      document.get? timeStampKey = if o.written then some (.int now)
        else (table.document? (documentId campaignId outcome.mapId)).bind
          (·.get? timeStampKey) := by
  rw [Draft.decide] at ended ⊢
  by_cases same : (table.document? (documentId campaignId outcome.mapId)).any fun document =>
      d.isUnchanged document
  · rw [if_pos same] at ended ⊢
    obtain ⟨document, found, same⟩ := (Option.any_eq_true ..).mp same
    obtain rfl := Except.ok.inj ended
    have distinct : HasDistinctKeys (d.document 0) := by
      cases regular 0 with
      | object distinct => exact distinct
    refine ⟨document, found, says_of_isUnchanged distinct same, ?_⟩
    simp [unwritten, found]
  · rw [if_neg same] at ended ⊢
    by_cases writable : (d.stamped now).isWritable
    · rw [if_pos writable] at ended ⊢
      dsimp only [Decision.apply] at ended ⊢
      split at ended
      · rename_i after put
        obtain rfl := Except.ok.inj ended
        obtain ⟨told, stamp⟩ := says_readFields (regular now) writable
        exact ⟨_, Table.document?_of_put_eq_ok put, told, stamp⟩
      · contradiction
    · rw [if_neg writable] at ended
      contradiction

theorem Spec.make_merges [Amount κ] (services : Services σ κ) (config : Config κ)
    (campaignId : String) (stored : Option Fields) (spec : Spec) :
    (spec.make services config campaignId stored).Traces fun answer events =>
      ∀ made, answer = .ok made → made.grid = spec.freshMap config events ∧
        made.url = (stored.bind Document.pictureUrl?).or (keptUrl events) := by
  cases spec with
  | combat spec =>
    exact (makeCombat_merges _).mono fun answer events merged made ok =>
      ⟨(merged made ok).grid_eq, (merged made ok).url_eq⟩
  | exploration places => exact makeExploration_merges _

/-- Whatever is done for a map, it fails exactly if a reason is given. -/
theorem Spec.make_honest [Amount κ] (services : Services σ κ) (config : Config κ)
    (campaignId : String) (stored : Option Fields) (spec : Spec) :
    (spec.make services config campaignId stored).Traces fun answer _ => HonestResult answer := by
  have honest : (spec.make services config campaignId stored).Yields (fun _ => True)
      HonestResult := by
    cases spec with
    | combat spec => exact makeCombat_honest _
    | exploration places => exact makeExploration_honest _
  exact honest.traces.mono fun _ _ honest => honest fun _ _ => trivial

theorem Spec.regular_draft {spec : Spec} {table : Table} {d : Draft} {id : String} {now : Int}
    (h : spec.draft? campaignId (table.document? id) made = some d) :
    Json.Regular Json.maxDepth (d.stamped now) := by
  cases spec with
  | combat spec => exact Draft.regular_combat h regular_of_mem_document?
  | exploration places =>
    obtain rfl := Option.some.inj h
    exact Draft.regular_exploration

/-- A draft of a battle map has the stored grid or a fresh one. -/
theorem Spec.exists_grid_of_draft {spec : Spec} {d : Draft} (combat : spec.mapType = .combat)
    (h : spec.draft? campaignId stored made = some d) :
    stored.any Document.hasCompleteGrid ∨ made.grid.isSome := by
  cases spec with
  | combat spec =>
    obtain ⟨grid, given, -⟩ := Draft.combat?_eq_some h
    rcases Draft.grid?_eq_some_cases given with ⟨document, rfl, complete, -⟩ | ⟨-, m, fresh, -⟩
    · exact .inl complete
    · exact .inr (by rw [fresh, Option.isSome_some])
  | exploration places => contradiction

/-- A decision that ends without a failure is one on a draft of what has been made, and what the
draft says is then found in the store. -/
theorem Spec.decide_stores {spec : Spec} {table : Table} {answer : Except Breakdown (Made κ)}
    {now : Int} {o : Outcome κ} (honest : HonestResult answer)
    (ended : ((spec.decide campaignId (storedFor campaignId spec table) answer now).apply
      table).outcome = .ok o)
    (fine : o.status ≠ .failed) :
    ∃ made d document, answer = .ok made ∧
      spec.draft? campaignId (storedFor campaignId spec table) made = some d ∧
      storedFor campaignId spec ((spec.decide campaignId (storedFor campaignId spec table) answer
        now).apply table).table = some document ∧
      Says d.fields.get? document ∧
      document.get? timeStampKey = if o.written then some (.int now)
        else (storedFor campaignId spec table).bind (·.get? timeStampKey) := by
  cases answer with
  | error b => contradiction
  | ok made =>
    cases error : made.error with
    | some e =>
      -- What has failed has an outcome that reports it.
      simp only [Spec.decide, error, Option.isSome_some, if_true, Decision.apply] at ended
      obtain rfl := Except.ok.inj ended
      exact absurd ((honest made rfl).failed_iff.mpr (by rw [error, Option.isSome_some])) fine
    | none =>
      cases drafted : spec.draft? campaignId (storedFor campaignId spec table) made with
      | none => simp [Spec.decide, error, drafted, Decision.apply] at ended
      | some d =>
        rw [Spec.decide_ok error drafted] at ended ⊢
        obtain ⟨document, found, told, stamp⟩ :=
          Draft.decide_stores (made.outcome spec.id spec.mapType)
            (fun _ => Spec.regular_draft drafted) rfl ended
        exact ⟨made, d, document, rfl, drafted, found, told, stamp⟩

/-- Whatever is stored, whichever map is asked for, and whatever the services answer: if a call ends
without a failure, the document that is then found under the id of its map is the merge, key by key,
apart from the time stamp. That one is the time if the call has written, and otherwise the old one,
if there was one. A battle map has either its complete stored grid or a fresh one. -/
theorem regenerate_stores_merge [Amount κ] {spec : Spec} {table : Table} {world : σ} {o : Outcome κ}
    (ended : ((regenerate services config campaignId spec table).run world).result.outcome = .ok o)
    (fine : o.status ≠ .failed) :
    let done := (regenerate services config campaignId spec table).run world
    let stored := storedFor campaignId spec table
    let fresh := spec.freshMap config done.events
    let url := (stored.bind Document.pictureUrl?).or (keptUrl done.events)
    ∃ document, storedFor campaignId spec done.result.table = some document ∧
      Says (spec.merged campaignId stored fresh url) document ∧
      document.get? timeStampKey = (if o.written then some (.int (services.now done.world))
        else stored.bind (·.get? timeStampKey)) ∧
      (spec.mapType = .combat → stored.any Document.hasCompleteGrid ∨ fresh.isSome) := by
  rcases making : (spec.make services config campaignId (storedFor campaignId spec table)).run
    world with ⟨answer, events, later⟩
  have merges := Spec.make_merges services config campaignId (storedFor campaignId spec table) spec
    world
  have honest := Spec.make_honest services config campaignId (storedFor campaignId spec table) spec
    world
  rw [making] at merges honest
  rw [run_regenerate making] at ended ⊢
  dsimp only at merges honest ended ⊢
  obtain ⟨made, d, document, rfl, drafted, found, told, stamp⟩ :=
    Spec.decide_stores honest ended fine
  obtain ⟨grid, url⟩ := merges made rfl
  refine ⟨document, found, fun key other => ?_, stamp, fun combat => ?_⟩
  · rw [← grid, ← url, ← Spec.get?_draft drafted]
    exact told key other
  · rw [← grid]
    exact Spec.exists_grid_of_draft combat drafted

/-- The inn is read off a new picture and stored for the first time: its grid is the one that was
read, and its picture is the one that was kept. -/
theorem keptInn_merged :
    ∃ (o : Outcome Float) (document : Fields),
      (keptCall.make [] ()).result.outcome = .ok o ∧ o.status ≠ .failed ∧
      storedFor "isle" (.combat Proposal.innSpec) (keptCall.make [] ()).result.table =
        some document ∧
      Says (Spec.merged "isle" none (some innReading) (some "inn.webp") (.combat Proposal.innSpec))
        document ∧
      document.get? timeStampKey = if o.written then some (.int 0) else none := by
  obtain ⟨o, generated, run⟩ := make_keptCall
  have fine : o.status ≠ .failed := by simp [generated]
  have read : Event.map? Config.standard Proposal.innSpec
      (.completed (gridRequest .standard Proposal.innSpec (some emptyPicture))
        (.ok ⟨Proposal.innProposal.write, 0⟩)) = some innReading := by
    change (judge Proposal.innSpec .legacy 0.3 Proposal.innProposal.write).toOption = _
    rw [judge_innReading, Except.toOption]
  have fresh : Spec.freshMap keptCall.config (keptCall.make [] ()).events keptCall.spec =
      some innReading := by
    change freshMap Config.standard Proposal.innSpec _ = _
    rw [run, paintedEvents, List.cons_append, List.cons_append, freshMap_cons, freshMap_cons, read,
      Option.some_or]
    simp [Event.map?]
  have kept : keptUrl (keptCall.make [] ()).events = some "inn.webp" := by
    rw [run]
    rfl
  have nothing : storedFor keptCall.campaignId keptCall.spec [] = none := rfl
  have ended : (keptCall.make [] ()).result.outcome = .ok o := by rw [run]
  obtain ⟨document, found, told, stamp, -⟩ := regenerate_stores_merge ended fine
  rw [← Call.make, fresh, kept, nothing, Option.bind_none, Option.none_or] at told
  rw [nothing, Option.bind_none] at stamp
  exact ⟨o, document, ended, fine, found, told, stamp⟩

end BattleMaps
