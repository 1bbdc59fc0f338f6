import BattleMaps.Proofs.Regeneration.Drafts
import BattleMaps.Proofs.Regeneration.Endings
import BattleMaps.Proofs.Regeneration.Making

/-!
# One call after another

Maps are regenerated by calls, each with services, settings, a campaign and a map of its own; what
one call leaves in the table, the next one finds there. All that a call may do to the table is to
put one draft into it, and what the draft says follows from what is stored and from what making
promises. Whatever every call preserves holds along a whole history of calls.

## Main definitions

* `Drafted` — the drafts that a call may store
* `Saved` — what is known of a table once a draft has been put into it
* `Call`, `Step`, `history` — calls, and what they come to one after another

## Main results

* `regenerate_ensures` — all that regenerating a map may do
* `exists_follows_of_mem_history` — what every call preserves holds along every history
* `pairwise_states` — what every call leaves related is related along every history
-/

namespace BattleMaps

open Store (Table)

variable {σ κ : Type} [Amount κ] {services : Services σ κ} {config : Config κ} {campaignId : String}
  {table : Table} {event : Event κ → Prop}

/-! ## One call -/

/-- Whether the address of a picture is the stored one, if a picture is stored. -/
def KeepsPicture (stored : Option Fields) (url : Option String) : Prop :=
  ∀ u, stored.bind Document.pictureUrl? = some u → url = some u

omit [Amount κ] in
/-- Making promises to keep the address if a picture is there, and a picture is there exactly if the
stored document names one. -/
theorem keepsPicture_of_hasPicture {stored : Option Fields} {url : Option String}
    (h : (Artifacts.of stored).hasPicture → url = stored.bind Document.pictureUrl?) :
    KeepsPicture stored url := by
  intro u there
  rw [hasPicture_of, there] at h
  exact h rfl

/-- The drafts that regenerating a map may store, given what is stored under its id. -/
inductive Drafted (config : Config κ) (campaignId : String) (stored : Option Fields) :
    Spec → Draft → Prop where
  | combat {spec : CombatSpec} {made : Option BattleMap} {url : Option String} {d : Draft}
      (sound : SoundGrid config spec made) (kept : KeepsPicture stored url)
      (drafted : Draft.combat? campaignId spec stored made url = some d) :
      Drafted config campaignId stored (.combat spec) d
  | exploration {spec : ExplorationSpec} {url : Option String} (kept : KeepsPicture stored url) :
      Drafted config campaignId stored (.exploration spec) (.exploration campaignId spec url)

/-- Whether a table is left as it was, or with one draft put into it. -/
def Stores (campaignId mapId : String) (mapType : MapType) (drafts : Draft → Prop)
    (before after : Table) : Prop :=
  after = before ∨ ∃ d now, drafts d ∧ (d.stamped now).isWritable ∧
    before.put (d.row campaignId mapId mapType now) = .ok after

omit [Amount κ] in
/-- Only a draft is stored. -/
theorem Delivery.stores {mapId : String} {mapType : MapType} {stored : Option Fields}
    {drafts : Made κ → Draft → Prop} {answer : Except Breakdown (Made κ)} {r : Regenerated κ}
    {allowed : Draft → Prop} (h : Delivery campaignId mapId mapType stored drafts table answer r)
    (may : ∀ made d, answer = .ok made → drafts made d → allowed d) :
    Stores campaignId mapId mapType allowed table r.table := by
  cases h with
  | concluded silent drafted conclusion =>
    cases conclusion with
    | stored writable put => exact .inr ⟨_, _, may _ _ rfl drafted, writable, put⟩
    | _ => exact .inl rfl
  | _ => exact .inl rfl

@[simp] theorem regenerate_combat (spec : CombatSpec) :
    regenerate services config campaignId (.combat spec) table =
      regenerateCombat services config campaignId spec table := rfl

/-- What is stored under the id of a map. -/
def storedFor (campaignId : String) (spec : Spec) (table : Table) : Option Fields :=
  table.document? (documentId campaignId spec.id)

/-- Regenerating a map causes only events that are called for, and at most puts one draft into
the table. -/
theorem regenerate_ensures (spec : Spec) :
    (regenerate services config campaignId spec table).Ensures
      (Event.IsNeeded (.of (storedFor campaignId spec table)))
      fun r => Stores campaignId spec.id spec.mapType
        (Drafted config campaignId (storedFor campaignId spec table) spec) table r.table := by
  intro world
  cases spec with
  | combat spec =>
    have delivers : (regenerateCombat services config campaignId spec table).Traces _ :=
      regenerateCombat_delivers (makeCombat_ensures _ _).traces
    obtain ⟨answer, ⟨needed, promised⟩, delivery⟩ := delivers world
    refine ⟨needed, delivery.stores fun made d result drafted => ?_⟩
    obtain ⟨sound, same⟩ := promised made result
    exact .combat sound (keepsPicture_of_hasPicture same) drafted
  | exploration spec =>
    have delivers : (regenerateExploration services config campaignId spec table).Traces _ :=
      regenerateExploration_delivers (makeExploration_ensures _ _).traces
    obtain ⟨answer, ⟨needed, promised⟩, delivery⟩ := delivers world
    refine ⟨needed, delivery.stores fun made d result drafted => ?_⟩
    subst drafted
    exact .exploration (keepsPicture_of_hasPicture (promised made result))

/-! ## The table afterwards -/

/-- Whether a document is what a table holds under an id after a draft has been put into it, and
all else is as it was before. -/
structure Saved (id : String) (mapType : MapType) (d : Draft) (before after : Table)
    (document : Fields) : Prop where
  found : after.document? id = some document
  others : ∀ other, id ≠ other → after.document? other = before.document? other
  value_eq : ∃ now, ∀ key, Fields.value document key = (Fields.value (d.document now) key).sorted
  rows : ∀ r ∈ after, r ∈ before ∨ r.mapType = mapType.name ∧ Json.readFields r.payload = document

theorem regular_of_document?_eq_some {id : String} {document : Fields}
    (h : table.document? id = some document) : Json.Regular Json.maxDepth (.object document) := by
  obtain ⟨r, -, -, rfl⟩ := Table.exists_row_of_document?_eq_some h
  exact Json.regular_readFields _

theorem regular_of_mem_document? {id : String} :
    ∀ document ∈ table.document? id, Json.Regular Json.maxDepth (.object document) :=
  fun _ there => regular_of_document?_eq_some there

omit [Amount κ] in
/-- The drafts that a call may store can be written and read back. -/
theorem Drafted.regular {stored : Option Fields} {spec : Spec} {d : Draft} {now : Int}
    (h : Drafted config campaignId stored spec d)
    (regular : ∀ document ∈ stored, Json.Regular Json.maxDepth (.object document)) :
    Json.Regular Json.maxDepth (d.stamped now) := by
  cases h with
  | combat _ _ drafted => exact Draft.regular_combat drafted regular
  | exploration => exact Draft.regular_exploration

omit [Amount κ] in
/-- A call leaves the table as it was, or with the document of a draft in it. -/
theorem Stores.cases {spec : Spec} {before after : Table}
    (h : Stores campaignId spec.id spec.mapType
      (Drafted config campaignId (storedFor campaignId spec before) spec) before after) :
    after = before ∨ ∃ d document,
      Drafted config campaignId (storedFor campaignId spec before) spec d ∧
        Saved (documentId campaignId spec.id) spec.mapType d before after document := by
  rcases h with same | ⟨d, now, drafted, writable, put⟩
  · exact .inl same
  -- what is stored was read from a text and is regular, and so the draft is regular as well
  · have regular : Json.Regular Json.maxDepth (d.stamped now) :=
      drafted.regular regular_of_mem_document?
    refine .inr ⟨d, _, drafted, Table.document?_of_put_eq_ok put, ?_, ?_, ?_⟩
    · exact fun other apart => Table.document?_of_put_eq_ok_of_ne put apart
    · exact ⟨now, fun key => Draft.value_readFields_payload regular writable⟩
    · intro r found
      rcases Table.mem_of_put_eq_ok put found with there | ⟨mapType, payload⟩
      · exact .inl there
      · exact .inr ⟨mapType, by rw [payload]⟩

/-! ## Histories -/

/-- A call for one map: the services and the settings that it is made with, the campaign and the
map. -/
structure Call (σ κ : Type) where
  services : Services σ κ
  config : Config κ
  campaignId : String
  spec : Spec

/-- The id of the document that a call is about. -/
def Call.documentId (call : Call σ κ) : String := BattleMaps.documentId call.campaignId call.spec.id

/-- What comes of a call. -/
def Call.make (call : Call σ κ) (table : Table) (world : σ) : Done σ κ (Regenerated κ) :=
  (regenerate call.services call.config call.campaignId call.spec table).run world

/-- A call that has been made: the events that it caused, and the table that it left. -/
structure Step (σ κ : Type) where
  call : Call σ κ
  -- The events, in the order in which they happened.
  events : List (Event κ)
  table : Table

/-- What calls come to when they are made one after another. -/
def history : List (Call σ κ) → Table → σ → List (Step σ κ)
  | [], _, _ => []
  | call :: calls, table, world =>
    let done := call.make table world
    ⟨call, done.events, done.result.table⟩ :: history calls done.result.table done.world

/-- The tables along a history, the one that it starts from included. -/
def states (calls : List (Call σ κ)) (table : Table) (world : σ) : List Table :=
  table :: (history calls table world).map Step.table

/-- All that a step may do to the table that it starts from. -/
structure Step.Follows (s : Step σ κ) (before : Table) : Prop where
  needed : ∀ e ∈ s.events, e.IsNeeded (.of (before.document? s.call.documentId))
  table : s.table = before ∨ ∃ d document,
    Drafted s.call.config s.call.campaignId (before.document? s.call.documentId) s.call.spec d ∧
      Saved s.call.documentId s.call.spec.mapType d before s.table document

theorem Call.make_follows (call : Call σ κ) (world : σ) :
    Step.Follows ⟨call, (call.make table world).events, (call.make table world).result.table⟩
      table := by
  have contract :=
    @regenerate_ensures σ κ _ call.services call.config call.campaignId table call.spec
  obtain ⟨needed, stores⟩ := contract world
  exact ⟨needed, stores.cases⟩

/-- What every call preserves holds wherever a step of a history starts from. -/
theorem exists_follows_of_mem_history {invariant : Table → Prop} {calls : List (Call σ κ)}
    (preserves : ∀ s : Step σ κ, s.call ∈ calls → ∀ before, s.Follows before → invariant before →
      invariant s.table)
    (start : invariant table) (world : σ) :
    ∀ s ∈ history calls table world,
      s.call ∈ calls ∧ ∃ before, s.Follows before ∧ invariant before := by
  -- The invariant is carried to the table that the first call leaves, whatever its services did to
  -- the world; from there on the history is a shorter one.
  induction calls generalizing table world with
  | nil => exact fun _ absent => nomatch absent
  | cons call calls ih =>
    have follows : Step.Follows ⟨call, _, _⟩ table := call.make_follows world
    have first := preserves _ (List.mem_cons_self ..) _ follows start
    rw [history, List.forall_mem_cons]
    refine ⟨⟨List.mem_cons_self .., table, follows, start⟩, fun s made => ?_⟩
    obtain ⟨there, before, followed, holds⟩ :=
      ih (fun s found => preserves s (List.mem_cons_of_mem _ found)) first _ s made
    exact ⟨List.mem_cons_of_mem _ there, before, followed, holds⟩

/-- A transitive relation that every call brings about between the tables before and after it holds
between any two tables along a history. -/
theorem pairwise_states {invariant : Table → Prop} {relation : Table → Table → Prop}
    {calls : List (Call σ κ)}
    (trans : ∀ {t t' t''}, relation t t' → relation t' t'' → relation t t'')
    (step : ∀ s : Step σ κ, s.call ∈ calls → ∀ before, s.Follows before → invariant before →
      invariant s.table ∧ relation before s.table)
    (start : invariant table) (world : σ) : (states calls table world).Pairwise relation := by
  induction calls generalizing table world with
  | nil => exact List.pairwise_singleton ..
  | cons call calls ih =>
    -- The first table is related to the second by the first call, and to the later ones because the
    -- second one is.
    have first := step _ (List.mem_cons_self ..) _ (call.make_follows world) start
    have rest := ih (fun s found => step s (List.mem_cons_of_mem _ found)) first.1
      (call.make table world).world
    refine List.pairwise_cons.mpr ⟨?_, rest⟩
    refine List.forall_mem_cons.mpr ⟨first.2, fun later found => ?_⟩
    exact trans first.2 ((List.pairwise_cons.mp rest).1 later found)

end BattleMaps
