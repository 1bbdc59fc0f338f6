import BattleMaps.Campaign.Reader
import BattleMaps.Proofs.Regeneration.Reruns
import BattleMaps.Proofs.Success

/-!
# Calls for an overview that are made again

An overview is done once its picture is stored: a later call reuses it and compares the draft with
the document, places and all. The places are stored as texts and read back, and what comes back is
a rearrangement of what was drafted, so the draft says nothing new and nothing is written. The one
exception is a position that is spelled as not-a-number. It counts as new wherever it comes up, and
a map that has one is written by every call that does not fail.

## Main results

* `Left.isUnchanged_exploration` — an overview with a picture is drafted as it is stored
* `overview_reruns_reuse` — calls for an overview that has its picture reuse it
* `exists_text_of_coordinate` — only a text can be a position that counts as new
* `written_of_isElusive` — an overview with a place that counts as new is written every time
-/

namespace BattleMaps

open Json (Regular)
open Store (Table)

variable {σ κ : Type} [Amount κ] {services : Services σ κ} {config : Config κ}
  {campaignId url : String} {places : ExplorationSpec} {document : Fields} {table : Table}
  {first : Call σ κ} {reruns : List (Call σ κ)} {world : σ} {outcome : Outcome κ}

/-! ## What is stored and what is drafted -/

omit [Amount κ] in
/-- If a picture is found in what the draft of an overview has left in the store, then another draft
with this picture says nothing new, unless some place counts as new. -/
theorem Left.isUnchanged_exploration {stored : Option Fields} {drawn : Option String}
    (h : Left stored (.exploration campaignId places drawn) document)
    (solid : ∀ p ∈ places.points, p.isElusive = false) (kept : KeepsPicture stored drawn)
    (there : Document.pictureUrl? document = some url) :
    (Draft.exploration campaignId places (some url)).isUnchanged document := by
  obtain rfl := h.pictureUrl_eq_of_value (fun _ => Draft.regular_exploration)
    (fun _ => Draft.value_picture_exploration) kept there
  cases h with
  | unchanged _ same => exact same
  | @written now writable =>
    have solid : (Draft.exploration campaignId places (some url)).isElusive = false := by
      simpa [Draft.exploration] using solid
    have regular : Regular Json.maxDepth
        ((Draft.exploration campaignId places (some url)).stamped now) :=
      Draft.regular_exploration
    exact Draft.isUnchanged_of_rearranged solid regular (Json.regular_readFields _).hasDistinctKeys
      (Json.rearranged_readFields_write regular writable)

/-- Where the picture is stored, a call for an overview makes nothing and goes on to its draft. -/
theorem regenerateExploration_of_picture (services : Services σ κ) (config : Config κ)
    (found : table.document? (documentId campaignId places.id) = some document)
    (there : Document.pictureUrl? document = some url) :
    regenerateExploration services config campaignId places table =
      conclude services campaignId (some document) (.exploration campaignId places (some url))
        (some url) ((Made.idle (some url)).outcome places.id .exploration) table := by
  have reuse : ExplorationAction.plan (.of (some document)) services.paintsOverviews = .reuse := by
    rw [ExplorationAction.plan, hasPicture_of, Option.bind_some, there, Option.isSome_some,
      if_pos rfl]
  have idle : makeExploration services config campaignId places (some url) .reuse =
      pure (.ok (.idle (some url))) := rfl
  rw [regenerateExploration]
  simp only [found, reuse, Option.bind_some, there, idle, Work.pure_bind]
  rfl

/-- Where the picture is stored and the draft says nothing new, a call for an overview asks no
service and leaves the table alone. -/
theorem regenerateExploration_of_isUnchanged (services : Services σ κ) (config : Config κ)
    (found : table.document? (documentId campaignId places.id) = some document)
    (there : Document.pictureUrl? document = some url)
    (same : (Draft.exploration campaignId places (some url)).isUnchanged document) :
    ∃ o : Outcome κ, o.status = .reused ∧ o.written = false ∧ o.completionCost = 0 ∧
      o.imageCost = 0 ∧
      regenerateExploration services config campaignId places table = pure ⟨.ok o, table⟩ := by
  refine ⟨{ (Made.idle (some url)).outcome places.id .exploration with
    confidence := (Draft.exploration campaignId places (some url)).fields.value "confidence",
    pictureUrl := some url }, rfl, rfl, rfl, rfl, ?_⟩
  rw [regenerateExploration_of_picture services config found there]
  simp only [conclude, Option.any_some, same, if_true]

/-! ## Calls for an overview with a picture -/

/-- Whatever the services answer, what a call for an overview stores keeps a stored picture. -/
theorem regenerateExploration_keeps (services : Services σ κ) (config : Config κ)
    (campaignId : String) (places : ExplorationSpec) (table : Table) (world : σ) :
    Ending campaignId places.id .exploration (table.document? (documentId campaignId places.id))
      (fun d => ∃ made : Made κ,
        KeepsPicture (table.document? (documentId campaignId places.id)) made.url ∧
        made.error = none ∧ d = .exploration campaignId places made.url)
      table ((regenerateExploration services config campaignId places table).run world).result := by
  have making : (makeExploration services config campaignId places
      ((table.document? (documentId campaignId places.id)).bind Document.pictureUrl?)
      (.plan (.of (table.document? (documentId campaignId places.id)))
        services.paintsOverviews)).Yields (fun _ => True) fun result =>
          ∀ made, result = .ok made →
            KeepsPicture (table.document? (documentId campaignId places.id)) made.url := by
    refine .mono (.of_ensures (makeExploration_ensures _ _)) fun result promised made ok => ?_
    exact keepsPicture_of_hasPicture (promised made ok)
  exact regenerateExploration_ends making world fun _ _ => trivial

/-- If a call for an overview does not fail and leaves a document with a picture, and no place of
the overview counts as new wherever it comes up, then all later calls for the same map, as many as
there are and with whatever services and settings, ask no service, report that the map is reused,
unwritten and for free, and leave the table exactly as it is. -/
theorem overview_reruns_reuse (overview : first.spec = .exploration places)
    (solid : ∀ p ∈ places.points, p.isElusive = false)
    (ended : (first.make table world).result.outcome = .ok outcome)
    (fine : outcome.status ≠ .failed)
    (found : (first.make table world).result.table.document? first.documentId = some document)
    (picture : Fields.value document "backgroundImageUrl" = .text url)
    (filled : (Text.nonBlank? url).isSome)
    (same : ∀ call ∈ reruns, call.campaignId = first.campaignId ∧ call.spec = first.spec)
    (later : σ) :
    ∀ done ∈ makeAll reruns (first.make table world).result.table later,
      done.Reuses (first.make table world).result.table := by
  have there : Document.pictureUrl? document = some url :=
    pictureUrl?_eq_some_iff.mpr ⟨picture, filled⟩
  rw [overview] at same
  rw [Call.documentId, overview] at found
  rw [Call.make, overview, regenerate] at ended found ⊢
  obtain ⟨d, _, ⟨made, kept, -, drafted⟩, foundLeft, left⟩ :=
    (regenerateExploration_keeps _ _ _ _ _ _).exists_left ended fine
  obtain rfl := Option.some.inj (found.symm.trans foundLeft)
  subst drafted
  have unchanged := left.isUnchanged_exploration solid kept there
  refine makeAll_of_each (fun call rerun world => ?_) later
  obtain ⟨campaign, map⟩ := same call rerun
  obtain ⟨o, reused, unwritten, completions, pictures, run⟩ :=
    regenerateExploration_of_isUnchanged call.services call.config found there unchanged
  rw [Call.make, map, campaign, regenerate, run]
  exact ⟨rfl, rfl, o, rfl, reused, unwritten, completions, pictures⟩

/-- The first picture of an overview is stored. -/
theorem regenerateExploration_of_first_picture {painting : Painting κ}
    {painter : Service σ PaintRequest (Painting κ)} {kept : Option String}
    {uploads : List (Event κ)}
    (there : services.paint = some painter)
    (paints : ∀ request, painter request world = (.ok painting, world))
    (keeps : (keepPicture services config campaignId places.id painting.picture).run world =
      ⟨.ok kept, uploads, world⟩)
    (writable : ((Draft.exploration campaignId places kept).stamped
      (services.now world)).isWritable) :
    ∃ o : Outcome κ, o.status = .generated ∧
      (regenerateExploration services config campaignId places []).run world =
        ⟨⟨.ok o, [(Draft.exploration campaignId places kept).row campaignId places.id .exploration
            (services.now world)]⟩,
          .painted ⟨Prompt.explorationPicture places, Prompt.unwanted⟩ (.ok painting) :: uploads,
          world⟩ := by
  have stored : Table.document? [] (documentId campaignId places.id) = none := rfl
  refine ⟨{ (Made.start .generated ExplorationAction.paint.name kept : Made κ).outcome places.id
    .exploration with imageCost := 0 + painting.cost,
                      confidence := (Draft.exploration campaignId places kept).fields.value
                        "confidence",
                      pictureUrl := kept, written := true }, rfl, ?_⟩
  simp only [regenerateExploration, stored, Services.paintsOverviews, there, Artifacts.of,
    Artifacts.hasPicture, ExplorationAction.plan, makeExploration, paint, keepFor, paints, keeps,
    Work.run_bind, Work.run_ask, Work.run_pure, Made.payPicture, Made.start, Made.outcome,
    Option.isSome_none, Option.isSome_some, if_true, Bool.false_eq_true, if_false,
    run_conclude_of_lacks Table.Lacks.nil writable, Option.bind_none, List.append_nil,
    List.cons_append, List.nil_append]

/-! ## An isle with a cave -/

/-- An overview with a cave at a distance from the left edge. -/
def caveSpec (x : Coordinate) : ExplorationSpec where
  id := "map"
  name := "The isle"
  points := [{ id := "cave", number := 1, name := "The cave", description := "", x := x }]

/-- A call for the overview with the cave, with services that paint and keep pictures, at a time. -/
def caveCall (x : Coordinate) (now : Int) : Call Unit Float where
  services := { paintingServices (some (blobsAt "isle.webp")) with now := fun _ => now }
  config := .standard
  campaignId := "isle"
  spec := .exploration (caveSpec x)

def caveDraft (x : Coordinate) : Draft := .exploration "isle" (caveSpec x) (some "isle.webp")

/-- The row of the overview with the cave. -/
def caveRow (x : Coordinate) (now : Int) : Store.Row :=
  (caveDraft x).row "isle" "map" .exploration now

theorem value_caveRow {x : Coordinate} {now : Int} {key : String}
    (writable : ((caveDraft x).stamped now).isWritable) :
    Fields.value (Json.readFields (caveRow x now).payload) key =
      (Fields.value ((caveDraft x).document now) key).sorted :=
  Draft.value_readFields_payload Draft.regular_exploration writable

theorem make_caveCall {x : Coordinate} {now : Int}
    (writable : ((caveDraft x).stamped now).isWritable) :
    ∃ o : Outcome Float, o.status = .generated ∧
      ((caveCall x now).make [] ()).result = ⟨.ok o, [caveRow x now]⟩ := by
  have path : PathPattern.expand Config.standard.pathPattern "isle" "map" =
      .ok "campaign-maps/isle/map.webp" := by decide +kernel
  have keeps : (keepPicture (caveCall x now).services .standard "isle" (caveSpec x).id
      emptyPicture).run () = ⟨.ok (some "isle.webp"),
        [.uploaded ⟨"campaign-maps/isle/map.webp", emptyPicture⟩ (.ok "isle.webp")], ()⟩ := by
    simp only [keepPicture, caveCall, paintingServices, caveSpec, path]
    rfl
  obtain ⟨o, generated, run⟩ :=
    regenerateExploration_of_first_picture (rfl : (caveCall x now).services.paint = some _)
      (fun _ => rfl) keeps writable
  exact ⟨o, generated, congrArg (·.result) run⟩

theorem cave_reused :
    ∃ (o : Outcome Float) (document : Fields),
      ((caveCall (.number 50) 0).make [] ()).result = ⟨.ok o, [caveRow (.number 50) 0]⟩ ∧
      o.status ≠ .failed ∧
      Table.document? [caveRow (.number 50) 0] "isle_map" = some document ∧
      Fields.value document "backgroundImageUrl" = .text "isle.webp" ∧
      ∀ done ∈ makeAll [caveCall (.number 50) 60000, caveCall (.number 50) 120000]
        [caveRow (.number 50) 0] (), done.Reuses [caveRow (.number 50) 0] := by
  have writable : ((caveDraft (.number 50)).stamped 0).isWritable := by decide +kernel
  obtain ⟨o, generated, run⟩ := make_caveCall writable
  have fine : o.status ≠ .failed := by simp [generated]
  have value : Fields.value (Json.readFields (caveRow (.number 50) 0).payload)
      "backgroundImageUrl" = .text "isle.webp" := value_caveRow writable
  have same : ∀ call ∈ [caveCall (.number 50) 60000, caveCall (.number 50) 120000],
      call.campaignId = (caveCall (.number 50) 0).campaignId ∧
        call.spec = (caveCall (.number 50) 0).spec := by
    simp [caveCall]
  have reused := overview_reruns_reuse rfl (by simp [caveSpec, PointOfInterest.isElusive])
    (congrArg (·.outcome) run) fine
    ((congrArg (·.table.document? "isle_map") run).trans (Table.document?_singleton _)) value
    (by decide) same ()
  rw [run] at reused
  exact ⟨o, _, run, fine, Table.document?_singleton _, value, reused⟩

/-! ## Places that count as new -/

/-- A coordinate that counts as new was given as a text that spells not-a-number. -/
theorem exists_text_of_coordinate {mapId : String} {given : Option Json}
    (h : Campaign.coordinate mapId given = .ok .spelledNaN) :
    ∃ s x, given = some (.text s) ∧ Decimal.ofText? s = some x ∧ x.isNaN := by
  have number (x : Float) :
      (.ok (.number x) : Except Campaign.ReadError Coordinate) ≠ .ok .spelledNaN :=
    fun same => nomatch Except.ok.inj same
  unfold Campaign.coordinate at h
  split at h
  · exact absurd h (number _)
  · exact absurd h (number _)
  · exact absurd h (number _)
  · dsimp only at h
    split_ifs at h
    exact absurd h (number _)
  · rename_i s
    split at h
    · rename_i x read
      split_ifs at h with spelled
      · exact ⟨s, x, rfl, read, spelled⟩
      · exact absurd h (number _)
    · contradiction
  · contradiction

/-- If some place of an overview counts as new wherever it comes up, every call for the overview
that does not fail writes it, whatever is stored. -/
theorem written_of_isElusive {p : PointOfInterest} (there : p ∈ places.points)
    (elusive : p.isElusive)
    (ended : ((regenerateExploration services config campaignId places table).run
      world).result.outcome = .ok outcome)
    (fine : outcome.status ≠ .failed) : outcome.written := by
  have ends := regenerateExploration_keeps services config campaignId places table world
  generalize ((regenerateExploration services config campaignId places table).run world).result = r
    at ends ended
  cases ends with
  | brokenDown b => contradiction
  | failed failed =>
    obtain rfl := Except.ok.inj ended
    exact absurd failed.status_eq fine
  | unchanged _ _ drafted _ same =>
    -- A draft with such a place never says what is stored.
    obtain ⟨made, -, -, rfl⟩ := drafted
    have new : (places.points.any PointOfInterest.isElusive) = true :=
      List.any_eq_true.mpr ⟨p, there, elusive⟩
    simp [Draft.isUnchanged, Draft.exploration, new] at same
  | stored _ written =>
    obtain rfl := Except.ok.inj ended
    exact written

/-- Where the picture is stored and some place counts as new, a call for an overview asks no service
and writes all the same. -/
theorem regenerateExploration_of_isElusive {after : Table} (services : Services σ κ)
    (config : Config κ) (found : table.document? (documentId campaignId places.id) = some document)
    (there : Document.pictureUrl? document = some url)
    (elusive : (Draft.exploration campaignId places (some url)).isElusive)
    (writable : ((Draft.exploration campaignId places (some url)).stamped
      (services.now world)).isWritable)
    (put : table.put ((Draft.exploration campaignId places (some url)).row campaignId places.id
      .exploration (services.now world)) = .ok after) :
    ∃ o : Outcome κ, o.status = .reused ∧ o.written = true ∧
      (regenerateExploration services config campaignId places table).run world =
        ⟨⟨.ok o, after⟩, [], world⟩ := by
  have new : (Draft.exploration campaignId places (some url)).isUnchanged document = false := by
    simp [Draft.isUnchanged, elusive]
  refine ⟨{ (Made.idle (some url)).outcome places.id .exploration with
    confidence := (Draft.exploration campaignId places (some url)).fields.value "confidence",
    pictureUrl := some url, written := true }, rfl, rfl, ?_⟩
  rw [regenerateExploration_of_picture services config found there]
  exact run_conclude_of_put new writable put

/-- A campaign with the overview, as it may be given in a file: the position of the cave is spelled
as not-a-number. -/
def caveFields : Fields :=
  [("slug", .text "isle"),
   ("explorationMapSpecs", .array [.object
     [("id", .text "map"), ("name", .text "The isle"),
      ("pointsOfInterest", .array [.object
        [("id", .text "cave"), ("name", .text "The cave"),
         ("position", .object [("x", .text "nan")])]])]])]

/-- The campaign is read and its overview is painted and kept, and yet the next call, a minute later
and with the picture in the store, writes the document anew. -/
theorem spelledNaN_rewritten :
    Campaign.ofFields caveFields =
        .ok { id := "isle", title := "isle", exploration := [caveSpec .spelledNaN] } ∧
      (∃ o : Outcome Float, o.status = .generated ∧
        ((caveCall .spelledNaN 0).make [] ()).result = ⟨.ok o, [caveRow .spelledNaN 0]⟩) ∧
      ∃ (document later : Fields) (o : Outcome Float),
        Table.document? [caveRow .spelledNaN 0] "isle_map" = some document ∧
        Document.pictureUrl? document = some "isle.webp" ∧
        Fields.value document timeStampKey = .int 0 ∧
        o.status = .reused ∧ o.written = true ∧
        (caveCall .spelledNaN 60000).make [caveRow .spelledNaN 0] () =
          ⟨⟨.ok o, [caveRow .spelledNaN 60000]⟩, [], ()⟩ ∧
        Table.document? [caveRow .spelledNaN 60000] "isle_map" = some later ∧
        Fields.value later timeStampKey = .int 60000 := by
  have writable : ((caveDraft .spelledNaN).stamped 0).isWritable := by decide +kernel
  have writableLater : ((caveDraft .spelledNaN).stamped 60000).isWritable := by decide +kernel
  have there : Document.pictureUrl? (Json.readFields (caveRow .spelledNaN 0).payload) =
      some "isle.webp" := pictureUrl?_eq_some_iff.mpr ⟨value_caveRow writable, by decide⟩
  have found : Table.document? [caveRow .spelledNaN 0] (documentId "isle" "map") =
      some (Json.readFields (caveRow .spelledNaN 0).payload) := Table.document?_singleton _
  have rerun : ∃ o : Outcome Float, o.status = .reused ∧ o.written = true ∧
      (caveCall .spelledNaN 60000).make [caveRow .spelledNaN 0] () =
        ⟨⟨.ok o, [caveRow .spelledNaN 60000]⟩, [], ()⟩ :=
    regenerateExploration_of_isElusive _ .standard found there rfl writableLater rfl
  obtain ⟨o, reused, written, run⟩ := rerun
  exact ⟨rfl, make_caveCall writable, _, _, o, found, there, value_caveRow writable, reused,
    written, run, Table.document?_singleton _, value_caveRow writableLater⟩

end BattleMaps
