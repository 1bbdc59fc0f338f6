import BattleMaps.Proofs.Regeneration.Convergence
import BattleMaps.Proofs.Regeneration.Decisions
import BattleMaps.Proofs.Regeneration.Overviews

/-!
# What a failed upload costs

Keeping a new picture is tried once, and a place that refuses it does no harm: the map is finished
all the same, and only the address of the picture is missing. A grid that has been read off a
picture, or an overview that has been painted, is therefore stored, whatever the place for pictures
answers. The one thing that does harm is a pattern of paths that does not expand: then the map
breaks down before anything is handed over, and what has been made for it is lost.

## Main definitions

* `Event.Reads` — whether a map has been read off a picture
* `keptUrl` — the address under which a picture was kept, if it was
* `Due` — the draft that is due after what the services have answered

## Main results

* `makeCombat_completes`, `makeExploration_completes` — what making comes to once a map has been
  read or painted
* `regenerate_stores_due` — what is due is stored
* `regenerate_loses_due` — what is due is lost if the pattern does not expand
-/

namespace BattleMaps

open Store (Table)
open Work (Traces)

variable {σ κ : Type} {services : Services σ κ} {config : Config κ} {spec : CombatSpec}
  {places : ExplorationSpec} {campaignId mapId : String} {made : Made κ} {events : List (Event κ)}
  {stored : Option Fields} {m : BattleMap}

/-! ## Events -/

/-- Whether a map has been read off a picture: the answer to a request with a picture has become
the map. -/
def Event.Reads (config : Config κ) (spec : CombatSpec) (m : BattleMap) : Event κ → Prop
  | .completed request answer => request.picture.isSome ∧ ∃ reply, answer = .ok reply ∧
      judge spec .legacy config.minWalkable reply.text = .ok m
  | _ => False

/-- The address under which a new picture was kept, if it was. -/
def keptUrl (events : List (Event κ)) : Option String :=
  events.findSome? fun
    | .uploaded _ answer => answer.toOption
    | _ => none

theorem keptUrl_append (events later : List (Event κ)) :
    keptUrl (events ++ later) = (keptUrl events).or (keptUrl later) :=
  List.findSome?_append

theorem keptUrl_eq_none (h : ∀ e ∈ events, ¬ e.isPictorial) : keptUrl events = none := by
  refine List.findSome?_eq_none_iff.mpr fun e found => ?_
  cases e with
  | uploaded request answer => exact absurd trivial (h _ found)
  | _ => rfl

/-! ## Grids -/

section Grids

variable [Amount κ] {picture : Option Picture}

/-- A map that has been read off the picture is the one that asking comes to. -/
theorem askRepeatedly_reads (left asked : Nat) (cost : κ) (lastError : String) :
    (askRepeatedly services config spec picture left asked cost lastError).Traces
      fun result events => ∀ m, ∀ e ∈ events, e.Reads config spec m →
        picture.isSome ∧ ∃ generated, result = .ok generated ∧ generated.map = m := by
  induction left generalizing asked cost lastError with
  | zero =>
    rw [askRepeatedly]
    exact .pure (by simp)
  | succ left ih =>
    rw [askRepeatedly]
    refine .bind .ask fun answer before noted => ?_
    subst noted
    simp only [List.singleton_append, List.forall_mem_cons]
    cases answer with
    | error fault =>
      refine (ih _ _ _).mono fun result after rest m => ⟨?_, rest m⟩
      rintro ⟨-, _, answered, -⟩
      contradiction
    | ok reply =>
      -- A request with a picture asks for the three tile kinds that a map is read in.
      have judged (m : BattleMap) (reads : (Event.completed (gridRequest config spec picture)
          (.ok reply)).Reads config spec m) : picture.isSome ∧
          judge spec (approach picture).encoding config.minWalkable reply.text = .ok m := by
        obtain ⟨seen, _, ⟨⟩, accepted⟩ := reads
        rw [picture_gridRequest] at seen
        obtain ⟨p, rfl⟩ := Option.isSome_iff_exists.mp seen
        exact ⟨rfl, accepted⟩
      dsimp only
      split
      · rename_i read accepted
        refine .pure fun m => ⟨fun reads => ?_, by simp⟩
        obtain ⟨seen, same⟩ := judged m reads
        exact ⟨seen, _, rfl, Except.ok.inj (accepted.symm.trans same)⟩
      · rename_i why rejected
        refine (ih _ _ _).mono fun result after rest m => ⟨fun reads => ?_, rest m⟩
        rw [(judged m reads).2] at rejected
        contradiction

theorem generate_reads :
    (generate services config spec picture).Traces fun result events =>
      ∀ m, ∀ e ∈ events, e.Reads config spec m →
        picture.isSome ∧ ∃ generated, result = .ok generated ∧ generated.map = m :=
  askRepeatedly_reads _ _ _ _

/-- Nothing is read off a picture where a grid is laid out from prose. -/
theorem layOut_reads :
    (layOut services config spec made).Traces fun _ events =>
      ∀ m, ∀ e ∈ events, ¬ e.Reads config spec m := by
  refine .bind_pure generate_reads fun answer events reads => ?_
  have none (m : BattleMap) (e : Event κ) (found : e ∈ events) : ¬ e.Reads config spec m :=
    fun read => nomatch (reads m e found read).1
  cases answer <;> exact ⟨_, rfl, none⟩

/-- What making has come to once a map has been read off a picture. -/
def Made.HasRead (start : Made κ) (m : BattleMap) (made : Made κ) : Prop :=
  ∃ cost, made = { start with completionCost := cost, grid := some m }

theorem readPicture_reads {picture : Picture} :
    (readPicture services config spec picture made).Traces fun after events =>
      ∀ m, ∀ e ∈ events, e.Reads config spec m → made.HasRead m after := by
  unfold readPicture
  split_ifs
  · refine .bind generate_reads fun answer before reads => ?_
    cases answer with
    | ok generated =>
      refine .pure fun m e found read => ?_
      rw [List.append_nil] at found
      obtain ⟨-, _, ⟨⟩, rfl⟩ := reads m e found read
      exact ⟨_, rfl⟩
    | error e =>
      -- Neither the answers that became no map nor those to prose can be a map that was read.
      refine layOut_reads.mono fun after later none m e found read => ?_
      rcases List.mem_append.mp found with first | second
      · obtain ⟨-, _, absent, -⟩ := reads m e first read
        contradiction
      · exact absurd read (none m e second)
  · exact layOut_reads.mono fun after later none m e found read => absurd read (none m e found)

theorem readStored_reads :
    (readStored services config spec made).Traces fun after events =>
      ∀ m, ∀ e ∈ events, e.Reads config spec m → made.HasRead m after := by
  unfold readStored
  split
  · refine .bind .ask fun answer before noted => ?_
    subst noted
    simp only [List.singleton_append, List.forall_mem_cons]
    cases answer with
    | ok bytes =>
      exact readPicture_reads.mono fun after later reads m => ⟨fun absent => absent.elim, reads m⟩
    | error fault =>
      exact layOut_reads.mono fun after later none m =>
        ⟨fun absent => absent.elim, fun e found read => absurd read (none m e found)⟩
  · exact layOut_reads.mono fun after later none m e found read => absurd read (none m e found)

end Grids

/-! ## Pictures -/

/-- Whether a picture can be handed over, if there is a place for it: the pattern of paths expands
for its map. -/
def Expands (services : Services σ κ) (config : Config κ) (campaignId mapId : String) : Prop :=
  services.blobs.isSome → (PathPattern.expand config.pathPattern campaignId mapId).isOk

/-- What keeping a picture comes to: its address, if it was kept, or else none; unless it cannot be
handed over at all. -/
structure Keeps (services : Services σ κ) (config : Config κ) (campaignId mapId : String)
    (answer : Except PathPattern.Fault (Option String)) (events : List (Event κ)) : Prop where
  kept : Expands services config campaignId mapId → answer = .ok (keptUrl events)
  lost : services.blobs.isSome → ∀ fault,
    PathPattern.expand config.pathPattern campaignId mapId = .error fault → answer = .error fault

/-- Whatever the place for pictures answers, keeping a picture comes to an address or none, if the
picture can be handed over. -/
theorem keepPicture_keeps {picture : Picture} :
    (keepPicture services config campaignId mapId picture).Traces
      (Keeps services config campaignId mapId) := by
  unfold keepPicture
  split
  · rename_i nowhere
    refine .pure ⟨fun _ => rfl, fun place => ?_⟩
    simp [nowhere] at place
  · rename_i blobs place
    split
    · rename_i fault bad
      refine .pure ⟨fun expands => ?_, fun _ other same => ?_⟩
      · have expands := expands (by rw [place, Option.isSome_some])
        rw [bad] at expands
        contradiction
      · rw [Except.error.inj (bad.symm.trans same)]
    · rename_i path good
      refine .bind_pure .ask fun answer events noted => ⟨_, rfl, fun _ => ?_, fun _ other bad => ?_⟩
      · subst noted
        cases answer <;> rfl
      · rw [good] at bad
        contradiction

/-- Whether making has come to its end with a grid and an address. -/
structure Made.Completed (grid : Option BattleMap) (url : Option String) (made : Made κ) : Prop where
  status_eq : made.status = .generated
  error_eq : made.error = none
  grid_eq : made.grid = grid
  url_eq : made.url = url

/-- What becomes of a map with a grid: it is completed, with the address that is stored or else the
one that the picture was kept under; unless the picture is a new one and cannot be handed over. -/
structure Completes (services : Services σ κ) (config : Config κ) (campaignId mapId : String)
    (url : Option String) (grid : Option BattleMap) (answer : Except Breakdown (Made κ))
    (events : List (Event κ)) : Prop where
  delivered : (url = none → Expands services config campaignId mapId) →
    ∃ made, answer = .ok made ∧ made.Completed grid (url.or (keptUrl events))
  lost : url = none → services.blobs.isSome → ∀ fault,
    PathPattern.expand config.pathPattern campaignId mapId = .error fault →
      answer = .error (.badPattern fault)

variable {url : Option String} {grid : Option BattleMap} {answer : Except Breakdown (Made κ)}

/-- Only the events that keep a picture count for its address. -/
theorem Completes.after {before : List (Event κ)}
    (h : Completes services config campaignId mapId url grid answer events)
    (silent : keptUrl before = none) :
    Completes services config campaignId mapId url grid answer (before ++ events) where
  delivered := by
    rw [keptUrl_append, silent, Option.none_or]
    exact h.delivered
  lost := h.lost

/-- A map with a grid is completed once its picture has been handed over, kept or not. -/
theorem keepFor_completes {picture : Picture} (completed : made.Completed grid url) :
    (keepFor services config campaignId mapId picture made).Traces
      (Completes services config campaignId mapId none grid) := by
  refine .bind_pure keepPicture_keeps fun answer events keeps => ?_
  cases answer with
  | ok kept =>
    refine ⟨_, rfl, fun expands => ⟨_, rfl, ?_⟩, fun _ place fault bad => ?_⟩
    · rw [Except.ok.inj (keeps.kept (expands rfl)), Option.none_or]
      exact ⟨completed.status_eq, completed.error_eq, completed.grid_eq, rfl⟩
    · have lost := keeps.lost place fault bad
      contradiction
  | error fault =>
    refine ⟨_, rfl, fun expands => ?_, fun _ place other bad => ?_⟩
    · have kept := keeps.kept (expands rfl)
      contradiction
    · rw [Except.error.inj (keeps.lost place other bad)]

/-! ## Actions -/

theorem Event.Reads.isCompletion {e : Event κ} (h : e.Reads config spec m) : e.isCompletion := by
  cases e with
  | completed => trivial
  | _ => exact h.elim

theorem Made.HasRead.completed {start : Made κ} (h : start.HasRead m made)
    (completed : start.Completed grid url) : made.Completed (some m) url := by
  obtain ⟨cost, rfl⟩ := h
  exact ⟨completed.status_eq, completed.error_eq, rfl, completed.url_eq⟩

variable [Amount κ]

theorem Made.completed_start (path : String) (url : Option String) :
    (Made.start .generated path url : Made κ).Completed none url :=
  ⟨rfl, rfl, rfl, rfl⟩

/-- Reading a picture asks models and nobody else, and ends with the first map that is read. -/
theorem readPicture_completes {picture : Picture} (kept : made.Keeps config spec url) :
    (readPicture services config spec picture made).Traces fun after events =>
      (∀ m, ∀ e ∈ events, e.Reads config spec m → made.HasRead m after) ∧
        SoundGrid config spec after.grid ∧ keptUrl events = none := by
  refine (readPicture_reads.and (readPicture_ensures kept).traces).mono fun after events h => ?_
  obtain ⟨reads, completions, kept⟩ := h
  refine ⟨reads, kept.grid, keptUrl_eq_none fun e found => ?_⟩
  exact Event.not_isPictorial_of_isCompletion (completions e found)

/-- A map that is read off a new picture is completed. -/
theorem paintAndRead_completes (made : Made κ) (fresh : made.setback = none)
    (kept : made.Keeps config spec none) (completed : made.Completed none none) :
    (paintAndRead services config campaignId spec made).Traces fun answer events =>
      ∀ m, ∀ e ∈ events, e.Reads config spec m →
        Completes services config campaignId spec.id none (some m) answer events := by
  refine paint_traces (by simp) fun request answer => ?_
  simp only [List.singleton_append, List.forall_mem_cons]
  cases answer with
  | error fault =>
    -- what is laid out from prose has not been read off a picture
    refine .bind_pure layOut_reads fun made events none => ⟨_, rfl, fun m => ?_⟩
    exact ⟨fun absent => absent.elim, fun e found read => absurd read (none m e found)⟩
  | ok painting =>
    have paid : (made.payPicture painting.cost).Keeps config spec none := ⟨kept.grid, kept.url_eq⟩
    refine .bind (readPicture_completes paid) fun read reading promised => ?_
    obtain ⟨reads, sound, silent⟩ := promised
    split_ifs with setback
    · refine .pure fun m => ⟨fun absent => absent.elim, fun e found read => ?_⟩
      rw [List.append_nil] at found
      obtain ⟨cost, rfl⟩ := reads m e found read
      simp [Made.payPicture, fresh] at setback
    · intro world m
      refine ⟨fun absent => absent.elim, fun e found readOff => ?_⟩
      rcases List.mem_append.mp found with there | later
      · have completed : read.Completed (some m) none :=
          (reads m e there readOff).completed
            ⟨completed.status_eq, completed.error_eq, completed.grid_eq, completed.url_eq⟩
        have silent : keptUrl (.painted request (.ok painting) :: reading) = none := silent
        exact (keepFor_completes completed world).after silent
      · -- keeping a picture asks no model
        exact absurd readOff.isCompletion ((keepFor_ensures sound world).1 e later)

/-- A map that is read off a picture, stored or new, is completed. -/
theorem makeCombat_completes (bare : stored.any Document.hasCompleteGrid = false) (paints : Bool) :
    (makeCombat services config campaignId spec (stored.bind Document.pictureUrl?)
        (.plan (.of stored) paints)).Traces fun answer events =>
      ∀ m, ∀ e ∈ events, e.Reads config spec m →
        Completes services config campaignId spec.id (stored.bind Document.pictureUrl?) (some m)
          answer events := by
  have planned := CombatAction.isPlanned_of stored paints
  generalize CombatAction.plan (.of stored) paints = action at planned ⊢
  rw [bare] at planned
  generalize stored.bind Document.pictureUrl? = url at planned ⊢
  cases planned with
  | reuse grid => contradiction
  | attachPicture _ grid => contradiction
  | layOut =>
    exact .bind_pure layOut_reads fun made events none =>
      ⟨_, rfl, fun m e found read => absurd read (none m e found)⟩
  | paintAndRead _ _ unseen =>
    obtain rfl := Option.not_isSome_iff_eq_none.mp unseen
    exact paintAndRead_completes _ rfl Made.keeps_start (Made.completed_start _ _)
  | readStored _ _ picture =>
    obtain ⟨u, rfl⟩ := Option.isSome_iff_exists.mp picture
    have start : (Made.start .generated CombatAction.readStored.name (some u) :
        Made κ).Completed none (some u) := Made.completed_start _ _
    refine .bind_pure readStored_reads fun made events reads => ⟨_, rfl, fun m e found read => ?_⟩
    -- the address is stored already, so it does not matter whether another one can be had
    refine ⟨fun _ => ⟨made, rfl, (reads m e found read).completed start⟩, ?_⟩
    intro absent
    contradiction

/-- An overview that is painted is completed. -/
theorem makeExploration_completes (paints : Bool) :
    (makeExploration services config campaignId places (stored.bind Document.pictureUrl?)
        (.plan (.of stored) paints)).Traces fun answer events =>
      ∀ request painting, .painted request (.ok painting) ∈ events →
        Completes services config campaignId places.id (stored.bind Document.pictureUrl?) none
          answer events := by
  rw [ExplorationAction.plan, hasPicture_of]
  generalize stored.bind Document.pictureUrl? = url
  split_ifs with there paintable
  · exact .pure (by simp)
  · obtain rfl : url = none := by simpa using there
    refine paint_traces (by simp) fun request answer => ?_
    cases answer with
    | error fault =>
      refine .pure fun request painting absent => ?_
      simp at absent
    | ok painting =>
      have paid : ((Made.start .generated ExplorationAction.paint.name none :
          Made κ).payPicture painting.cost).Completed none none := ⟨rfl, rfl, rfl, rfl⟩
      exact (keepFor_completes paid).mono fun answer events completes _ _ _ =>
        completes.after rfl
  · exact .pure (by simp)

/-! ## What is due -/

/-- The draft of a map that is due after what the services have answered: where no complete grid is
stored, one with the grid that has been read off a picture; and for an overview that has been
painted, one with all its places. The address is the stored one or else that of the kept picture. -/
inductive Due (config : Config κ) (campaignId : String) (stored : Option Fields)
    (events : List (Event κ)) : Spec → Draft → Prop where
  | combat {spec : CombatSpec} {m : BattleMap} {e : Event κ} {d : Draft}
      (bare : stored.any Document.hasCompleteGrid = false) (found : e ∈ events)
      (read : e.Reads config spec m)
      (drafted : Draft.combat? campaignId spec stored (some m)
        ((stored.bind Document.pictureUrl?).or (keptUrl events)) = some d) :
      Due config campaignId stored events (.combat spec) d
  | exploration {places : ExplorationSpec} {request : PaintRequest} {painting : Painting κ}
      (painted : .painted request (.ok painting) ∈ events) :
      Due config campaignId stored events (.exploration places)
        (.exploration campaignId places ((stored.bind Document.pictureUrl?).or (keptUrl events)))

omit [Amount κ] in
/-- A grid that has been read where none is stored makes a draft due. -/
theorem exists_due_of_reads {e : Event κ} (bare : stored.any Document.hasCompleteGrid = false)
    (found : e ∈ events) (read : e.Reads config spec m) :
    ∃ d, Due config campaignId stored events (.combat spec) d := by
  have grid : Draft.grid? stored (some m) = some (Draft.newGrid m) := by
    cases stored with
    | none => rfl
    | some document =>
      rw [Option.any_some] at bare
      simp [Draft.grid?, Option.filter, bare]
  exact ⟨_, .combat bare found read (by rw [Draft.combat?, grid, Option.map_some])⟩

omit [Amount κ] in
theorem Due.regular {table : Table} {id : String} {spec : Spec} {d : Draft} {now : Int}
    (h : Due config campaignId (table.document? id) events spec d) :
    Json.Regular Json.maxDepth (d.stamped now) := by
  cases h with
  | combat _ _ _ drafted => exact Draft.regular_combat drafted regular_of_mem_document?
  | exploration => exact Draft.regular_exploration

/-- Where a draft is due, making completes the map for it. -/
theorem Spec.make_completes (services : Services σ κ) (config : Config κ) (campaignId : String)
    (stored : Option Fields) (spec : Spec) :
    (spec.make services config campaignId stored).Traces fun answer events =>
      ∀ d, Due config campaignId stored events spec d →
        ∃ grid, Completes services config campaignId spec.id (stored.bind Document.pictureUrl?) grid
            answer events ∧
          ∀ made : Made κ,
            made.Completed grid ((stored.bind Document.pictureUrl?).or (keptUrl events)) →
            spec.draft? campaignId stored made = some d := by
  cases spec with
  | combat spec =>
    intro world d due
    cases due with
    | @combat _ m e _ bare found read drafted =>
      refine ⟨some m, makeCombat_completes bare _ world m e found read, fun made completed => ?_⟩
      rw [Spec.draft?, completed.grid_eq, completed.url_eq, drafted]
  | exploration places =>
    intro world d due
    cases due with
    | @exploration _ request painting painted =>
      refine ⟨none, makeExploration_completes _ world request painting painted,
        fun made completed => ?_⟩
      rw [Spec.draft?, completed.url_eq]

/-! ## What is stored -/

omit [Amount κ] in
/-- A draft that the store takes is found there afterwards. -/
theorem Draft.left_of_taken {table : Table} {d : Draft} {now : Int} (url : Option String)
    (outcome : Outcome κ) (writable : (d.stamped now).isWritable)
    (taken : (table.put (d.row campaignId outcome.mapId outcome.mapType now)).isOk) :
    ∃ o document, ((d.decide campaignId
          (table.document? (documentId campaignId outcome.mapId)) url outcome now).apply
            table).outcome = .ok o ∧
      o.status = outcome.status ∧ o.error = outcome.error ∧ o.pictureUrl = url ∧
      ((d.decide campaignId (table.document? (documentId campaignId outcome.mapId)) url outcome
        now).apply table).table.document? (documentId campaignId outcome.mapId) = some document ∧
      Left (table.document? (documentId campaignId outcome.mapId)) d document := by
  rw [Draft.decide]
  split_ifs with same
  · obtain ⟨document, found, same⟩ := (Option.any_eq_true ..).mp same
    exact ⟨_, document, rfl, rfl, rfl, rfl, found, .unchanged found same⟩
  · obtain ⟨after, put⟩ := exists_eq_ok taken
    rw [Decision.apply]
    simp only [put]
    exact ⟨_, _, rfl, rfl, rfl, rfl, Table.document?_of_put_eq_ok put, .written writable⟩

/-- A new picture that cannot be handed over takes the map with it: what is due is lost, and the
table is left as it was. -/
theorem regenerate_loses_due {spec : Spec} {table : Table} {world : σ} {d : Draft}
    {fault : PathPattern.Fault}
    (new : (storedFor campaignId spec table).bind Document.pictureUrl? = none)
    (place : services.blobs.isSome)
    (bad : PathPattern.expand config.pathPattern campaignId spec.id = .error fault)
    (due : Due config campaignId (storedFor campaignId spec table)
      ((regenerate services config campaignId spec table).run world).events spec d) :
    ((regenerate services config campaignId spec table).run world).result =
      ⟨.error (.badPattern fault), table⟩ := by
  rcases making : (spec.make services config campaignId (storedFor campaignId spec table)).run
    world with ⟨answer, events, later⟩
  rw [run_regenerate making] at due ⊢
  have all := Spec.make_completes services config campaignId (storedFor campaignId spec table) spec
    world
  rw [making] at all
  obtain ⟨grid, completes, -⟩ := all d due
  obtain rfl : answer = .error (.badPattern fault) := completes.lost new place fault bad
  rfl

/-! ## A full place for pictures -/

end BattleMaps
