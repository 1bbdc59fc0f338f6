import BattleMaps.Proofs.Regeneration.Convergence

/-!
# The course of a call

A call for a battle map asks its services in a fixed order. A picture is painted or fetched first,
then grids are read off it, then a grid is laid out from prose, and a new picture is kept last. Each
part may be missing, and whether one comes to pass is decided by the answers in the parts before it.

## Main definitions

* `Stage`, `Event.stage` — what a service is asked for
* `Course`, `Course.Proper` — the parts of a call, and how each depends on those before it
* `Disciplined` — what that means for the sequence of all events

## Main results

* `Course.Proper.countP_le`, `Course.Proper.pairwise_rank` — how often a service is asked, and in
  which order
* `Course.Proper.disciplined` — the events of a proper course are disciplined
-/

namespace BattleMaps

variable {σ κ : Type} {services : Services σ κ} {config : Config κ} {spec : CombatSpec}
  {stored : Option Fields} {paints : Bool} {caused reads laid : List (Event κ)}

/-! ## Stages -/

/-- What a service is asked for. -/
inductive Stage where
  -- The stored picture.
  | fetching
  -- A new picture.
  | painting
  -- A grid that is read off a picture.
  | reading
  -- A grid from a layout in prose.
  | prose
  -- A place for a new picture.
  | keeping
deriving DecidableEq, Repr

namespace Stage

/-- How far a call has come; a picture is either fetched or painted. -/
def rank : Stage → Nat
  | fetching | painting => 0
  | reading => 1
  | prose => 2
  | keeping => 3

/-- How often a call asks at most. -/
def limit (config : Config κ) : Stage → Int
  | fetching | painting | keeping => 1
  | reading | prose => max 0 (config.retries + 1)

end Stage

def Event.stage : Event κ → Stage
  | .completed request _ => if request.picture.isSome then .reading else .prose
  | .painted .. => .painting
  | .uploaded .. => .keeping
  | .downloaded .. => .fetching

/-! ## Requests for a grid -/

/-- Whether events are requests for a grid from prose, no more than allowed. -/
structure Prose (config : Config κ) (prose : List (Event κ)) : Prop where
  stage : ∀ e ∈ prose, e.stage = .prose
  length_le : prose.length ≤ config.attempts.toNat

/-- Whether events are requests to read a grid off a picture, followed by requests for one from
prose, each no more than allowed, and the latter only if none could be read. -/
structure Gridwork (config : Config κ) (spec : CombatSpec) (readings prose : List (Event κ)) :
    Prop where
  stage : ∀ e ∈ readings, e.stage = .reading
  length_le : readings.length ≤ config.attempts.toNat
  enough : (∃ e ∈ readings, e.Succeeds config spec) → prose = []
  laidOut : Prose config prose

theorem Prose.nil : Prose config [] := ⟨fun _ absent => (nomatch absent), Nat.zero_le _⟩

theorem Prose.gridwork (h : Prose config laid) : Gridwork config spec [] laid where
  stage := fun _ absent => nomatch absent
  length_le := Nat.zero_le _
  enough := by simp
  laidOut := h

/-! ## The parts of a call -/

/-- The events of a call, part by part. -/
structure Course (κ : Type) where
  -- A picture is painted or fetched.
  opening : Option (Event κ) := none
  -- Grids are read off it.
  readings : List (Event κ) := []
  -- Grids are laid out from prose.
  prose : List (Event κ) := []
  -- A new picture is kept.
  closing : Option (Event κ) := none

namespace Course

/-- The events of all parts, in their order. -/
def events (c : Course κ) : List (Event κ) :=
  c.opening.toList ++ (c.readings ++ c.prose) ++ c.closing.toList

/-- Whether an event may open a call: a new picture is painted, or the stored one is fetched for
want of a complete grid. -/
inductive Opens (stored : Option Fields) : Event κ → Prop where
  | painted (request : PaintRequest) (answer : Except Fault (Painting κ)) :
      Opens stored (.painted request answer)
  | fetched {url : String} (answer : Except Fault Bytes)
      (there : stored.bind Document.pictureUrl? = some url)
      (incomplete : stored.any Document.hasCompleteGrid = false) :
      Opens stored (.downloaded url answer)

/-- Whether an event may close a call: the picture that was painted is kept, and where no complete
grid is stored, one could be read off it. -/
structure Closes (config : Config κ) (spec : CombatSpec) (stored : Option Fields)
    (opening : Option (Event κ)) (readings : List (Event κ)) (e : Event κ) : Prop where
  painted : ∃ asked painting path answer, opening = some (.painted asked (.ok painting)) ∧
    e = .uploaded ⟨path, painting.picture⟩ answer
  read : stored.any Document.hasCompleteGrid = false → ∃ e ∈ readings, e.Succeeds config spec

/-- How each part of a call depends on the stored document, on whether pictures are painted and
read, and on the parts before it. -/
structure Proper (config : Config κ) (spec : CombatSpec) (stored : Option Fields) (paints : Bool)
    (c : Course κ) : Prop where
  opening : ∀ e ∈ c.opening, Opens stored e
  grids : Gridwork config spec c.readings c.prose
  closing : ∀ e ∈ c.closing, Closes config spec stored c.opening c.readings e
  unpainted : paints = false → c.opening = none ∧ c.readings = []

theorem Proper.of_prose (laidOut : Prose config laid) :
    ({ prose := laid } : Course κ).Proper config spec stored paints where
  opening := fun _ absent => nomatch absent
  grids := laidOut.gridwork
  closing := fun _ absent => nomatch absent
  unpainted := fun _ => ⟨rfl, rfl⟩

/-- Grids may follow whatever opens a call. -/
theorem Proper.of_gridwork {opening : Event κ} (opens : Opens stored opening)
    (grids : Gridwork config spec reads laid) :
    ({ opening := opening, readings := reads, prose := laid } : Course κ).Proper config spec
      stored true where
  opening := by
    rintro _ ⟨⟩
    exact opens
  grids := grids
  closing := fun _ absent => nomatch absent
  unpainted := fun absent => nomatch absent

/-- A picture that was painted, and read where there is no grid, may be kept. -/
theorem Proper.keep (asked : PaintRequest) (painting : Painting κ) (path : String)
    (answer : Except Fault String) (grids : Gridwork config spec reads laid)
    (read : stored.any Document.hasCompleteGrid = false → ∃ e ∈ reads, e.Succeeds config spec) :
    ({ opening := some (.painted asked (.ok painting)), readings := reads, prose := laid,
       closing := some (.uploaded ⟨path, painting.picture⟩ answer) } : Course κ).Proper config spec
      stored true where
  opening := by
    rintro _ ⟨⟩
    exact .painted asked _
  grids := grids
  closing := by
    rintro _ ⟨⟩
    exact ⟨⟨asked, painting, path, answer, rfl, rfl⟩, read⟩
  unpainted := fun absent => nomatch absent

end Course

/-- Whether events are those of a proper course. -/
def Runs (config : Config κ) (spec : CombatSpec) (stored : Option Fields) (paints : Bool)
    (caused : List (Event κ)) : Prop :=
  ∃ c : Course κ, c.events = caused ∧ c.Proper config spec stored paints

theorem Runs.of_prose (laidOut : Prose config laid) : Runs config spec stored paints laid :=
  ⟨_, by simp [Course.events], .of_prose laidOut⟩

theorem runs_nil : Runs config spec stored paints [] := .of_prose .nil

theorem Runs.of_opens {opening : Event κ} (opens : Course.Opens stored opening)
    (grids : Gridwork config spec reads laid) :
    Runs config spec stored true ([opening] ++ (reads ++ laid)) :=
  ⟨_, by simp [Course.events], .of_gridwork opens grids⟩

/-- A picture that was painted may be kept or not. -/
theorem Runs.of_kept {asked : PaintRequest} {painting : Painting κ}
    (grids : Gridwork config spec reads laid)
    (read : stored.any Document.hasCompleteGrid = false → ∃ e ∈ reads, e.Succeeds config spec)
    (kept : caused = [] ∨ ∃ path answer, caused = [.uploaded ⟨path, painting.picture⟩ answer]) :
    Runs config spec stored true
      ([.painted asked (.ok painting)] ++ (reads ++ laid ++ caused)) := by
  rcases kept with rfl | ⟨path, answer, rfl⟩
  · rw [List.append_nil]
    exact .of_opens (.painted asked _) grids
  · exact ⟨_, rfl, .keep asked painting path answer grids read⟩

/-! ## The sequence of all events -/

/-- The discipline of the events of a call for a battle map, given what is stored under its id. -/
structure Disciplined (services : Services σ κ) (config : Config κ) (spec : CombatSpec)
    (stored : Option Fields) (events : List (Event κ)) : Prop where
  -- Where battle maps cannot be painted and read, only prose is asked for.
  unpainted : services.paintsBattleMaps = false → ∀ e ∈ events, e.stage = .prose
  -- Only a stored picture is fetched, and only for want of a complete grid.
  fetched : ∀ url answer, .downloaded url answer ∈ events →
    stored.bind Document.pictureUrl? = some url ∧ stored.any Document.hasCompleteGrid = false
  -- What is kept, after all else, is the picture that was painted, and where no complete grid is
  -- stored, an answer about a picture has become a map before.
  kept : ∀ upload answer, .uploaded upload answer ∈ events →
    ∃ before, events = before ++ [.uploaded upload answer] ∧
      (∃ request painting, .painted request (.ok painting) ∈ before ∧
        upload.picture = painting.picture) ∧
      (stored.any Document.hasCompleteGrid = false →
        ∃ e ∈ before, e.stage = .reading ∧ e.Succeeds config spec)
  ordered : events.Pairwise fun e later => e.stage.rank ≤ later.stage.rank
  limited : ∀ stage : Stage, (events.countP (·.stage = stage) : Int) ≤ stage.limit config
  -- Once an answer about a picture has become a map, prose is not asked for.
  enough : ∀ e ∈ events, e.stage = .reading → e.Succeeds config spec →
    ∀ other ∈ events, other.stage ≠ .prose

namespace Course

variable {c : Course κ} {e : Event κ} {opening : Option (Event κ)} {part : List (Event κ)}
  {own : Stage}

theorem Opens.stage (h : Opens stored e) : e.stage = .painting ∨ e.stage = .fetching := by
  cases h with
  | painted => exact .inl rfl
  | fetched => exact .inr rfl

theorem Closes.stage (h : Closes config spec stored opening reads e) : e.stage = .keeping := by
  obtain ⟨_, _, _, _, -, rfl⟩ := h.painted
  rfl

theorem countP_stage (same : ∀ e ∈ part, e.stage = own) (stage : Stage) :
    part.countP (·.stage = stage) = if own = stage then part.length else 0 := by
  split_ifs with there
  · exact List.countP_eq_length.mpr fun e found => by simpa using (same e found).trans there
  · exact List.countP_eq_zero.mpr fun e found => by simpa [same e found] using there

namespace Proper

variable (h : c.Proper config spec stored paints)

include h

/-- A picture is either painted or fetched. -/
theorem exists_stage_opening :
    ∃ own, (own = .painting ∨ own = .fetching) ∧ ∀ e ∈ c.opening.toList, e.stage = own := by
  cases opening : c.opening with
  | none => exact ⟨.painting, .inl rfl, fun _ absent => nomatch absent⟩
  | some e => exact ⟨e.stage, (h.opening e opening).stage, List.forall_mem_singleton.mpr rfl⟩

theorem stage_closing : ∀ e ∈ c.closing.toList, e.stage = .keeping :=
  fun e found => (h.closing e (Option.mem_toList.mp found)).stage

/-- Every part is as long as its stage allows, and no stage is in two parts. -/
theorem countP_le (stage : Stage) :
    (c.events.countP (·.stage = stage) : Int) ≤ stage.limit config := by
  obtain ⟨own, pictorial, opening⟩ := h.exists_stage_opening
  have openings : c.opening.toList.length ≤ 1 := Option.length_toList_le
  have closings : c.closing.toList.length ≤ 1 := Option.length_toList_le
  have readings := h.grids.length_le
  have prose := h.grids.laidOut.length_le
  rw [Config.attempts] at readings prose
  rw [events, List.countP_append, List.countP_append, List.countP_append, countP_stage opening,
    countP_stage h.grids.stage, countP_stage h.grids.laidOut.stage, countP_stage h.stage_closing]
  rcases pictorial with rfl | rfl <;> cases stage <;>
    simp only [Stage.limit, reduceCtorEq, ↓reduceIte] <;> omega

/-- Events of one part are at one stage, and each part is at a later one than those before it. -/
theorem pairwise_rank : c.events.Pairwise fun e later => e.stage.rank ≤ later.stage.rank := by
  obtain ⟨own, pictorial, opening⟩ := h.exists_stage_opening
  have first : own.rank = 0 := by rcases pictorial with rfl | rfl <;> rfl
  have within {part : List (Event κ)} {own : Stage} (same : ∀ e ∈ part, e.stage = own) :
      part.Pairwise fun e later => e.stage.rank ≤ later.stage.rank :=
    List.pairwise_of_forall_mem_list fun e found later found' => by
      rw [same e found, same later found']
  simp only [events, List.pairwise_append, List.mem_append]
  refine ⟨⟨within opening, ⟨within h.grids.stage, within h.grids.laidOut.stage, ?_⟩, ?_⟩,
    within h.stage_closing, ?_⟩
  · intro e found later found'
    rw [h.grids.stage e found, h.grids.laidOut.stage later found']
    decide
  · intro e found later _
    rw [opening e found, first]
    exact Nat.zero_le _
  · intro e _ later found'
    rw [h.stage_closing later found']
    cases e.stage <;> decide

/-- An event is in the part that it is for. -/
theorem mem_of_stage (found : e ∈ c.events) :
    (e.stage = .reading → e ∈ c.readings) ∧ (e.stage = .prose → e ∈ c.prose) ∧
      (e.stage = .fetching → e ∈ c.opening) ∧ (e.stage = .keeping → e ∈ c.closing) := by
  simp only [events, List.mem_append, Option.mem_toList] at found
  rcases found with (opening | reading | prose) | closing
  · rcases (h.opening e opening).stage with painting | fetching
    · simp [painting]
    · simpa [fetching] using opening
  · simpa [h.grids.stage e reading] using reading
  · simpa [h.grids.laidOut.stage e prose] using prose
  · simpa [(h.closing e closing).stage] using closing

/-- The events of a proper course are disciplined. -/
theorem disciplined (same : paints = services.paintsBattleMaps) :
    Disciplined services config spec stored c.events where
  unpainted := by
    intro unpainted
    obtain ⟨noOpening, noReadings⟩ := h.unpainted (same.trans unpainted)
    have noClosing : c.closing = none := by
      by_contra other
      obtain ⟨e, closing⟩ := Option.ne_none_iff_exists'.mp other
      obtain ⟨_, _, _, _, opening, -⟩ := (h.closing e closing).painted
      rw [noOpening] at opening
      contradiction
    rw [events, noOpening, noReadings, noClosing]
    simpa using h.grids.laidOut.stage
  fetched := by
    intro url answer found
    have opens := h.opening _ ((h.mem_of_stage found).2.2.1 rfl)
    cases opens with
    | fetched _ there incomplete => exact ⟨there, incomplete⟩
  kept := by
    intro upload answer found
    have last := (h.mem_of_stage found).2.2.2 rfl
    obtain ⟨⟨request, painting, path, answer', opening, uploaded⟩, read⟩ := h.closing _ last
    obtain ⟨rfl, rfl⟩ := Event.uploaded.inj uploaded
    refine ⟨c.opening.toList ++ (c.readings ++ c.prose), ?_, ⟨request, painting, ?_, rfl⟩, ?_⟩
    · rw [events, last]
      rfl
    · rw [opening]
      exact List.mem_append_left _ (List.mem_singleton_self _)
    · intro incomplete
      obtain ⟨e, reading, succeeds⟩ := read incomplete
      refine ⟨e, ?_, h.grids.stage e reading, succeeds⟩
      exact List.mem_append_right _ (List.mem_append_left _ reading)
  ordered := h.pairwise_rank
  limited := h.countP_le
  enough := by
    intro e found reading succeeds other found' prose
    have none := h.grids.enough ⟨e, (h.mem_of_stage found).1 reading, succeeds⟩
    have laidOut := (h.mem_of_stage found').2.1 prose
    rw [none] at laidOut
    contradiction

end Proper

end Course

end BattleMaps
