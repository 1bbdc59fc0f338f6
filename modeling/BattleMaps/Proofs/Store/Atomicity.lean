import BattleMaps.Proofs.Json.Rearrangement
import BattleMaps.Proofs.Store.Saving

/-!
# Units of work, one after another

A unit of work carries out its steps until they are at an end, until its user fails, or until one of
its changes is refused. However it ends, others see of it exactly what it had put before one of its
commits, unless it had rolled that back first. The unit itself sees all that it has put and not
rolled back.

## Main definitions

* `Deposit` — a document that a unit is to put, with the key and the map that it belongs to
* `Step`, `Event`, `perform` — what a unit is asked to do, and what it does
* `lasting`, `inView` — the deposits of a unit that others see in the end, and that it sees itself
* `Accounts` — whether a unit ends with just these deposits
* `Puts` — whether deposits, one after another, make one table of another

## Main results

* `carryOut_accounts` — what a unit has committed and what it works on, step by step
* `puts_tableAfter` — what a sequence of units leaves
* `Puts.document?_eq`, `Puts.owner_eq` — the documents and the rows that deposits leave
* `units_atomic` — what a later unit sees
-/

namespace BattleMaps.Store

open Json (Rearranged Regular)

/-! ## Units -/

/-- A document that is to be put under a key, for a map of a campaign. -/
structure Deposit where
  id : String
  campaignId : String
  mapId : String
  mapType : String
  document : Fields

namespace Deposit

def row (d : Deposit) : Row :=
  ⟨d.id, d.campaignId, d.mapId, d.mapType, Json.write (.object d.document)⟩

/-- The document as it is read back. -/
def found (d : Deposit) : Fields := Json.readFields d.row.payload

end Deposit

/-- Puts a deposit into a unit. A document that cannot be written never gets as far as the table. -/
def UnitOfWork.deposit (u : UnitOfWork) (d : Deposit) : Except Conflict UnitOfWork :=
  if Json.isWritable (.object d.document) then u.put d.row else .error .longInteger

/-- A step that a unit is asked to take. -/
inductive Step where
  | put (d : Deposit)
  | get (id : String)
  | commit
  | rollback
  -- The user of the unit fails, which ends it.
  | fail

/-- A step that a unit has taken, with the answer. -/
inductive Event where
  | put (d : Deposit)
  | got (id : String) (answer : Option Fields)
  | committed
  | rolledBack

inductive Ending where
  | finished
  | failed
  | refused (c : Conflict)
deriving DecidableEq

/-- What has become of a unit: its events, why there are no more of them, and how it stands. -/
structure Course where
  events : List Event
  ending : Ending
  unit : UnitOfWork

/-- A course with an event before all others. -/
def Course.after (e : Event) (c : Course) : Course := { c with events := e :: c.events }

namespace UnitOfWork

/-- Carries out the steps of a unit up to the first that ends it. -/
def carryOut (u : UnitOfWork) : List Step → Course
  | [] => ⟨[], .finished, u⟩
  | .put d :: rest =>
    match u.deposit d with
    | .ok u => (u.carryOut rest).after (.put d)
    | .error c => ⟨[], .refused c, u⟩
  | .get id :: rest => (u.carryOut rest).after (.got id (u.working.document? id))
  | .commit :: rest => (u.commit.carryOut rest).after .committed
  | .rollback :: rest => (u.rollback.carryOut rest).after .rolledBack
  | .fail :: _ => ⟨[], .failed, u⟩

end UnitOfWork

/-- A whole unit on a table. -/
def perform (t : Table) (steps : List Step) : Course := (UnitOfWork.start t).carryOut steps

/-- What others find once a unit has ended. -/
def Course.table (c : Course) : Table := c.unit.exit.committed

/-! ## What becomes of deposits -/

/-- What becomes of the deposits that a unit has made so far. -/
inductive Fate where
  | committed
  | rolledBack
  | undecided
deriving DecidableEq

/-- What the events to come make of the deposits before them: the first commit or rollback
decides. -/
def fate : List Event → Fate
  | [] => .undecided
  | .committed :: _ => .committed
  | .rolledBack :: _ => .rolledBack
  | .put _ :: rest => fate rest
  | .got _ _ :: rest => fate rest

/-- The deposits among events, as far as their fate is as it should be. -/
def depositsOf (wanted : Fate → Bool) : List Event → List Deposit
  | [] => []
  | .put d :: rest =>
    if wanted (fate rest) then d :: depositsOf wanted rest else depositsOf wanted rest
  | _ :: rest => depositsOf wanted rest

/-- The deposits that are followed by a commit before any rollback and before the end. -/
def lasting : List Event → List Deposit := depositsOf (· = .committed)

/-- The deposits that have not been rolled back. -/
def inView : List Event → List Deposit := depositsOf (· ≠ .rolledBack)

/-! ## Deposits one after another -/

/-- Whether deposits can be put into a table one after another, and what that makes of it. -/
def Puts (t : Table) (ds : List Deposit) (t' : Table) : Prop :=
  ds.foldlM (fun t (d : Deposit) => t.put d.row) t = .ok t'

variable {t t' t'' : Table} {d : Deposit} {ds ds' : List Deposit} {u u' : UnitOfWork}
  {steps : List Step} {units : List (List Step)} {id : String} {row old : Row}

theorem Puts.nil : Puts t [] t := rfl

theorem puts_cons_iff : Puts t (d :: ds) t'' ↔ ∃ t', t.put d.row = .ok t' ∧ Puts t' ds t'' := by
  rw [Puts, List.foldlM_cons, bind_eq_ok]
  rfl

theorem Puts.append (h : Puts t ds t') (h' : Puts t' ds' t'') : Puts t (ds ++ ds') t'' := by
  rw [Puts, List.foldlM_append, bind_eq_ok]
  exact ⟨t', h, h'⟩

/-- The last deposit under an id. -/
def latest (id : String) (ds : List Deposit) : Option Deposit := ds.reverse.find? (·.id == id)

theorem latest_cons :
    latest id (d :: ds) = (latest id ds).or (if d.id = id then some d else none) := by
  rw [latest, List.reverse_cons, List.find?_append, latest]
  by_cases same : d.id = id <;> simp [same]

/-- The document under an id is the last one that was put there, if any was. -/
theorem Puts.document?_eq (h : Puts t ds t') (id : String) :
    t'.document? id = ((latest id ds).map Deposit.found).or (t.document? id) := by
  induction ds generalizing t with
  | nil =>
    obtain rfl := Except.ok.inj h
    rfl
  | cons d rest ih =>
    obtain ⟨t₁, put, others⟩ := puts_cons_iff.mp h
    rw [ih others, latest_cons]
    -- A later deposit under the id counts; otherwise it is this one, if it is under the id.
    cases later : latest id rest with
    | some d' => rfl
    | none =>
      by_cases same : d.id = id
      · subst same
        rw [if_pos rfl]
        exact Table.document?_of_put_eq_ok put
      · rw [if_neg same]
        exact Table.document?_of_put_eq_ok_of_ne put same

/-! ## Rows -/

/-- Replacing the row under an id leaves its campaign and its map as they are, and all other rows
altogether. -/
theorem Table.forall₂_of_put_eq_ok (h : t.put row = .ok t') (known : (t.row? row.id).isSome) :
    List.Forall₂ (fun r r' : Row =>
      r' = if r.id = row.id then { r with mapType := row.mapType, payload := row.payload } else r)
      t t' := by
  rcases put_eq_ok_cases h with ⟨-, rfl⟩ | ⟨unknown, -⟩
  · refine List.forall₂_map_right_iff.mpr (List.forall₂_same.mpr fun r _ => ?_)
    by_cases same : r.id = row.id <;> simp [replaced, Row.withContent, same]
  · rw [unknown] at known
    contradiction

/-- A row that is there stays with its campaign and its map, whatever is put. -/
theorem Puts.owner_eq (h : Puts t ds t') (there : t.row? id = some old) :
    ∃ r, t'.row? id = some r ∧ r.campaignId = old.campaignId ∧ r.mapId = old.mapId := by
  induction ds generalizing t old with
  | nil =>
    obtain rfl := Except.ok.inj h
    exact ⟨old, there, rfl, rfl⟩
  | cons d rest ih =>
    obtain ⟨t₁, put, others⟩ := puts_cons_iff.mp h
    rcases Table.put_eq_ok_cases put with ⟨-, rfl⟩ | ⟨-, rfl⟩
    · have replaced : Table.row? (t.map (Table.replaced d.row.id d.row.mapType d.row.payload)) id =
          some (Table.replaced d.row.id d.row.mapType d.row.payload old) := by
        rw [Table.row?_map_of_id _ fun _ => Table.replaced_id, there, Option.map_some]
      obtain ⟨r, found, campaign, map⟩ := ih others replaced
      refine ⟨r, found, campaign.trans ?_, map.trans ?_⟩ <;>
        (unfold Table.replaced; split_ifs <;> rfl)
    · exact ih others (by rw [Table.row?_append_singleton, there, Option.some_or])

/-! ## One unit -/

theorem UnitOfWork.deposit_eq_ok (h : u.deposit d = .ok u') :
    Json.isWritable (.object d.document) ∧ u'.committed = u.committed ∧
      u.working.put d.row = .ok u'.working := by
  unfold deposit at h
  split_ifs at h with writable
  obtain ⟨t, put, rfl⟩ := map_eq_ok.mp h
  exact ⟨writable, rfl, put⟩

/-- What a unit starts from that commits next: what it works on, if that is not rolled back
first. -/
def Fate.base (u : UnitOfWork) : Fate → Table
  | .committed => u.working
  | .rolledBack | .undecided => u.committed

/-- What a unit works on, unless that is rolled back first. -/
def Fate.view (u : UnitOfWork) : Fate → Table
  | .rolledBack => u.committed
  | .committed | .undecided => u.working

/-- Whether what a unit has committed in the end are its lasting deposits, and what it works on are
those in its view. -/
structure Accounts (u : UnitOfWork) (c : Course) : Prop where
  committed : Puts ((fate c.events).base u) (lasting c.events) c.unit.committed
  working : Puts ((fate c.events).view u) (inView c.events) c.unit.working

/-- A deposit is one of those of its fate, and comes before all others of them. -/
theorem Accounts.put {c : Course} (h : Accounts u' c) (deposited : u.deposit d = .ok u') :
    Accounts u (c.after (.put d)) := by
  obtain ⟨-, committed, put⟩ := UnitOfWork.deposit_eq_ok deposited
  obtain ⟨kept, seen⟩ := h
  have passed : fate (c.after (.put d)).events = fate c.events := rfl
  constructor
  · rw [passed, lasting, Course.after, depositsOf]
    cases decided : fate c.events <;> rw [decided] at kept
    case committed => exact puts_cons_iff.mpr ⟨_, put, kept⟩
    all_goals
      rw [Fate.base, committed] at kept
      exact kept
  · rw [passed, inView, Course.after, depositsOf]
    cases decided : fate c.events <;> rw [decided] at seen
    case rolledBack =>
      rw [Fate.view, committed] at seen
      exact seen
    all_goals exact puts_cons_iff.mpr ⟨_, put, seen⟩

/-- A unit that works on what is committed, as it does at its start, after a commit and after a
rollback, starts from that one table. -/
theorem Accounts.of_start {c : Course} (h : Accounts (.start t) c) :
    Puts t (lasting c.events) c.unit.committed ∧ Puts t (inView c.events) c.unit.working := by
  obtain ⟨kept, seen⟩ := h
  have base : ∀ f : Fate, f.base (.start t) = t := by rintro (_ | _ | _) <;> rfl
  have view : ∀ f : Fate, f.view (.start t) = t := by rintro (_ | _ | _) <;> rfl
  rw [base] at kept
  rw [view] at seen
  exact ⟨kept, seen⟩

/-- What becomes of a unit, step by step. -/
theorem carryOut_accounts (u : UnitOfWork) (steps : List Step) : Accounts u (u.carryOut steps) := by
  induction steps generalizing u with
  | nil => exact ⟨.nil, .nil⟩
  | cons step rest ih =>
    cases step with
    | put d =>
      rw [UnitOfWork.carryOut]
      split
      · rename_i u' deposited
        exact (ih u').put deposited
      · exact ⟨.nil, .nil⟩
    | get id => exact ⟨(ih u).committed, (ih u).working⟩
    | commit => exact ⟨(ih u.commit).of_start.1, (ih u.commit).of_start.2⟩
    | rollback => exact ⟨(ih u.rollback).of_start.1, (ih u.rollback).of_start.2⟩
    | fail => exact ⟨.nil, .nil⟩

/-- An event of a course that is not its first one is among the others. -/
theorem Course.events_after_eq_append {c : Course} {e e' : Event} {before after : List Event}
    (apart : e ≠ e') (h : (c.after e).events = before ++ e' :: after) :
    ∃ earlier, before = e :: earlier ∧ c.events = earlier ++ e' :: after := by
  rcases List.cons_eq_append_iff.mp h with ⟨-, first⟩ | later
  · exact absurd (List.cons.inj first).1.symm apart
  · exact later

/-- A unit that gets a document has taken some steps before, and answers from what it works on. -/
theorem exists_carryOut_of_got {answer : Option Fields} {before after : List Event}
    (h : (u.carryOut steps).events = before ++ .got id answer :: after) :
    ∃ earlier, (u.carryOut earlier).events = before ∧
      answer = (u.carryOut earlier).unit.working.document? id := by
  induction steps generalizing u before with
  | nil => simp [UnitOfWork.carryOut] at h
  | cons step rest ih =>
    cases step with
    | put d =>
      rw [UnitOfWork.carryOut] at h
      split at h
      · rename_i u' deposited
        obtain ⟨before, rfl, there⟩ := Course.events_after_eq_append (by rintro ⟨⟩) h
        obtain ⟨earlier, rfl, rfl⟩ := ih there
        refine ⟨.put d :: earlier, ?_, ?_⟩ <;> rw [UnitOfWork.carryOut, deposited] <;> rfl
      · simp at h
    | get other =>
      rcases List.cons_eq_append_iff.mp h with ⟨rfl, here⟩ | ⟨before, rfl, there⟩
      · cases here
        exact ⟨[], rfl, rfl⟩
      · obtain ⟨earlier, rfl, rfl⟩ := ih there
        exact ⟨.get other :: earlier, rfl, rfl⟩
    | commit =>
      obtain ⟨before, rfl, there⟩ := Course.events_after_eq_append (by rintro ⟨⟩) h
      obtain ⟨earlier, rfl, rfl⟩ := ih there
      exact ⟨.commit :: earlier, rfl, rfl⟩
    | rollback =>
      obtain ⟨before, rfl, there⟩ := Course.events_after_eq_append (by rintro ⟨⟩) h
      obtain ⟨earlier, rfl, rfl⟩ := ih there
      exact ⟨.rollback :: earlier, rfl, rfl⟩
    | fail => simp [UnitOfWork.carryOut] at h

/-- Only what can be written is put. -/
theorem isWritable_of_mem_events (h : .put d ∈ (u.carryOut steps).events) :
    Json.isWritable (.object d.document) := by
  induction steps generalizing u with
  | nil => simp [UnitOfWork.carryOut] at h
  | cons step rest ih =>
    cases step with
    | put other =>
      rw [UnitOfWork.carryOut] at h
      split at h
      · rename_i u' deposited
        rcases List.mem_cons.mp h with same | there
        · obtain rfl := Event.put.inj same
          exact (UnitOfWork.deposit_eq_ok deposited).1
        · exact ih there
      · simp at h
    | fail => simp [UnitOfWork.carryOut] at h
    | _ => exact ih (by simpa [UnitOfWork.carryOut, Course.after] using h)

/-! ## One unit after another -/

/-- What is left when units have been performed one after another. -/
def tableAfter (t : Table) (units : List (List Step)) : Table :=
  units.foldl (fun t steps => (perform t steps).table) t

/-- The events of units that are performed one after another, unit by unit. -/
def eventsOf (t : Table) : List (List Step) → List (List Event)
  | [] => []
  | steps :: rest => (perform t steps).events :: eventsOf (perform t steps).table rest

/-- What a unit leaves are its lasting deposits. -/
theorem puts_perform (t : Table) (steps : List Step) :
    Puts t (lasting (perform t steps).events) (perform t steps).table :=
  (carryOut_accounts (.start t) steps).of_start.1

/-- What a sequence of units leaves are the lasting deposits of all of them. -/
theorem puts_tableAfter (t : Table) (units : List (List Step)) :
    Puts t ((eventsOf t units).flatMap lasting) (tableAfter t units) := by
  induction units generalizing t with
  | nil => exact .nil
  | cons steps rest ih => exact (puts_perform t steps).append (ih (perform t steps).table)

/-- What a unit gets is what it has put and not rolled back, or what was there at its start. -/
theorem answer_eq {answer : Option Fields} {before after : List Event}
    (h : (perform t steps).events = before ++ .got id answer :: after) :
    answer = ((latest id (inView before)).map Deposit.found).or (t.document? id) := by
  obtain ⟨earlier, rfl, rfl⟩ := exists_carryOut_of_got h
  exact (carryOut_accounts (.start t) earlier).of_start.2.document?_eq id

theorem isWritable_of_mem_eventsOf {events : List Event} (h : events ∈ eventsOf t units)
    (put : .put d ∈ events) : Json.isWritable (.object d.document) := by
  induction units generalizing t with
  | nil => simp [eventsOf] at h
  | cons steps rest ih =>
    rcases List.mem_cons.mp h with rfl | there
    · exact isWritable_of_mem_events put
    · exact ih there

/-- Whatever units are performed one after another, and however each of them ends: what is left is
what their lasting deposits make of the table, one after another; so under each id a later unit
finds the last of them, or what was there at first. Inside a unit, a get finds the last deposit
under the id that has not been rolled back, or else what was there at its start. What is found is
what was put. Putting something under an id that is there replaces the kind of map and the payload
of its row and nothing else, so a row belongs to the same map of the same campaign for good. -/
theorem units_atomic (t : Table) (units : List (List Step)) :
    let kept := (eventsOf t units).flatMap lasting
    let left := tableAfter t units
    Puts t kept left ∧
      (∀ id, left.document? id = ((latest id kept).map Deposit.found).or (t.document? id)) ∧
      (∀ id old, t.row? id = some old →
        ∃ r, left.row? id = some r ∧ r.campaignId = old.campaignId ∧ r.mapId = old.mapId) ∧
      (∀ steps before id answer after,
        (perform left steps).events = before ++ .got id answer :: after →
        answer = ((latest id (inView before)).map Deposit.found).or (left.document? id)) ∧
      (∀ events ∈ eventsOf t units, ∀ d, .put d ∈ events →
        Regular Json.maxDepth (.object d.document) →
        Rearranged (.object d.found) (.object d.document)) ∧
      ∀ (before after : Table) (row : Row), (before.row? row.id).isSome →
        before.put row = .ok after →
        List.Forall₂ (fun r r' : Row =>
          r' = if r.id = row.id then { r with mapType := row.mapType, payload := row.payload }
            else r) before after := by
  intro kept left
  have puts : Puts t kept left := puts_tableAfter t units
  refine ⟨puts, puts.document?_eq, fun id old there => puts.owner_eq there,
    fun steps before id answer after got => answer_eq got, fun events made d put regular => ?_,
    fun before after row known put => Table.forall₂_of_put_eq_ok put known⟩
  exact Json.rearranged_readFields_write regular (isWritable_of_mem_eventsOf made put)

/-! ## An evening at the isle -/

/-- The inn, and later another document under its key, with another campaign and map. -/
def inn : Deposit := ⟨"isle_inn", "isle", "inn", "combat", [("name", .text "The inn")]⟩

def innAgain : Deposit := ⟨"isle_inn", "moor", "ford", "combat", [("name", .text "The old inn")]⟩

def cave : Deposit := ⟨"isle_cave", "isle", "cave", "combat", [("name", .text "The cave")]⟩

def mill : Deposit := ⟨"isle_mill", "isle", "mill", "combat", [("name", .text "The mill")]⟩

/-- A deposit of a kind that no table takes. -/
def fog : Deposit := ⟨"isle_fog", "isle", "fog", "weather", []⟩

/-- Of these units only the inn and what is put under its key later lasts: the cave is rolled back,
the mill is lost with a failure, and once more with a refusal. -/
def evening : List (List Step) :=
  [[.put inn, .commit, .put cave, .rollback, .put mill, .fail, .commit],
   [.put innAgain, .commit, .put mill, .put fog, .commit]]

theorem evening_atomic :
    ((tableAfter [] evening).document? "isle_inn" = some innAgain.found ∧
      (tableAfter [] evening).document? "isle_cave" = none ∧
      (tableAfter [] evening).document? "isle_mill" = none) ∧
      ∀ answer, (perform (tableAfter [] evening) [.put mill, .get "isle_mill", .rollback]).events =
        [.put mill, .got "isle_mill" answer, .rolledBack] → answer = some mill.found := by
  obtain ⟨-, found, -, got, -⟩ := units_atomic [] evening
  have kept : (eventsOf [] evening).flatMap lasting = [inn, innAgain] := by rfl
  rw [kept] at found
  refine ⟨⟨found _, found _, found _⟩, fun answer events => ?_⟩
  exact got [.put mill, .get "isle_mill", .rollback] [.put mill] "isle_mill" answer [.rolledBack]
    events

end BattleMaps.Store
