import BattleMaps.Service.Work
import Mathlib.Logic.Basic

/-!
# Contracts of work with the services

What a piece of work does depends on the services, and a service may answer anything. A contract
says what holds nevertheless: which events the work may cause, and what its result is like, from
every state of the world. Contracts of the parts make the contract of the whole.

## Main definitions

* `Work.Ensures` — a contract: a kind of events, and a kind of results
* `Work.Yields` — a contract that relies on the events: a kind of results, if they are of a kind
* `Work.Traces` — a contract about all that happens: which result comes of which events
* `Work.Asks` — whether some service is asked in any case
* `Work.Steady` — whether the result does not depend on the world
* `Event.isCompletion`, `Event.isPictorial` — which service an event is about

## Main results

* `Work.Ensures.bind` — one piece of work after another
* `Work.Ensures.ask` — a single question
* `Work.Yields.bind`, `Work.Yields.ask` — the same for contracts that rely on the events
* `Work.Traces.bind`, `Work.Traces.ask` — the same for contracts about all that happens
* `Work.Steady.bind`, `Work.Steady.ask` — steady parts make the whole steady
-/

namespace BattleMaps

variable {σ κ α β ρ : Type}

/-- Whether an event is a prompt. -/
def Event.isCompletion : Event κ → Prop
  | .completed .. => True
  | _ => False

/-- Whether an event is a request for a new picture, or to keep one. -/
def Event.isPictorial : Event κ → Prop
  | .painted .. => True
  | .uploaded .. => True
  | _ => False

theorem Event.not_isPictorial_of_isCompletion {e : Event κ} (h : e.isCompletion) :
    ¬ e.isPictorial := by
  cases e with
  | completed => exact id
  | _ => exact h.elim

theorem Services.paintsBattleMaps_iff {services : Services σ κ} :
    services.paintsBattleMaps ↔ services.paint.isSome ∧ services.readsPictures :=
  Bool.and_eq_true_iff

namespace Work

theorem pure_bind (a : α) (next : α → Work σ κ β) : (Pure.pure a >>= next) = next a := rfl

/-- Whether a piece of work, from whatever state of the world, causes only events of a kind and
has a result of a kind. -/
def Ensures (work : Work σ κ α) (event : Event κ → Prop) (post : α → Prop) : Prop :=
  ∀ world, (∀ e ∈ (work.run world).events, event e) ∧ post (work.run world).result

namespace Ensures

variable {work : Work σ κ α} {next : α → Work σ κ β} {event event' : Event κ → Prop}
  {post post' : α → Prop} {last : β → Prop}

theorem pure {a : α} (h : post a) : Ensures (Pure.pure a : Work σ κ α) event post := by
  intro world
  rw [run_pure]
  exact ⟨by simp, h⟩

theorem bind (first : work.Ensures event post)
    (second : ∀ a, post a → (next a).Ensures event last) :
    (work >>= next).Ensures event last := by
  intro world
  obtain ⟨before, middle⟩ := first world
  -- The second piece starts from the world and the result that the first one left.
  obtain ⟨after, result⟩ := second _ middle (work.run world).world
  rw [run_bind]
  refine ⟨fun e found => ?_, result⟩
  exact (List.mem_append.mp found).elim (before e) (after e)

/-- Whatever a service answers, the only event is the question with its answer. -/
theorem ask {service : Service σ ρ α} {note : ρ → Except Fault α → Event κ} {request : ρ}
    (h : ∀ answer, event (note request answer)) :
    (Work.ask service note request).Ensures event fun _ => True := by
  intro world
  rw [run_ask]
  exact ⟨fun e found => List.mem_singleton.mp found ▸ h _, trivial⟩

theorem peek {f : σ → α} (h : ∀ a, post a) : (Work.peek f : Work σ κ α).Ensures event post := by
  intro world
  rw [run_peek]
  exact ⟨by simp, h _⟩

theorem mono (h : work.Ensures event post) (events : ∀ e, event e → event' e)
    (results : ∀ a, post a → post' a) : work.Ensures event' post' := by
  intro world
  obtain ⟨all, result⟩ := h world
  exact ⟨fun e found => events e (all e found), results _ result⟩

/-- Nothing need be known of the events or of a result. -/
theorem any : work.Ensures (fun _ => True) fun _ => True :=
  fun _ => ⟨fun _ _ => trivial, trivial⟩

/-- A contract that a result is promised under can be used where the promise does not matter. -/
theorem events_mono (h : work.Ensures event post) (events : ∀ e, event e → event' e) :
    work.Ensures event' post :=
  h.mono events fun _ result => result

end Ensures

/-- Whether a piece of work has a result of a kind, from whatever state of the world, if all events
that it causes are of a kind. -/
def Yields (work : Work σ κ α) (event : Event κ → Prop) (post : α → Prop) : Prop :=
  ∀ world, (∀ e ∈ (work.run world).events, event e) → post (work.run world).result

namespace Yields

variable {work : Work σ κ α} {next : α → Work σ κ β} {event event' : Event κ → Prop}
  {post post' : α → Prop} {last : β → Prop}

/-- What is promised whatever happens may be relied on. -/
theorem of_ensures (h : work.Ensures event' post) : work.Yields event post :=
  fun world _ => (h world).2

theorem pure {a : α} (h : post a) : Yields (Pure.pure a : Work σ κ α) event post := fun _ _ => h

/-- Nothing need be known of a result. -/
theorem any : work.Yields event fun _ => True := fun _ _ => trivial

theorem bind (first : work.Yields event post)
    (second : ∀ a, post a → (next a).Yields event last) :
    (work >>= next).Yields event last := by
  intro world all
  rw [run_bind] at all ⊢
  obtain ⟨before, after⟩ := List.forall_mem_append.mp all
  exact second _ (first world before) _ after

/-- Whatever a service answers, the event that notes the answer is of the kind. -/
theorem ask {service : Service σ ρ α} {note : ρ → Except Fault α → Event κ} {request : ρ} :
    (Work.ask service note request).Yields event fun answer => event (note request answer) := by
  intro world all
  rw [run_ask] at all ⊢
  exact all _ (List.mem_singleton_self _)

theorem mono (h : work.Yields event post) (results : ∀ a, post a → post' a) :
    work.Yields event post' :=
  fun world all => results _ (h world all)

theorem and (h : work.Yields event post) (h' : work.Yields event post') :
    work.Yields event fun a => post a ∧ post' a :=
  fun world all => ⟨h world all, h' world all⟩

end Yields

/-- Whether the result of a piece of work and the list of the events that it causes fit together,
from whatever state of the world. -/
def Traces (work : Work σ κ α) (shape : α → List (Event κ) → Prop) : Prop :=
  ∀ world, shape (work.run world).result (work.run world).events

namespace Traces

variable {work : Work σ κ α} {next : α → Work σ κ β} {shape shape' : α → List (Event κ) → Prop}
  {last : β → List (Event κ) → Prop}

theorem pure {a : α} (h : shape a []) : Traces (Pure.pure a : Work σ κ α) shape := fun _ => h

/-- The events of the second piece of work follow those of the first. -/
theorem bind (first : work.Traces shape)
    (second : ∀ a before, shape a before →
      (next a).Traces fun b after => last b (before ++ after)) :
    (work >>= next).Traces last := by
  intro world
  rw [run_bind]
  exact second _ _ (first world) _

theorem ask {service : Service σ ρ α} {note : ρ → Except Fault α → Event κ} {request : ρ} :
    (Work.ask service note request).Traces fun answer events => events = [note request answer] :=
  fun _ => rfl

theorem mono (h : work.Traces shape) (weaker : ∀ a events, shape a events → shape' a events) :
    work.Traces shape' :=
  fun world => weaker _ _ (h world)

theorem and (h : work.Traces shape) (h' : work.Traces shape') :
    work.Traces fun a events => shape a events ∧ shape' a events :=
  fun world => ⟨h world, h' world⟩

/-- What only makes something of the answer adds no events. -/
theorem bind_pure (first : work.Traces shape)
    (second : ∀ a events, shape a events → ∃ b, next a = Pure.pure b ∧ last b events) :
    (work >>= next).Traces last := by
  refine first.bind fun a events shaped => ?_
  obtain ⟨b, done, holds⟩ := second a events shaped
  rw [done]
  refine .pure ?_
  rwa [List.append_nil]

/-- A second piece of work that asks nobody adds no events. -/
theorem bind_silent {post : α → β → Prop} (first : work.Traces shape)
    (second : ∀ a, (next a).Ensures (fun _ => False) (post a)) :
    (work >>= next).Traces fun b events => ∃ a, shape a events ∧ post a b := by
  refine first.bind fun a before shaped world => ?_
  obtain ⟨none, result⟩ := second a world
  rw [List.eq_nil_iff_forall_not_mem.mpr none, List.append_nil]
  exact ⟨a, shaped, result⟩

end Traces

/-- A contract is one about all that happens. -/
theorem Ensures.traces {work : Work σ κ α} {event : Event κ → Prop} {post : α → Prop}
    (h : work.Ensures event post) :
    work.Traces fun a events => (∀ e ∈ events, event e) ∧ post a := h

/-- A contract that relies on the events is one about all that happens. -/
theorem Yields.traces {work : Work σ κ α} {event : Event κ → Prop} {post : α → Prop}
    (h : work.Yields event post) :
    work.Traces fun a events => (∀ e ∈ events, event e) → post a := h

/-- Whether a piece of work asks some service, from whatever state of the world. -/
def Asks (work : Work σ κ α) : Prop := ∀ world, (work.run world).events ≠ []

theorem asks_ask {service : Service σ ρ α} {note : ρ → Except Fault α → Event κ} {request : ρ} :
    (Work.ask service note request).Asks := by
  intro world
  rw [run_ask]
  exact List.cons_ne_nil _ _

/-- Work that begins with a question asks it, whatever follows. -/
theorem Asks.bind {work : Work σ κ α} (first : work.Asks) (next : α → Work σ κ β) :
    (work >>= next).Asks := by
  intro world silent
  rw [run_bind] at silent
  exact first world (List.append_eq_nil_iff.mp silent).1

/-- Whether a piece of work has the same result from every state of the world. -/
def Steady (work : Work σ κ α) : Prop :=
  ∀ world world', (work.run world).result = (work.run world').result

namespace Steady

variable {work : Work σ κ α} {next : α → Work σ κ β}

theorem pure (a : α) : Steady (Pure.pure a : Work σ κ α) := fun _ _ => rfl

theorem bind (first : work.Steady) (second : ∀ a, (next a).Steady) : (work >>= next).Steady := by
  intro world world'
  rw [run_bind, run_bind, first world world']
  exact second _ _ _

/-- Work that asks a service is steady if the answers do not depend on the world. -/
theorem ask {service : Service σ ρ α} {note : ρ → Except Fault α → Event κ} {request : ρ}
    (same : ∀ world world', (service request world).1 = (service request world').1) :
    (Work.ask service note request).Steady := by
  intro world world'
  rw [run_ask, run_ask]
  exact same world world'

end Steady

end Work

end BattleMaps
