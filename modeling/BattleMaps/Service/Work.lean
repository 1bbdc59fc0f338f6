import BattleMaps.Text.Utf8

/-!
# Services

Maps are made with the help of services outside the library: one completes prompts, one paints
pictures, one keeps them. Their behaviour is a parameter. A service answers a request from a state
of the world and leaves a new one, so a script of prepared answers, a function of the request and
a real connection are all services.

A piece of work with the services yields, besides its result, the events that it caused, in their
order. Each event holds the request and the answer, so what was asked, what came back and what it
cost can all be read off the events.

Costs are amounts of any kind that can be added and multiplied by a count.

## Main definitions

* `Fault`: the failure of a service
* `Event`: a request with its answer
* `Work`: a piece of work with the services
* `Services`: the services at hand
-/

namespace BattleMaps

/-- Amounts of money: they can be added up from nothing and multiplied by a count. -/
class Amount (κ : Type) extends Zero κ, Add κ where
  -- The amount for several of a kind; the amount comes first.
  times : κ → Nat → κ

instance zeroFloat : Zero Float := ⟨0⟩

instance amountFloat : Amount Float where
  times x n := x * Float.ofNat n

/-- The sum of amounts, added from the left. -/
def Amount.sum {κ : Type} [Amount κ] (amounts : List κ) : κ := amounts.foldl (· + ·) 0

/-- The failure of a service: what it says, and the name of its kind. -/
structure Fault where
  kind : String
  message : String
deriving DecidableEq, Repr

/-- The text that stands for a failure; a silent one is known by its kind. -/
def Fault.text (f : Fault) : String := if f.message.isEmpty then f.kind else f.message

/-- A picture inside a request: its bytes and their format. -/
structure Picture where
  bytes : Bytes
  -- The format, as a media type.
  mediaType : String
deriving DecidableEq

structure CompletionRequest where
  instructions : String
  prompt : String
  maxTokens : Int
  temperature : Float
  picture : Option Picture := none

structure Completion (κ : Type) where
  text : String
  cost : κ

structure PaintRequest where
  prompt : String
  unwanted : String
deriving DecidableEq

structure Painting (κ : Type) where
  picture : Picture
  cost : κ

structure UploadRequest where
  path : String
  picture : Picture
deriving DecidableEq

/-- A request to a service with its answer. -/
inductive Event (κ : Type) where
  | completed (request : CompletionRequest) (answer : Except Fault (Completion κ))
  | painted (request : PaintRequest) (answer : Except Fault (Painting κ))
  -- An object was handed over; the answer is its address.
  | uploaded (request : UploadRequest) (answer : Except Fault String)
  -- An object was fetched by its address.
  | downloaded (url : String) (answer : Except Fault Bytes)

/-- A service: from a request and a state of the world to an answer and the state after it. -/
abbrev Service (σ ρ α : Type) := ρ → σ → Except Fault α × σ

structure BlobStore (σ : Type) where
  upload : Service σ UploadRequest String
  download : Service σ String Bytes

structure Services (σ κ : Type) where
  complete : Service σ CompletionRequest (Completion κ)
  readsPictures : Bool
  paint : Option (Service σ PaintRequest (Painting κ))
  blobs : Option (BlobStore σ)
  -- The time, in milliseconds since 1970.
  now : σ → Int

/-- Whether battle maps can be painted and then read. -/
def Services.paintsBattleMaps {σ κ : Type} (s : Services σ κ) : Bool :=
  s.paint.isSome && s.readsPictures

def Services.paintsOverviews {σ κ : Type} (s : Services σ κ) : Bool := s.paint.isSome

/-- The result of a piece of work, the events it caused, in order, and the world after it. -/
structure Done (σ κ α : Type) where
  result : α
  -- The events, in the order in which they happened.
  events : List (Event κ)
  world : σ

/-- A piece of work with the services. -/
def Work (σ κ α : Type) := σ → Done σ κ α

namespace Work

variable {σ κ α β ρ : Type}

def run (work : Work σ κ α) (world : σ) : Done σ κ α := work world

protected def pure (a : α) : Work σ κ α := fun world => ⟨a, [], world⟩

/-- One piece of work after another; the events follow one another too. -/
protected def bind (work : Work σ κ α) (next : α → Work σ κ β) : Work σ κ β := fun world =>
  let first := work world
  let second := next first.result first.world
  ⟨second.result, first.events ++ second.events, second.world⟩

instance : Monad (Work σ κ) where
  pure := Work.pure
  bind := Work.bind

def peek (f : σ → α) : Work σ κ α := fun world => ⟨f world, [], world⟩

def change (f : σ → σ) : Work σ κ Unit := fun world => ⟨(), [], f world⟩

/-- Asks a service, and notes the event. -/
def ask (service : Service σ ρ α) (event : ρ → Except Fault α → Event κ) (request : ρ) :
    Work σ κ (Except Fault α) := fun world =>
  let (answer, world) := service request world
  ⟨answer, [event request answer], world⟩

@[simp] theorem run_pure (a : α) (world : σ) :
    (pure a : Work σ κ α).run world = ⟨a, [], world⟩ := rfl

@[simp] theorem run_bind (work : Work σ κ α) (next : α → Work σ κ β) (world : σ) :
    (work >>= next).run world =
      ⟨((next (work.run world).result).run (work.run world).world).result,
       (work.run world).events ++
         ((next (work.run world).result).run (work.run world).world).events,
       ((next (work.run world).result).run (work.run world).world).world⟩ := rfl

@[simp] theorem run_peek (f : σ → α) (world : σ) :
    (peek f : Work σ κ α).run world = ⟨f world, [], world⟩ := rfl

@[simp] theorem run_change (f : σ → σ) (world : σ) :
    (change f : Work σ κ Unit).run world = ⟨(), [], f world⟩ := rfl

@[simp] theorem run_ask (service : Service σ ρ α) (event : ρ → Except Fault α → Event κ)
    (request : ρ) (world : σ) :
    (ask service event request).run world =
      ⟨(service request world).1, [event request (service request world).1],
       (service request world).2⟩ := rfl

end Work

end BattleMaps
