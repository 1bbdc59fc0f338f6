import BattleMaps.Config
import BattleMaps.Prompt.Instructions
import BattleMaps.Prompt.Request
import BattleMaps.Proposal
import BattleMaps.Reply
import BattleMaps.Service.Work

/-!
# Generating a grid

A model is asked for a map and asked again, with the same request, until its answer becomes a map
or the attempts are used up. Every answer that came back is paid for, whether or not it became a
map. There are two ways to ask: with the layout in prose, in five tile kinds, or with a picture, in
three.

## Main definitions

* `Approach`: the two ways to ask
* `judge`: what an answer becomes
* `generate`: asking until an answer becomes a map
-/

namespace BattleMaps

/-- The two ways to ask for a grid. -/
inductive Approach where
  -- From the layout in prose.
  | layout
  -- From a picture.
  | reading
deriving DecidableEq, Repr

namespace Approach

def name : Approach → String
  | .layout => "text_to_grid"
  | .reading => "image_to_grid"

def encoding : Approach → Encoding
  | .layout => .extended
  | .reading => .legacy

end Approach

/-- The request for a grid; with a picture the map is read off it, without one it is laid out from
prose. -/
def gridRequest {κ : Type} (config : Config κ) (spec : CombatSpec) :
    Option Picture → CompletionRequest
  | none =>
    { instructions := Prompt.layoutInstructions, prompt := Prompt.layout spec,
      maxTokens := config.maxTokens, temperature := config.layoutTemperature }
  | some picture =>
    { instructions := Prompt.readingInstructions, prompt := Prompt.reading spec,
      maxTokens := config.maxTokens, temperature := config.readingTemperature,
      picture := some picture }

def approach : Option Picture → Approach
  | none => .layout
  | some _ => .reading

/-- The map that an answer becomes, or the text of what is wrong with it. -/
def judge (spec : CombatSpec) (encoding : Encoding) (floor : Float) (answer : String) :
    Except String BattleMap :=
  match Reply.read answer with
  | .error fault => .error fault.message
  | .ok proposal => (Proposal.accept spec encoding floor proposal).mapError Violation.message

structure Generated (κ : Type) where
  map : BattleMap
  -- What all attempts cost.
  cost : κ
  approach : Approach
  attempts : Nat

/-- Attempts that led to no map. -/
structure Exhausted (κ : Type) where
  approach : String
  attempts : Int
  lastError : String
  -- What all attempts cost.
  cost : κ

def Exhausted.message {κ : Type} (e : Exhausted κ) : String :=
  s!"{e.approach} failed after {e.attempts} attempts: {e.lastError}"

variable {σ κ : Type} [Amount κ]

/-- Asks up to `left` more times; `asked` attempts lie behind, `cost` is what they cost, and
`lastError` is what was wrong with the last one. -/
def askRepeatedly (services : Services σ κ) (config : Config κ) (spec : CombatSpec)
    (picture : Option Picture) :
    (left asked : Nat) → (cost : κ) → (lastError : String) →
      Work σ κ (Except (Exhausted κ) (Generated κ))
  | 0, _, cost, lastError =>
    pure (.error ⟨(approach picture).name, config.attempts, lastError, cost⟩)
  | left + 1, asked, cost, _ => do
    match ← Work.ask services.complete .completed (gridRequest config spec picture) with
    -- a service that fails costs nothing, but an attempt
    | .error fault => askRepeatedly services config spec picture left (asked + 1) cost fault.text
    | .ok reply =>
      let cost := cost + reply.cost
      match judge spec (approach picture).encoding config.minWalkable reply.text with
      | .ok map => pure (.ok ⟨map, cost, approach picture, asked + 1⟩)
      | .error why => askRepeatedly services config spec picture left (asked + 1) cost why

/-- Asks for a grid until an answer becomes a map or the attempts are used up. -/
def generate (services : Services σ κ) (config : Config κ) (spec : CombatSpec)
    (picture : Option Picture) : Work σ κ (Except (Exhausted κ) (Generated κ)) :=
  askRepeatedly services config spec picture config.attempts.toNat 0 0 "no attempts made"

end BattleMaps
