import BattleMaps.Decimal.Reading
import BattleMaps.Service.Work
import BattleMaps.Text.Base64
import BattleMaps.Text.Blank

/-!
# A service that completes prompts

Prompts are completed by a language model that takes a message in blocks, with the picture before
the text, and answers in blocks with a count of the tokens read and written. The text of the
answer is that of its text blocks, one after the other; the cost follows from the counts. A count
that no double comes near has no cost, and an answer with it is a failure of the service.

## Main definitions

* `Message`: a message to the model
* `Answer`: what the model says, and the tokens it took
* `Completer.service`: the service, over whatever answers messages
-/

namespace BattleMaps

inductive MessageBlock where
  | text (s : String)
  -- A picture, with its bytes in base 64.
  | picture (mediaType data : String)
deriving DecidableEq, Repr

structure Message where
  model : String
  instructions : String
  maxTokens : Int
  temperature : Float
  blocks : List MessageBlock

structure AnswerBlock where
  kind : String
  -- Its text, which only text blocks are sure to have.
  text : String
deriving DecidableEq, Repr

/-- What the model says, and the tokens it took. -/
structure Answer where
  blocks : List AnswerBlock
  tokensRead : Int
  tokensWritten : Int
deriving DecidableEq, Repr

namespace Completer

/-- The model that is asked unless another one is named. -/
def standardModel : String := "claude-sonnet-4-5"

def readCost : Float := 3.0 / 1000000

def writeCost : Float := 15.0 / 1000000

/-- A count as a double, unless it is too large for any. -/
def count? (n : Int) : Option Float :=
  let x := Decimal.ofScientific (n < 0) n.natAbs 0
  if x.isInf then none else some x

/-- What tokens cost, unless a count is too large. -/
def usageCost? (tokensRead tokensWritten : Int) : Option Float := do
  let tokensRead ← count? tokensRead
  let tokensWritten ← count? tokensWritten
  some (tokensRead * readCost + tokensWritten * writeCost)

/-- The failure of a service that counts more tokens than a double can tell. -/
def hugeCount : Fault := ⟨"HugeCount", "int too large to convert to float"⟩

def message (model : String) (r : CompletionRequest) : Message where
  model := model
  instructions := r.instructions
  maxTokens := r.maxTokens
  temperature := r.temperature
  blocks :=
    (match r.picture with
     | some p => [.picture p.mediaType (Text.Base64.encode p.bytes)]
     | none => [])
    ++ [.text r.prompt]

def text (a : Answer) : String :=
  Text.trim (String.join ((a.blocks.filter fun b => b.kind == "text").map (·.text)))

/-- The completion that an answer is, if its cost is known. -/
def completion (a : Answer) : Except Fault (Completion Float) :=
  match usageCost? a.tokensRead a.tokensWritten with
  | some cost => .ok ⟨text a, cost⟩
  | none => .error hugeCount

/-- The service, over whatever answers messages. -/
def service {σ : Type} (model : String) (answer : Service σ Message Answer) :
    Service σ CompletionRequest (Completion Float) := fun r world =>
  let (a, world) := answer (message model r) world
  (a.bind completion, world)

end Completer

end BattleMaps
