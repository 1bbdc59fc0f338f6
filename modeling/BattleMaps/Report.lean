import BattleMaps.Outcome

/-!
# Reports

A run is reported by phases, with an outcome for each map. Counts and costs are sums over the
outcomes; costs are added from the left, phase by phase.

## Main definitions

* `Phase`, `Report`: the outcomes of a run
* `Report.totalCost`: what the run cost
-/

namespace BattleMaps

structure Phase (κ : Type) where
  name : String
  outcomes : List (Outcome κ) := []

namespace Phase

variable {κ : Type}

def successes (p : Phase κ) : Nat := p.outcomes.countP Outcome.isOk

def failures (p : Phase κ) : Nat := p.outcomes.countP fun o => !o.isOk

variable [Amount κ]

def completionCost (p : Phase κ) : κ := Amount.sum (p.outcomes.map (·.completionCost))

def imageCost (p : Phase κ) : κ := Amount.sum (p.outcomes.map (·.imageCost))

end Phase

structure Report (κ : Type) where
  campaignId : String
  isPreview : Bool := false
  -- The phases, in order; a preview has none.
  phases : List (Phase κ) := []
  -- The ids of the maps that the run covers.
  plannedIds : List String := []
  estimatedCost : κ

namespace Report

variable {κ : Type}

def successes (r : Report κ) : Nat := (r.phases.map Phase.successes).foldl (· + ·) 0

def failures (r : Report κ) : Nat := (r.phases.map Phase.failures).foldl (· + ·) 0

variable [Amount κ]

def completionCost (r : Report κ) : κ := Amount.sum (r.phases.map Phase.completionCost)

def imageCost (r : Report κ) : κ := Amount.sum (r.phases.map Phase.imageCost)

/-- What the run cost, phase by phase. -/
def totalCost (r : Report κ) : κ :=
  Amount.sum (r.phases.map fun p => p.completionCost + p.imageCost)

end Report

end BattleMaps
