/-!
# Settings of a generation run

How often a model is asked again, how much it may write, what share of a map must be walkable,
where pictures are kept, and what each step is expected to cost. The expected costs serve previews
only.

## Main definitions

* `Config`: the settings
* `Config.standard`: the settings in use unless others are given
-/

namespace BattleMaps

/-- The settings of a generation run, with costs of any kind. -/
structure Config (κ : Type) where
  -- How often a model is asked again after a failure; a negative number means it is not asked at
  -- all.
  retries : Int := 2
  maxTokens : Int := 4096
  layoutTemperature : Float := 0.4
  readingTemperature : Float := 0.2
  minWalkable : Float := 0.3
  -- The format that stored pictures are taken to have.
  pictureType : String := "image/webp"
  -- The pattern of the paths that pictures are kept under.
  pathPattern : String := "campaign-maps/\x7bcampaign_id\x7d/\x7bmap_spec_id\x7d.webp"
  -- The expected cost of painting a picture.
  paintingCost : κ
  readingCost : κ
  layoutCost : κ

/-- The settings in use unless others are given. -/
def Config.standard : Config Float where
  paintingCost := 0.03
  readingCost := 0.03
  layoutCost := 0.04

/-- How often a model is asked at most. -/
def Config.attempts {κ : Type} (config : Config κ) : Int := config.retries + 1

end BattleMaps
