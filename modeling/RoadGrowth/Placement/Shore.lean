import RoadGrowth.Placement.Policy
import RoadGrowth.Terrain.Query

/-!
# Staying on land

A candidate must end on land. One that ends in water is shortened step by step,
down to a smallest fraction of its length, until it ends on land.
-/

namespace RoadGrowth

/-- How a candidate that ends in water is shortened. -/
structure Shortening where
  /-- Number of equal steps its length is cut into. -/
  steps : UInt32 := 8
  /-- The smallest fraction to keep. -/
  smallest : Float32 := 0.5
  deriving DecidableEq

namespace Shortening

/-- The fraction of the length that a number of steps makes up. -/
def fraction (shortening : Shortening) (step : Nat) : Float32 :=
  (UInt32.ofNat step).toFloat32 / (max 1 shortening.steps).toFloat32

/-- The first end on land when a candidate is shortened to `step` steps and then step by
step further, as long as the smallest fraction allows. -/
def landingFrom (shortening : Shortening) (terrain : Terrain) (candidate : Candidate) :
    (step : Nat) → Option Point
  | 0 => none
  | step + 1 =>
    if shortening.smallest ≤ shortening.fraction (step + 1) then
      let position := candidate.pointAt (shortening.fraction (step + 1))
      if terrain.isLand position then
        some position
      else
        landingFrom shortening terrain candidate step
    else
      none

/-- The longest shortened end on land. -/
def landing? (shortening : Shortening) (terrain : Terrain) (candidate : Candidate) : Option Point :=
  shortening.landingFrom terrain candidate ((max 1 shortening.steps).toNat - 1)

end Shortening

/-- The constraint to end on land. -/
def Constraint.water (terrain : Terrain) (shortening : Shortening) : Constraint where
  name := "water"
  accepts candidate := terrain.isLand candidate.endPosition
  adjust := shortening.landing? terrain

end RoadGrowth
