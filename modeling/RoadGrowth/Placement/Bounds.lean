import RoadGrowth.Placement.Policy
import RoadGrowth.Plane.Rectangle

/-!
# Staying inside a rectangle

A candidate must end inside a rectangle. One that starts inside and leaves it is
cut where it crosses the first edge.
-/

namespace RoadGrowth

open Numeric

namespace Bounds

/-- The fraction of a move along one axis at which it meets the edge in its way, if
that is less than the fraction given. -/
def cut (fraction start move lower upper : Float32) : Float32 :=
  if 0.0 < move then
    least fraction ((upper - start) / move)
  else if move < 0.0 then
    least fraction ((lower - start) / move)
  else
    fraction

/-- The fraction of a candidate that lies inside a rectangle. -/
def fractionInside (rectangle : Rectangle) (candidate : Candidate) : Float32 :=
  let start := candidate.startPosition
  let move := candidate.endPosition - start
  let fraction := cut 1.0 start.x move.x rectangle.lower.x rectangle.upper.x
  cut fraction start.y move.y rectangle.lower.y rectangle.upper.y

/-- The end that keeps a candidate inside a rectangle. -/
def clip (rectangle : Rectangle) (candidate : Candidate) : Option Point :=
  if rectangle.contains candidate.startPosition then
    let fraction := fractionInside rectangle candidate
    if 0.0 < fraction then
      some ((candidate.pointAt fraction).clamp rectangle.lower rectangle.upper)
    else
      none
  else
    none

end Bounds

/-- The constraint to end inside a rectangle. -/
def Constraint.bounds (rectangle : Rectangle) : Constraint where
  name := "bounds"
  accepts candidate := rectangle.contains candidate.endPosition
  adjust := Bounds.clip rectangle

end RoadGrowth
