import RoadGrowth.Graph.RoadClass
import RoadGrowth.Plane.Point

/-!
# Candidate segments

A candidate is a segment that is proposed and not placed yet. Its end may still be
moved; nothing else about it changes.
-/

namespace RoadGrowth

/-- A proposed segment. -/
structure Candidate where
  /-- The node it starts from. -/
  start : Nat
  startPosition : Point
  endPosition : Point
  rotation : Float32
  roadClass : RoadClass
  deriving DecidableEq

namespace Candidate

/-- Distance from start to end. -/
def length (candidate : Candidate) : Float32 :=
  candidate.startPosition.distance candidate.endPosition

/-- The same candidate with another end. -/
def withEnd (candidate : Candidate) (position : Point) : Candidate :=
  { candidate with endPosition := position }

/-- The point at a fraction of the way. -/
def pointAt (candidate : Candidate) (fraction : Float32) : Point :=
  candidate.startPosition.between candidate.endPosition fraction

end Candidate

end RoadGrowth
