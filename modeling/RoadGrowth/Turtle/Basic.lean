import RoadGrowth.Graph.RoadClass
import RoadGrowth.Numeric.Arctangent
import RoadGrowth.Plane.Heading

/-!
# Turtles

A turtle stands on a node of the graph, looks along a heading and carries the
measures it draws with. Once its branch has ended it draws no more.
-/

namespace RoadGrowth

open Numeric

/-- A drawing cursor. -/
structure Turtle where
  position : Point
  /-- Heading in radians. -/
  direction : Float32
  roadClass : RoadClass
  segmentLength : Float32
  /-- Factor of one shortening of the segment length. -/
  lengthScale : Float32
  /-- Usual turn in radians. -/
  angle : Float32
  /-- Factor of one narrowing of the usual turn. -/
  angleScale : Float32
  /-- The node that the next segment starts from. -/
  node : Nat
  ended : Bool
  deriving DecidableEq

/-- The measures of a new turtle. -/
structure TurtleSettings where
  direction : Float32 := halfPi
  roadClass : RoadClass := .highway
  segmentLength : Float32 := Float32.ofBits 0x3d4ccccd
  lengthScale : Float32 := Float32.ofBits 0x3f666666
  angle : Float32 := eighthPi
  angleScale : Float32 := Float32.ofBits 0x3f666666
  deriving DecidableEq

/-- A new turtle on a node. -/
def TurtleSettings.spawn (settings : TurtleSettings) (position : Point) (node : Nat) : Turtle where
  position
  direction := settings.direction
  roadClass := settings.roadClass
  segmentLength := settings.segmentLength
  lengthScale := settings.lengthScale
  angle := settings.angle
  angleScale := settings.angleScale
  node
  ended := false

namespace Turtle

/-- The unit vector of the heading. -/
def heading (turtle : Turtle) : Point := headingVector turtle.direction

/-- The point at a distance along a direction. -/
def along (turtle : Turtle) (direction distance : Float32) : Point :=
  turtle.position + (headingVector direction).scale distance

/-- The point at a distance ahead. -/
def ahead (turtle : Turtle) (distance : Float32) : Point :=
  turtle.along turtle.direction distance

end Turtle

end RoadGrowth
