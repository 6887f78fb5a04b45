import RoadGrowth.Terrain.Query
import RoadGrowth.Turtle.Basic

/-!
# Looking at the population

A turtle samples the density ahead of it. To steer it looks along several headings
and leaves its own only for a strictly better one, the first of the best. To span
it lengthens its step while the density at the next length stays on one side of a
threshold.
-/

namespace RoadGrowth

/-- Which side of a threshold a span stays on. -/
inductive SpanMode where
  | dense
  | sparse
  deriving DecidableEq

namespace SpanMode

/-- All modes. -/
def all : List SpanMode := [dense, sparse]

/-- The name of a mode. -/
def name : SpanMode → String
  | dense => "Dense"
  | sparse => "Sparse"

/-- The mode of a name. -/
def ofName? (text : List Char) : Option SpanMode :=
  all.find? fun mode => mode.name.toList == text

/-- Whether a density is on the side of the mode. -/
def admits (mode : SpanMode) (threshold density : Float32) : Bool :=
  match mode with
  | dense => threshold < density
  | sparse => density < threshold

end SpanMode

/-- The usual arc that a turtle looks across. -/
def usualArc : Float32 := Numeric.halfPi

/-- The usual number of headings across an arc. -/
def usualSamples : UInt32 := 7

/-- A heading and the density found along it. -/
structure Sighting where
  direction : Float32
  density : Float32
  deriving DecidableEq

namespace Turtle

/-- The density at a distance along a direction. -/
def densityAlong (terrain : Terrain) (turtle : Turtle) (direction distance : Float32) : Float32 :=
  terrain.density (turtle.along direction distance)

/-- What the turtle sees one segment length along a direction. -/
def sight (terrain : Terrain) (turtle : Turtle) (direction : Float32) : Sighting :=
  ⟨direction, turtle.densityAlong terrain direction turtle.segmentLength⟩

/-- Evenly spaced headings across an arc around the turtle's own; none for less than two. -/
def sweep (turtle : Turtle) (arc : Float32) (samples : UInt32) : List Float32 :=
  if samples < 2 then
    []
  else
    let first := turtle.direction - arc * 0.5
    let step := arc / (samples - 1).toFloat32
    (List.range samples.toNat).map fun sample => first + step * (UInt32.ofNat sample).toFloat32

/-- The heading with the best density, where `better` compares a density with the best so far. -/
def steer (terrain : Terrain) (turtle : Turtle) (arc : Float32) (samples : UInt32)
    (better : Float32 → Float32 → Bool) : Float32 :=
  ((turtle.sweep arc samples).foldl (fun best direction =>
    let sighting := turtle.sight terrain direction
    if better sighting.density best.density then sighting else best)
    (turtle.sight terrain turtle.direction)).direction

/-- A length made longer by at most `count` steps, while `keeps` holds at the longer length. -/
def lengthen (step : Float32) (keeps : Float32 → Bool) : (count : Nat) → Float32 → Float32
  | 0, length => length
  | count + 1, length =>
    if keeps (length + step) then lengthen step keeps count (length + step) else length

/-- The length of a span; at most `steps` segment lengths and at least one. -/
def spanLength (terrain : Terrain) (turtle : Turtle) (threshold : Float32) (mode : SpanMode)
    (steps : UInt32) : Float32 :=
  lengthen turtle.segmentLength
    (fun length => mode.admits threshold (turtle.densityAlong terrain turtle.direction length))
    (max 1 steps.toNat - 1) turtle.segmentLength

end Turtle

end RoadGrowth
