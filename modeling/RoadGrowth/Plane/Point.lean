import RoadGrowth.Numeric.Rounding

/-!
# Points and vectors of the plane

Coordinates are singles and every operation rounds after each step, in the order
in which it is written here. Two points are equal when their bits are;
`Point.coincides` is the numeric comparison.
-/

namespace RoadGrowth

open Numeric

/-- A position or a displacement. -/
structure Point where
  x : Float32
  y : Float32
  deriving DecidableEq

namespace Point

/-- The origin. -/
def origin : Point := ⟨0.0, 0.0⟩

/-- Coordinate-wise sum. -/
def add (left right : Point) : Point := ⟨left.x + right.x, left.y + right.y⟩

/-- Coordinate-wise difference. -/
def sub (left right : Point) : Point := ⟨left.x - right.x, left.y - right.y⟩

instance : Add Point := ⟨add⟩

instance : Sub Point := ⟨sub⟩

/-- A multiple. -/
def scale (point : Point) (factor : Float32) : Point := ⟨point.x * factor, point.y * factor⟩

/-- Distance from the origin. -/
def length (point : Point) : Float32 := (point.x * point.x + point.y * point.y).sqrt

/-- Distance between two points. -/
def distance (left right : Point) : Float32 := (left - right).length

/-- The point at a fraction of the way from one point to another. -/
def between (start finish : Point) (fraction : Float32) : Point :=
  start.scale (1.0 - fraction) + finish.scale fraction

/-- Coordinate-wise smaller values. -/
def least (left right : Point) : Point :=
  ⟨Numeric.least left.x right.x, Numeric.least left.y right.y⟩

/-- Coordinate-wise larger values. -/
def greatest (left right : Point) : Point :=
  ⟨Numeric.greatest left.x right.x, Numeric.greatest left.y right.y⟩

/-- The point brought between two corners, the upper one deciding last. -/
def clamp (point lower upper : Point) : Point :=
  (point.greatest lower).least upper

/-- Equal as numbers on both axes: the two zeros agree and NaN agrees with nothing. -/
def coincides (left right : Point) : Bool := left.x == right.x && left.y == right.y

/-- Both coordinates are finite. -/
def isFinite (point : Point) : Bool := point.x.isFinite && point.y.isFinite

end Point

end RoadGrowth
