import RoadGrowth.Plane.Point

/-!
# Rectangles along the axes

A rectangle is its two corners. The empty one has them the wrong way round at
infinity, so that growing it by a point gives that point alone.
-/

namespace RoadGrowth

/-- A rectangle with its lower and its upper corner. -/
structure Rectangle where
  lower : Point
  upper : Point
  deriving DecidableEq

namespace Rectangle

/-- The rectangle without points. -/
def empty : Rectangle := ⟨⟨1.0 / 0.0, 1.0 / 0.0⟩, ⟨-1.0 / 0.0, -1.0 / 0.0⟩⟩

/-- Whether the corners are the wrong way round on some axis. -/
def isEmpty (rectangle : Rectangle) : Bool :=
  rectangle.upper.x < rectangle.lower.x || rectangle.upper.y < rectangle.lower.y

/-- Width and height. -/
def size (rectangle : Rectangle) : Point := rectangle.upper - rectangle.lower

/-- Whether a point lies inside or on an edge. -/
def contains (rectangle : Rectangle) (point : Point) : Bool :=
  rectangle.lower.x ≤ point.x && point.x ≤ rectangle.upper.x &&
    rectangle.lower.y ≤ point.y && point.y ≤ rectangle.upper.y

/-- The rectangle grown to hold a point. -/
def including (rectangle : Rectangle) (point : Point) : Rectangle :=
  ⟨rectangle.lower.least point, rectangle.upper.greatest point⟩

/-- The smallest rectangle that holds every point of a list. -/
def ofPoints (points : List Point) : Rectangle :=
  points.foldl including empty

end Rectangle

end RoadGrowth
