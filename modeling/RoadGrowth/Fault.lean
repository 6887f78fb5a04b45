/-!
# Faults

A fault is a request outside what an operation is defined for. It is reported
before anything has changed, so the state from before the request stays valid.
-/

namespace RoadGrowth

/-- Why an operation could not be carried out. -/
inductive Fault where
  | vertexOutside (column row columns rows : Nat)
  | cellOutside (column row columns rows : Nat)
  | roadCellOutside (column row columns rows : Nat)
  | emptyTerrain (columns rows : Nat)
  | missingStart (node : Nat)
  | indexAfterNodes
  | noSuchNode
  | noSuchSegment
  /-- A noise coordinate is NaN or beyond 64 signed bits. -/
  | latticeOverflow
  /-- A random range is empty or wider than the largest single. -/
  | unboundedRange
  deriving DecidableEq

namespace Fault

/-- The text of a fault; the last four have none. -/
def message? : Fault → Option String
  | vertexOutside column row columns rows =>
    some s!"vertex ({column}, {row}) outside grid [{columns}, {rows}]"
  | cellOutside column row columns rows =>
    some s!"cell ({column}, {row}) outside grid [{columns}, {rows}]"
  | roadCellOutside column row columns rows =>
    some s!"road grid cell [{column}, {row}] outside grid [{columns}, {rows}]"
  | emptyTerrain columns rows =>
    some s!"terrain divisions must be non-zero, got [{columns}, {rows}]"
  | missingStart node =>
    some s!"segment start IntersectionId({node}) is not an existing intersection"
  | indexAfterNodes => some "road grid attached to a non-empty graph"
  | noSuchNode => none
  | noSuchSegment => none
  | latticeOverflow => none
  | unboundedRange => none

end Fault

end RoadGrowth
