import Std.Data.HashSet
import RoadGrowth.Graph.Basic
import RoadGrowth.Plane.Rectangle

/-!
# Summaries

A summary counts the parts of a graph and measures its roads. A segment is retraced
if an earlier one joins the same two nodes, in either direction.
-/

namespace RoadGrowth

/-- Counts and measures of a graph. -/
structure Summary where
  nodes : Nat
  segments : Nat
  highways : Nat
  roads : Nat
  streets : Nat
  totalLength : Float32
  pavedArea : Float32
  retraced : Nat
  /-- Nodes touched by exactly one segment. -/
  deadEnds : Nat
  bounds : Rectangle
  deriving DecidableEq

/-- Number of segments of a class. -/
def Summary.count (summary : Summary) : RoadClass → Nat
  | .highway => summary.highways
  | .road => summary.roads
  | .street => summary.streets

/-- The two nodes that a segment joins, the lower number first. -/
def Segment.joined (segment : Segment) : Nat × Nat :=
  (min segment.start segment.finish, max segment.start segment.finish)

/-- Number of entries of a list that stand further ahead in it too. -/
def repetitions (pairs : List (Nat × Nat)) : Nat :=
  (pairs.foldl (fun (seen, count) pair =>
    if seen.contains pair then (seen, count + 1) else (seen.insert pair, count))
    ((∅ : Std.HashSet (Nat × Nat)), 0)).2

namespace Graph

/-- Number of segments of a class. -/
def countClass (graph : Graph) (roadClass : RoadClass) : Nat :=
  graph.segments.countP fun segment => segment.roadClass = roadClass

/-- Lengths of all segments, in order. -/
def lengths (graph : Graph) : Except Fault (List (RoadClass × Float32)) :=
  graph.segments.toList.mapM fun segment => do
    return (segment.roadClass, ← graph.segmentLength segment)

/-- The summary of a graph. -/
def summary (graph : Graph) : Except Fault Summary := do
  let lengths ← graph.lengths
  return {
    nodes := graph.nodes.size
    segments := graph.segments.size
    highways := graph.countClass .highway
    roads := graph.countClass .road
    streets := graph.countClass .street
    totalLength := lengths.foldl (fun total (_, length) => total + length) 0.0
    pavedArea := lengths.foldl (fun total (roadClass, length) =>
      total + length * roadClass.nominalWidth) 0.0
    retraced := repetitions (graph.segments.toList.map Segment.joined)
    deadEnds := graph.nodes.countP fun node => node.degree = 1
    bounds := Rectangle.ofPoints (graph.nodes.toList.map Node.position) }

end Graph

end RoadGrowth
