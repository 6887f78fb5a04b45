import RoadGrowth.Graph.Nearest
import RoadGrowth.Plane.Heading

/-!
# Growing a graph

A segment grows from a node towards a point. The policy may reject it or move its
end. An end near a node is moved onto that node and the segment then takes the
bearing of it; otherwise a node is added at the end. A growth is planned first,
which changes nothing, and then carried out.
-/

namespace RoadGrowth

/-- A planned segment with the position of its end. -/
structure Growth where
  segment : Segment
  position : Point
  /-- Whether the end is a node to be added. -/
  addsNode : Bool
  deriving DecidableEq

namespace Graph

/-- The candidate for a segment from a node towards a point. -/
def candidate (graph : Graph) (start : Nat) (target : Point) (rotation : Float32)
    (roadClass : RoadClass) : Except Fault Candidate :=
  match graph.nodes[start]? with
  | some node => .ok ⟨start, node.position, target, rotation, roadClass⟩
  | none => .error (.missingStart start)

/-- The heading of a segment whose end is moved onto a node. A node at the start has no bearing. -/
def snappedRotation (candidate : Candidate) (target : Point) : Float32 :=
  if target.coincides candidate.startPosition then
    candidate.rotation
  else
    bearing candidate.startPosition target

/-- The growth of a candidate that ends at a position. -/
def growthTo (graph : Graph) (candidate : Candidate) (position : Point) : Growth :=
  let id := graph.segments.size
  match (graph.nearest position graph.snapDistance).bind fun found => graph.nodes[found]? with
  | some node =>
    ⟨⟨id, candidate.start, node.id, candidate.roadClass,
      snappedRotation candidate node.position⟩, node.position, false⟩
  | none =>
    ⟨⟨id, candidate.start, graph.nodes.size, candidate.roadClass, candidate.rotation⟩,
      position, true⟩

/-- The growth of a candidate; nothing if the policy rejects it. -/
def plan (graph : Graph) (candidate : Candidate) : Option Growth :=
  (graph.policy.resolve candidate).map (graph.growthTo candidate)

/-- Add a segment between nodes. -/
def addSegment (graph : Graph) (segment : Segment) : Graph :=
  { graph with
    nodes := (graph.nodes.modify segment.start fun node =>
      { node with outbound := node.outbound.push segment.id }).modify segment.finish fun node =>
        { node with inbound := node.inbound.push segment.id }
    segments := graph.segments.push segment }

/-- Carry out a growth. -/
def carryOut (graph : Graph) (growth : Growth) : Graph :=
  if growth.addsNode then
    (graph.addNode growth.position).addSegment growth.segment
  else
    graph.addSegment growth.segment

/-- Grow a segment from a node towards a point. A rejected one leaves the graph as it is. -/
def grow (graph : Graph) (start : Nat) (target : Point) (rotation : Float32)
    (roadClass : RoadClass) : Except Fault (Graph × Option Growth) := do
  let candidate ← graph.candidate start target rotation roadClass
  match graph.plan candidate with
  | some growth => return (graph.carryOut growth, some growth)
  | none => return (graph, none)

end Graph

end RoadGrowth
