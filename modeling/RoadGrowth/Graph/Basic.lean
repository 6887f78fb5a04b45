import RoadGrowth.Graph.CellIndex
import RoadGrowth.Placement.Policy

/-!
# Road graphs

A graph holds nodes and directed segments. Both are numbered from zero in the
order in which they were added and neither is ever removed. The numbers are natural
numbers here: both arenas are taken to stay below `2 ^ 32` entries, so that every
number fits a word of 32 bits. A node lists the segments that end at it and those
that start from it. A graph may index its nodes by terrain cell; the index must be
there before the first node.
-/

namespace RoadGrowth

/-- An intersection of roads. -/
structure Node where
  id : Nat
  position : Point
  inbound : Array Nat := #[]
  outbound : Array Nat := #[]
  deriving DecidableEq

/-- Number of segments that touch a node; one that both starts and ends there counts once. -/
def Node.degree (node : Node) : Nat :=
  node.inbound.size + node.outbound.countP fun segment => !node.inbound.contains segment

/-- A piece of road from one node to another. -/
structure Segment where
  id : Nat
  start : Nat
  finish : Nat
  roadClass : RoadClass
  /-- Heading of the segment. -/
  rotation : Float32
  deriving DecidableEq

/-- A growing road network. -/
structure Graph where
  policy : Policy
  /-- An end at most this far from a node is moved onto it. -/
  snapDistance : Float32
  nodes : Array Node
  segments : Array Segment
  index : Option CellIndex

namespace Graph

/-- The usual snap distance. -/
def usualSnapDistance : Float32 := Float32.ofBits 0x3ca3d70a

/-- The graph without nodes. -/
def empty (policy : Policy) (snapDistance : Float32 := usualSnapDistance) : Graph :=
  ⟨policy, snapDistance, #[], #[], none⟩

/-- The same graph with an index for a terrain. -/
def withIndex (graph : Graph) (terrain : Terrain) : Except Fault Graph :=
  if graph.nodes.isEmpty then
    .ok { graph with index := some (CellIndex.empty terrain) }
  else
    .error .indexAfterNodes

/-- The node of a number. -/
def node (graph : Graph) (id : Nat) : Except Fault Node :=
  match graph.nodes[id]? with
  | some node => .ok node
  | none => .error .noSuchNode

/-- The segment of a number. -/
def segment (graph : Graph) (id : Nat) : Except Fault Segment :=
  match graph.segments[id]? with
  | some segment => .ok segment
  | none => .error .noSuchSegment

/-- Start and end position of a segment. -/
def endpoints (graph : Graph) (segment : Segment) : Except Fault (Point × Point) := do
  let start ← graph.node segment.start
  let finish ← graph.node segment.finish
  return (start.position, finish.position)

/-- Length of a segment. -/
def segmentLength (graph : Graph) (segment : Segment) : Except Fault Float32 := do
  let (start, finish) ← graph.endpoints segment
  return start.distance finish

/-- The nodes of a cell; none without an index. -/
def nodesInCell (graph : Graph) (column row : Nat) : Except Fault (Array Nat) :=
  match graph.index with
  | some index => index.inCell column row
  | none => .ok #[]

/-- Add a node. It gets the next number. -/
def addNode (graph : Graph) (position : Point) : Graph :=
  let id := graph.nodes.size
  { graph with
    nodes := graph.nodes.push { id, position }
    index := graph.index.map fun index => index.insert id position }

end Graph

end RoadGrowth
