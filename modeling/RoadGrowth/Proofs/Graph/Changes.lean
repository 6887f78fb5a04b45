import RoadGrowth.Placement.Bounds
import RoadGrowth.Proofs.Graph.Extension
import RoadGrowth.Proofs.Graph.Lookups

/-!
# What a growth changes

A growth is rejected as a whole or carried out as a whole. A segment that is added comes
behind all others, and its number behind those that its start and its end list; nothing
else of the nodes that were there changes. The index changes only if a node is added at
the end, and then in the bucket of that node only.
-/

namespace RoadGrowth

namespace Graph

/-- What a graph becomes with a segment behind the others. Of the nodes that were there only the
two ends change, and each of them in one list. -/
structure Gains (graph : Graph) (segment : Segment) (next : Graph) : Prop where
  policy_eq : next.policy = graph.policy
  snapDistance_eq : next.snapDistance = graph.snapDistance
  segments_eq : next.segments = graph.segments.push segment
  nodes_eq : ∀ {id : Nat} {node : Node}, graph.nodes[id]? = some node →
    next.nodes[id]? = some (node.linked id segment)
  /-- No list had the number of the segment before. -/
  unlisted : ∀ {id : Nat} {node : Node}, graph.nodes[id]? = some node →
    segment.id ∉ node.outbound ∧ segment.id ∉ node.inbound

variable {graph next : Graph} {candidate : Candidate} {segment : Segment} {start : Nat}
  {target : Point} {rotation : Float32} {roadClass : RoadClass}

/-- A consistent graph lists no segment that is still to come. -/
theorem Consistent.unlisted (consistent : graph.Consistent) {id : Nat} {node : Node}
    (known : graph.nodes[id]? = some node) :
    graph.segments.size ∉ node.outbound ∧ graph.segments.size ∉ node.inbound := by
  obtain ⟨inbound, outbound⟩ := consistent.listed_lt known
  exact ⟨fun member => Nat.lt_irrefl _ (outbound _ member),
    fun member => Nat.lt_irrefl _ (inbound _ member)⟩

theorem Consistent.gains_addSegment (consistent : graph.Consistent)
    (numbered : segment.id = graph.segments.size) :
    graph.Gains segment (graph.addSegment segment) where
  policy_eq := rfl
  snapDistance_eq := rfl
  segments_eq := rfl
  nodes_eq known := by rw [nodes_addSegment, known, Option.map_some]
  unlisted known := numbered ▸ consistent.unlisted known

/-- A node added at the end leaves the nodes that were there as they are. -/
theorem Consistent.gains_addNode (consistent : graph.Consistent) (position : Point)
    (numbered : segment.id = graph.segments.size) :
    graph.Gains segment ((graph.addNode position).addSegment segment) where
  policy_eq := rfl
  snapDistance_eq := rfl
  segments_eq := rfl
  nodes_eq known := by
    have old := Nat.ne_of_lt (lt_size_of_known known)
    rw [nodes_addSegment, nodes_addNode, if_neg old, known, Option.map_some]
  unlisted known := numbered ▸ consistent.unlisted known

/-- A node added at the end of a segment lists that segment only. -/
theorem nodes_extending (started : candidate.start < graph.nodes.size) (position : Point) :
    ((graph.addNode position).addSegment (graph.extending candidate)).nodes[graph.nodes.size]? =
      some ⟨graph.nodes.size, position, #[graph.segments.size], #[]⟩ := by
  have startOld : candidate.start ≠ graph.nodes.size := Nat.ne_of_lt started
  rw [nodes_addSegment, nodes_addNode, if_pos rfl, Option.map_some]
  simp [Node.linked, extending, startOld]

/-! ## The outcomes of a growth -/

section Outcomes

variable {origin : Node} (known : graph.nodes[start]? = some origin)

include known

theorem grow_of_refused
    (refused : graph.policy.resolve ⟨start, origin.position, target, rotation, roadClass⟩ = none) :
    graph.grow start target rotation roadClass = .ok (graph, none) := by
  rw [grow_of_start known, plan, refused]
  rfl

variable {position : Point} (resolved :
  graph.policy.resolve ⟨start, origin.position, target, rotation, roadClass⟩ = some position)

include resolved

/-- An end near a node joins it. -/
theorem grow_of_near {found : Nat} {node : Node}
    (near : graph.nearest position graph.snapDistance = some found)
    (nodeKnown : graph.nodes[found]? = some node) :
    let segment := graph.joining ⟨start, origin.position, target, rotation, roadClass⟩ node
    graph.grow start target rotation roadClass =
      .ok (graph.addSegment segment, some ⟨segment, node.position, false⟩) := by
  simp only [grow_of_start known, plan, resolved, Option.map_some, growthTo, near,
    Option.bind_some, nodeKnown]
  rfl

/-- An end near no node gets one of its own. -/
theorem grow_of_free (free : graph.nearest position graph.snapDistance = none) :
    let segment := graph.extending ⟨start, origin.position, target, rotation, roadClass⟩
    graph.grow start target rotation roadClass =
      .ok ((graph.addNode position).addSegment segment, some ⟨segment, position, true⟩) := by
  simp only [grow_of_start known, plan, resolved, Option.map_some, growthTo, free,
    Option.bind_none]
  rfl

end Outcomes

/-- All that a growth does. Without a start it fails, and rejected by the policy it changes
nothing. Otherwise one segment with the next number is added from the start. It ends at the node
found near the resolved end, with the bearing of that node unless it lies where the start is; or
else at a node added exactly at the resolved end. -/
theorem grow_outcomes (reachable : graph.Reachable) (start : Nat) (target : Point)
    (rotation : Float32) (roadClass : RoadClass) :
    (graph.nodes[start]? = none →
      graph.grow start target rotation roadClass = .error (.missingStart start)) ∧
    ∀ origin, graph.nodes[start]? = some origin →
      (graph.policy.resolve ⟨start, origin.position, target, rotation, roadClass⟩ = none →
        graph.grow start target rotation roadClass = .ok (graph, none)) ∧
      ∀ position,
        graph.policy.resolve ⟨start, origin.position, target, rotation, roadClass⟩ =
          some position →
        (∀ found, graph.nearest position graph.snapDistance = some found →
          ∃ node heading next, graph.nodes[found]? = some node ∧
            heading = (if node.position.coincides origin.position then rotation
              else bearing origin.position node.position) ∧
            graph.grow start target rotation roadClass = .ok (next,
              some ⟨⟨graph.segments.size, start, found, roadClass, heading⟩, node.position,
                false⟩) ∧
            graph.Gains ⟨graph.segments.size, start, found, roadClass, heading⟩ next ∧
            next.nodes.size = graph.nodes.size ∧ next.index = graph.index) ∧
        (graph.nearest position graph.snapDistance = none →
          ∃ next,
            graph.grow start target rotation roadClass = .ok (next,
              some ⟨⟨graph.segments.size, start, graph.nodes.size, roadClass, rotation⟩, position,
                true⟩) ∧
            graph.Gains ⟨graph.segments.size, start, graph.nodes.size, roadClass, rotation⟩ next ∧
            next.nodes.size = graph.nodes.size + 1 ∧
            next.nodes[graph.nodes.size]? =
              some ⟨graph.nodes.size, position, #[graph.segments.size], #[]⟩ ∧
            (graph.index = none → next.index = none) ∧
            ∀ index, graph.index = some index →
              next.index = some (index.insert graph.nodes.size position) ∧
              ∀ cell : index.terrain.Cell,
                (index.insert graph.nodes.size position).bucket cell =
                  if index.terrain.cellOf position = cell then
                    (index.bucket cell).push graph.nodes.size
                  else index.bucket cell) := by
  have consistent := reachable.consistent
  refine ⟨grow_of_missing, fun origin known => ⟨grow_of_refused known, fun position resolved =>
    ⟨fun found near => ?_, fun free => ?_⟩⟩⟩
  · have within := consistent.nearest_lt near
    have nodeKnown := Array.getElem?_eq_getElem within
    have grown := grow_of_near known resolved near nodeKnown
    rw [joining, consistent.nodeId nodeKnown] at grown
    exact ⟨_, _, _, nodeKnown, rfl, grown, consistent.gains_addSegment rfl,
      size_nodes_addSegment _ _, rfl⟩
  · have grown := grow_of_free known resolved free
    refine ⟨_, grown, consistent.gains_addNode position rfl, ?_, ?_, ?_, ?_⟩
    · rw [size_nodes_addSegment, size_nodes_addNode]
    · exact nodes_extending (lt_size_of_known known) position
    · intro unindexed
      rw [index_addSegment, addNode, unindexed]
      rfl
    · intro index indexed
      refine ⟨?_, index.bucket_insert _ _⟩
      rw [index_addSegment, addNode, indexed]
      rfl

/-- On a map of four cells, from a node half way to the edge: a start that is not there, a segment
cut at the edge, where a node is added, and a short one whose end is moved back onto its start. -/
theorem grow_outcomes_at_map_edge :
    ∃ (graph next looped : Graph) (index : CellIndex), graph.Reachable ∧
      graph.index = some index ∧ graph.nodes[0]? = some ⟨0, ⟨0.5, 0.0⟩, #[], #[]⟩ ∧
      graph.grow 1 ⟨1.5, 0.0⟩ 0.25 .road = .error (.missingStart 1) ∧
      graph.grow 0 ⟨1.5, 0.0⟩ 0.25 .road =
        .ok (next, some ⟨⟨0, 0, 1, .road, 0.25⟩, ⟨1.0, 0.0⟩, true⟩) ∧
      graph.Gains ⟨0, 0, 1, .road, 0.25⟩ next ∧
      next.nodes[1]? = some ⟨1, ⟨1.0, 0.0⟩, #[0], #[]⟩ ∧
      next.index = some (index.insert 1 ⟨1.0, 0.0⟩) ∧
      graph.grow 0 ⟨0.5078125, 0.0⟩ 0.25 .road =
        .ok (looped, some ⟨⟨0, 0, 0, .road, 0.25⟩, ⟨0.5, 0.0⟩, false⟩) ∧
      graph.Gains ⟨0, 0, 0, .road, 0.25⟩ looped ∧ looped.index = some index := by
  let policy : Policy := ⟨[.bounds Terrain.mapBounds], true⟩
  let root : Point := ⟨0.5, 0.0⟩
  let graph := ofRoot policy usualSnapDistance .fourCells root
  have reachable : graph.Reachable := reachable_ofRoot policy usualSnapDistance .fourCells root
  have known : graph.nodes[0]? = some ⟨0, root, #[], #[]⟩ := rfl
  have indexKnown : graph.index = some ((CellIndex.empty .fourCells).insert 0 root) := rfl
  obtain ⟨missing, -⟩ := grow_outcomes reachable 1 ⟨1.5, 0.0⟩ 0.25 .road
  obtain ⟨-, far⟩ := (grow_outcomes reachable 0 ⟨1.5, 0.0⟩ 0.25 .road).2 _ known
  obtain ⟨-, free⟩ := far ⟨1.0, 0.0⟩ (by decide +kernel)
  obtain ⟨next, grown, gains, -, added, -, indexed⟩ := free (by decide +kernel)
  obtain ⟨indexed, -⟩ := indexed _ indexKnown
  obtain ⟨-, close⟩ := (grow_outcomes reachable 0 ⟨0.5078125, 0.0⟩ 0.25 .road).2 _ known
  obtain ⟨near, -⟩ := close ⟨0.5078125, 0.0⟩ (by decide +kernel)
  obtain ⟨node, heading, looped, nodeKnown, headingEq, joined, joinedGains, -, sameIndex⟩ :=
    near 0 (by decide +kernel)
  rw [known] at nodeKnown
  cases nodeKnown
  have kept : heading = 0.25 := headingEq.trans (by decide +kernel)
  subst kept
  exact ⟨graph, next, looped, _, reachable, indexKnown, known, missing rfl, grown, gains, added,
    indexed, joined, joinedGains, sameIndex⟩

end Graph

end RoadGrowth
