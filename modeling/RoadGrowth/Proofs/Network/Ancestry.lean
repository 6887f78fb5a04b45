import Mathlib.Logic.Relation
import RoadGrowth.Proofs.Network.Placement

/-!
# Every node descends from the root

A node other than the root is added as the end of a segment that starts from an older
node, and that segment stays the first one to the node: later segments get larger
numbers. Following first segments back therefore leads from any node to the root, and
there is a segment for each node but the root.
-/

namespace RoadGrowth

namespace Graph

/-- Some segment leads from one node to the other. -/
def LeadsTo (graph : Graph) (start finish : Nat) : Prop :=
  ∃ segment ∈ graph.segments, segment.start = start ∧ segment.finish = finish

/-- The first segment to every node but the root starts from an older node. -/
structure Descended (graph : Graph) : Prop where
  older : ∀ {id : Nat} {node : Node}, 1 ≤ id → graph.nodes[id]? = some node →
    ∃ first segment, node.inbound[0]? = some first ∧ graph.segments[first]? = some segment ∧
      segment.start < id
  size_le : graph.nodes.size ≤ graph.segments.size + 1

variable {graph next : Graph}

/-- A segment pushed behind others leaves the first one. -/
theorem first_linked {node : Node} {first : Nat} (known : node.inbound[0]? = some first)
    (place : Nat) (segment : Segment) : (node.linked place segment).inbound[0]? = some first := by
  unfold Node.linked
  dsimp only
  split
  · rw [Array.getElem?_push, if_neg, known]
    intro empty
    rw [Array.getElem?_eq_none (Nat.le_of_eq empty.symm)] at known
    cases known
  · exact known

theorem segments_push_of_known {place : Nat} {segment : Segment}
    (known : graph.segments[place]? = some segment) (added : Segment) :
    (graph.segments.push added)[place]? = some segment := by
  have old : place < graph.segments.size := (Array.getElem?_eq_some_iff.mp known).1
  rw [Array.getElem?_push, if_neg (Nat.ne_of_lt old), known]

theorem Descended.addSegment (descended : graph.Descended) (segment : Segment) :
    (graph.addSegment segment).Descended where
  older {id node} later known := by
    rw [nodes_addSegment] at known
    obtain ⟨before, found, rfl⟩ := Option.map_eq_some_iff.mp known
    obtain ⟨first, parent, firstKnown, parentKnown, older⟩ := descended.older later found
    exact ⟨first, parent, first_linked firstKnown id segment,
      segments_push_of_known parentKnown segment, older⟩
  size_le := by
    have counted := descended.size_le
    rw [size_nodes_addSegment, segments_addSegment, Array.size_push]
    omega

/-- The segment that a node is added for is its first one. -/
theorem Descended.extend (descended : graph.Descended) (position : Point) {candidate : Candidate}
    (starts : candidate.start < graph.nodes.size) :
    ((graph.addNode position).addSegment (graph.extending candidate)).Descended where
  older {id node} later known := by
    rw [nodes_addSegment, nodes_addNode] at known
    obtain ⟨before, found, rfl⟩ := Option.map_eq_some_iff.mp known
    split at found
    · rename_i last
      cases found
      have finish : (graph.extending candidate).finish = id := last.symm
      refine ⟨graph.segments.size, graph.extending candidate, ?_, Array.getElem?_push_size, ?_⟩
      · simp only [Node.linked, if_pos finish]
        rfl
      · rw [last]
        exact starts
    · obtain ⟨first, parent, firstKnown, parentKnown, older⟩ := descended.older later found
      exact ⟨first, parent, first_linked firstKnown id _, segments_push_of_known parentKnown _,
        older⟩
  size_le := by
    have counted := descended.size_le
    rw [size_nodes_addSegment, size_nodes_addNode, segments_addSegment, segments_addNode,
      Array.size_push]
    omega

/-- A growth keeps first segments and adds a node only with a segment. -/
theorem Descended.grew {candidate : Candidate} {growth : Option Growth}
    (descended : graph.Descended) (starts : candidate.start < graph.nodes.size)
    (grew : Grew graph candidate next growth) : next.Descended := by
  cases grew with
  | rejected => exact descended
  | joined => exact descended.addSegment _
  | extended => exact descended.extend _ starts

theorem descended_ofRoot (policy : Policy) (snapDistance : Float32) (terrain : Terrain)
    (root : Point) : (ofRoot policy snapDistance terrain root).Descended where
  older later known := absurd (lt_size_of_known known) (Nat.not_lt.mpr later)
  size_le := le_rfl

/-- The first segment to a node is the one with the lowest number, and it ends there. -/
theorem Consistent.first_inbound (consistent : graph.Consistent) {id first : Nat} {node : Node}
    {segment : Segment} (known : graph.nodes[id]? = some node)
    (firstKnown : node.inbound[0]? = some first)
    (segmentKnown : graph.segments[first]? = some segment) :
    (∀ other ∈ node.inbound, first ≤ other) ∧ segment.finish = id := by
  have ascending := segmentsWhere_ascending consistent fun segment => segment.finish = id
  have listed : ∃ rest, node.inbound.toList = first :: rest := by
    rw [← Array.getElem?_toList, ← List.head?_eq_getElem?] at firstKnown
    exact List.head?_eq_some_iff.mp firstKnown
  obtain ⟨rest, restEq⟩ := listed
  rw [← consistent.inbound known, restEq] at ascending
  refine ⟨fun other member => ?_, ?_⟩
  · rw [Array.mem_def, restEq] at member
    rcases List.mem_cons.mp member with rfl | later
    · exact le_rfl
    · exact ((List.pairwise_cons.mp ascending).1 other later).le
  · have member : first ∈ graph.segmentsWhere fun segment => segment.finish = id := by
      rw [← consistent.inbound known, restEq]
      exact List.mem_cons_self
    obtain ⟨same, sameKnown, ends⟩ := (mem_segmentsWhere consistent).mp member
    rw [segmentKnown] at sameKnown
    cases sameKnown
    exact of_decide_eq_true ends

/-- Every node is led to from the root, by induction on its number. -/
theorem Descended.connected (descended : graph.Descended) (consistent : graph.Consistent) :
    ∀ id < graph.nodes.size, Relation.ReflTransGen graph.LeadsTo 0 id := by
  intro id
  induction id using Nat.strong_induction_on with
  | _ id ih =>
    intro present
    rcases Nat.eq_zero_or_pos id with rfl | later
    · exact .refl
    · have known := Array.getElem?_eq_getElem present
      obtain ⟨first, segment, firstKnown, segmentKnown, older⟩ := descended.older later known
      obtain ⟨-, ends⟩ := consistent.first_inbound known firstKnown segmentKnown
      have leads : graph.LeadsTo segment.start id :=
        ⟨segment, Array.mem_of_getElem? segmentKnown, rfl, ends⟩
      exact (ih segment.start older (older.trans present)).tail leads

end Graph

/-- A grown network is connected: the segment with the lowest number that ends at a node starts
from an older node, so every node is led to from the root. -/
theorem Network.generate_connected {settings : NetworkSettings} {terrain : Terrain}
    {network : Network} (done : generate settings terrain = .ok network) :
    (∀ id node, 1 ≤ id → network.graph.nodes[id]? = some node →
      ∃ first segment, first ∈ node.inbound ∧ (∀ other ∈ node.inbound, first ≤ other) ∧
        network.graph.segments[first]? = some segment ∧ segment.finish = id ∧
        segment.start < id) ∧
    (∀ id < network.graph.nodes.size, Relation.ReflTransGen network.graph.LeadsTo 0 id) ∧
    network.graph.nodes.size ≤ network.graph.segments.size + 1 := by
  have grown := generate_grown done
  have consistent := ((Graph.reachable_ofRoot _ _ _ _).later grown).consistent
  have descended : network.graph.Descended :=
    grown.invariant Graph.Descended (Graph.descended_ofRoot _ _ _ _)
      fun starts grew holds => holds.grew starts grew
  refine ⟨fun id node later known => ?_, descended.connected consistent, descended.size_le⟩
  obtain ⟨first, segment, firstKnown, segmentKnown, older⟩ := descended.older later known
  obtain ⟨lowest, ends⟩ := consistent.first_inbound known firstKnown segmentKnown
  exact ⟨first, segment, Array.mem_of_getElem? firstKnown, lowest, segmentKnown, ends, older⟩

/-- A highway that meets its own branch again, and a street that turns round onto the root. -/
theorem Network.generate_connected_with_branches :
    ∃ network : Network,
      generate { highway := ⟨"F[+F]F".toList, .empty, 0⟩, streets := ⟨"F+(180)F".toList, .empty, 0⟩ }
        .dryCell = .ok network ∧
      network.graph.nodes.size = 4 ∧ network.graph.segments.size = 5 ∧
      ∀ id < 4, Relation.ReflTransGen network.graph.LeadsTo 0 id := by
  have counted : (generate
      { highway := ⟨"F[+F]F".toList, .empty, 0⟩, streets := ⟨"F+(180)F".toList, .empty, 0⟩ }
      .dryCell).toOption.map (fun network =>
        (network.graph.nodes.size, network.graph.segments.size)) = some (4, 5) := by
    decide +kernel
  obtain ⟨network, done, sizes⟩ := Option.map_eq_some_iff.mp counted
  rw [toOption_eq_some] at done
  obtain ⟨nodes, segments⟩ := Prod.mk.inj sizes
  obtain ⟨-, connected, -⟩ := generate_connected done
  rw [nodes] at connected
  exact ⟨network, done, nodes, segments, connected⟩

end RoadGrowth
