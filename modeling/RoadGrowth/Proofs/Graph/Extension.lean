import RoadGrowth.Proofs.Graph.Links

/-!
# Growing only appends

A growth puts at most one node and one segment behind those that are there, and the
number of the segment behind those that its two ends list. So a graph that has grown
still holds the graph it has grown from: the same segments come first, every node is
where it was, and what a node listed then is what it lists now below the number of
segments there were.
-/

namespace RoadGrowth

/-- Numbers with others behind them, none of the others below a bound. -/
def Appended (bound : Nat) (numbers later : Array Nat) : Prop :=
  ∃ added, later.toList = numbers.toList ++ added ∧ ∀ number ∈ added, bound ≤ number

namespace Appended

variable {bound : Nat} {numbers later : Array Nat}

theorem refl (bound : Nat) (numbers : Array Nat) : Appended bound numbers numbers :=
  ⟨[], by simp, by simp⟩

theorem push (appended : Appended bound numbers later) {number : Nat} (above : bound ≤ number) :
    Appended bound numbers (later.push number) := by
  obtain ⟨added, laterEq, addedAbove⟩ := appended
  refine ⟨added ++ [number], by simp [laterEq], fun other member => ?_⟩
  rcases List.mem_append.mp member with older | last
  · exact addedAbove other older
  · rw [List.mem_singleton.mp last]
    exact above

theorem first (appended : Appended bound numbers later) {first : Nat}
    (known : numbers[0]? = some first) : later[0]? = some first := by
  obtain ⟨added, laterEq, -⟩ := appended
  rw [← Array.getElem?_toList] at known ⊢
  rw [laterEq, List.getElem?_append_left (List.getElem?_eq_some_iff.mp known).1, known]

/-- The numbers below the bound are those that were there. -/
theorem filter_eq (appended : Appended bound numbers later)
    (below : ∀ number ∈ numbers, number < bound) :
    later.toList.filter (· < bound) = numbers.toList := by
  obtain ⟨added, laterEq, addedAbove⟩ := appended
  rw [laterEq, List.filter_append, List.filter_eq_self.mpr, List.filter_eq_nil_iff.mpr,
    List.append_nil]
  · intro number member
    simpa using addedAbove number member
  · intro number member
    simpa using below number (Array.mem_toList_iff.mp member)

end Appended

/-- The same node in a larger graph: segments from a bound on may touch it as well. -/
structure Node.Extends (bound : Nat) (node later : Node) : Prop where
  id_eq : later.id = node.id
  position_eq : later.position = node.position
  inbound : Appended bound node.inbound later.inbound
  outbound : Appended bound node.outbound later.outbound

/-- The nodes and segments of a graph come first in a larger one. -/
structure Graph.Extends (graph later : Graph) : Prop where
  segments : graph.segments.toList <+: later.segments.toList
  nodes : ∀ {id : Nat} {node : Node}, graph.nodes[id]? = some node →
    ∃ kept, later.nodes[id]? = some kept ∧ node.Extends graph.segments.size kept

theorem Node.Extends.linked {bound : Nat} {node later : Node} (holds : node.Extends bound later)
    (place : Nat) {segment : Segment} (above : bound ≤ segment.id) :
    node.Extends bound (later.linked place segment) where
  id_eq := holds.id_eq
  position_eq := holds.position_eq
  inbound := by
    unfold Node.linked
    dsimp only
    split
    · exact holds.inbound.push above
    · exact holds.inbound
  outbound := by
    unfold Node.linked
    dsimp only
    split
    · exact holds.outbound.push above
    · exact holds.outbound

namespace Graph

variable {graph later next : Graph}

theorem Extends.refl (graph : Graph) : graph.Extends graph where
  segments := List.prefix_refl _
  nodes {_ node} known := ⟨node, known, rfl, rfl, .refl _ _, .refl _ _⟩

theorem Extends.size_le (holds : graph.Extends later) :
    graph.segments.size ≤ later.segments.size := by
  simpa using holds.segments.length_le

theorem Extends.segment_kept (holds : graph.Extends later) {number : Nat} {segment : Segment}
    (known : graph.segments[number]? = some segment) :
    later.segments[number]? = some segment := by
  obtain ⟨added, laterEq⟩ := holds.segments
  rw [← Array.getElem?_toList] at known ⊢
  rw [← laterEq, List.getElem?_append_left (List.getElem?_eq_some_iff.mp known).1, known]

theorem Extends.addNode (holds : graph.Extends later) (position : Point) :
    graph.Extends (later.addNode position) where
  segments := holds.segments
  nodes {id node} known := by
    obtain ⟨kept, keptKnown, same⟩ := holds.nodes known
    have old : id ≠ later.nodes.size := Nat.ne_of_lt (lt_size_of_known keptKnown)
    rw [nodes_addNode, if_neg old]
    exact ⟨kept, keptKnown, same⟩

theorem Extends.addSegment (holds : graph.Extends later) {segment : Segment}
    (above : graph.segments.size ≤ segment.id) : graph.Extends (later.addSegment segment) where
  segments := by
    rw [segments_addSegment, Array.toList_push]
    exact holds.segments.trans (List.prefix_append _ _)
  nodes {id node} known := by
    obtain ⟨kept, keptKnown, same⟩ := holds.nodes known
    rw [nodes_addSegment, keptKnown]
    exact ⟨_, rfl, same.linked id above⟩

/-- A growth appends: the number of a new segment is the number of segments there were. -/
theorem Extends.grew (holds : graph.Extends later) {candidate : Candidate}
    {growth : Option Growth} (grew : Grew later candidate next growth) : graph.Extends next := by
  cases grew with
  | rejected => exact holds
  | joined => exact holds.addSegment holds.size_le
  | extended => exact (holds.addNode _).addSegment holds.size_le

theorem Grown.extends (grown : Grown graph later) : graph.Extends later :=
  grown.invariant (fun later => graph.Extends later) (Extends.refl graph)
    fun _ grew holds => holds.grew grew

/-- The segments that a node of a consistent graph lists are there. -/
theorem Consistent.listed_lt (consistent : graph.Consistent) {id : Nat} {node : Node}
    (known : graph.nodes[id]? = some node) :
    (∀ number ∈ node.inbound, number < graph.segments.size) ∧
      ∀ number ∈ node.outbound, number < graph.segments.size := by
  have present : ∀ {property : Segment → Bool} {number : Nat},
      number ∈ graph.segmentsWhere property → number < graph.segments.size := by
    intro property number listed
    obtain ⟨segment, segmentKnown, -⟩ := (mem_segmentsWhere consistent).mp listed
    exact (Array.getElem?_eq_some_iff.mp segmentKnown).1
  refine ⟨fun number member => ?_, fun number member => ?_⟩
  · rw [Array.mem_def, consistent.inbound known] at member
    exact present member
  · rw [Array.mem_def, consistent.outbound known] at member
    exact present member

end Graph

end RoadGrowth
