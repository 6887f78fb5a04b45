import RoadGrowth.Proofs.Graph.Reachable

/-!
# Numbers and links

Nodes and segments carry the number of their place, both ends of a segment are
nodes, and the lists of a node hold the segments that start or end there, each once
and in order. No growth breaks this, whether it joins a node, adds one or is
rejected.
-/

namespace RoadGrowth

namespace Graph

/-- The segments with a property, by their numbers. -/
def segmentsWhere (graph : Graph) (property : Segment → Bool) : List Nat :=
  (graph.segments.toList.filter property).map Segment.id

/-- Numbers are places, ends are nodes and the lists of a node are complete. -/
structure Consistent (graph : Graph) : Prop where
  nodeId : ∀ {id : Nat} {node : Node}, graph.nodes[id]? = some node → node.id = id
  segmentId : ∀ {id : Nat} {segment : Segment},
    graph.segments[id]? = some segment → segment.id = id
  start_lt : ∀ segment ∈ graph.segments, segment.start < graph.nodes.size
  finish_lt : ∀ segment ∈ graph.segments, segment.finish < graph.nodes.size
  outbound : ∀ {id : Nat} {node : Node}, graph.nodes[id]? = some node →
    node.outbound.toList = graph.segmentsWhere fun segment => segment.start = id
  inbound : ∀ {id : Nat} {node : Node}, graph.nodes[id]? = some node →
    node.inbound.toList = graph.segmentsWhere fun segment => segment.finish = id

/-! ## Steps -/

theorem segmentsWhere_addSegment (graph : Graph) (segment : Segment) (property : Segment → Bool) :
    (graph.addSegment segment).segmentsWhere property =
      graph.segmentsWhere property ++ if property segment then [segment.id] else [] := by
  simp only [segmentsWhere, segments_addSegment, Array.toList_push, List.filter_append,
    List.map_append]
  cases holds : property segment <;> simp [holds]

/-- Without a segment that has the property none is listed. -/
theorem segmentsWhere_eq_nil {graph : Graph} {property : Segment → Bool}
    (none : ∀ segment ∈ graph.segments, property segment = false) :
    graph.segmentsWhere property = [] := by
  simp only [segmentsWhere, List.map_eq_nil_iff, List.filter_eq_nil_iff]
  intro segment member holds
  rw [none segment (Array.mem_def.mpr member)] at holds
  cases holds

variable {graph next : Graph} {segment : Segment}

theorem Consistent.addNode (consistent : graph.Consistent) (position : Point) :
    (graph.addNode position).Consistent where
  nodeId {id node} known := by
    rw [nodes_addNode] at known
    split at known
    · rename_i last
      cases known
      exact last.symm
    · exact consistent.nodeId known
  segmentId := consistent.segmentId
  start_lt segment member := by
    rw [size_nodes_addNode]
    exact Nat.lt_succ_of_lt (consistent.start_lt segment member)
  finish_lt segment member := by
    rw [size_nodes_addNode]
    exact Nat.lt_succ_of_lt (consistent.finish_lt segment member)
  outbound {id node} known := by
    rw [nodes_addNode] at known
    split at known
    · rename_i last
      cases known
      -- No segment starts from a node that was not there.
      refine (segmentsWhere_eq_nil fun segment member => ?_).symm
      have below := consistent.start_lt segment member
      exact decide_eq_false (by omega)
    · exact consistent.outbound known
  inbound {id node} known := by
    rw [nodes_addNode] at known
    split at known
    · rename_i last
      cases known
      refine (segmentsWhere_eq_nil fun segment member => ?_).symm
      have below := consistent.finish_lt segment member
      exact decide_eq_false (by omega)
    · exact consistent.inbound known

theorem Consistent.addSegment (consistent : graph.Consistent)
    (numbered : segment.id = graph.segments.size) (starts : segment.start < graph.nodes.size)
    (ends : segment.finish < graph.nodes.size) : (graph.addSegment segment).Consistent where
  nodeId {id node} known := by
    rw [nodes_addSegment] at known
    obtain ⟨before, found, rfl⟩ := Option.map_eq_some_iff.mp known
    have sameId : before.id = id := consistent.nodeId found
    exact sameId
  segmentId {id other} known := by
    rw [segments_addSegment, Array.getElem?_push] at known
    split at known
    · rename_i last
      cases known
      exact numbered.trans last.symm
    · exact consistent.segmentId known
  start_lt other member := by
    rw [size_nodes_addSegment]
    rcases Array.mem_push.mp member with old | rfl
    · exact consistent.start_lt other old
    · exact starts
  finish_lt other member := by
    rw [size_nodes_addSegment]
    rcases Array.mem_push.mp member with old | rfl
    · exact consistent.finish_lt other old
    · exact ends
  outbound {id node} known := by
    rw [nodes_addSegment] at known
    obtain ⟨before, found, rfl⟩ := Option.map_eq_some_iff.mp known
    rw [segmentsWhere_addSegment, ← consistent.outbound found]
    by_cases touches : segment.start = id <;> simp [Node.linked, touches]
  inbound {id node} known := by
    rw [nodes_addSegment] at known
    obtain ⟨before, found, rfl⟩ := Option.map_eq_some_iff.mp known
    rw [segmentsWhere_addSegment, ← consistent.inbound found]
    by_cases touches : segment.finish = id <;> simp [Node.linked, touches]

theorem consistent_empty (policy : Policy) (snapDistance : Float32) :
    (empty policy snapDistance).Consistent := by
  constructor <;> intros <;> simp_all [empty]

theorem Consistent.withIndex (consistent : graph.Consistent) {terrain : Terrain}
    (done : graph.withIndex terrain = .ok next) : next.Consistent := by
  unfold Graph.withIndex at done
  split at done
  · cases done
    exact ⟨consistent.nodeId, consistent.segmentId, consistent.start_lt, consistent.finish_lt,
      consistent.outbound, consistent.inbound⟩
  · cases done

/-- A growth keeps numbers and links. -/
theorem Consistent.grew {candidate : Candidate} {growth : Option Growth}
    (consistent : graph.Consistent) (starts : candidate.start < graph.nodes.size)
    (grew : Grew graph candidate next growth) : next.Consistent := by
  cases grew with
  | rejected => exact consistent
  | joined _ _ known =>
    refine consistent.addSegment rfl starts ?_
    change Node.id _ < _
    rw [consistent.nodeId known]
    exact lt_size_of_known known
  | extended =>
    refine (consistent.addNode _).addSegment rfl ?_ ?_ <;> rw [size_nodes_addNode]
    · exact Nat.lt_succ_of_lt starts
    · exact Nat.lt_succ_self _

/-- The end of a new segment is a node at the position of the growth. -/
theorem Consistent.growth_end {candidate : Candidate} {growth : Growth}
    (consistent : graph.Consistent) (grew : Grew graph candidate next (some growth)) :
    ∃ node, next.nodes[growth.segment.finish]? = some node ∧ node.position = growth.position := by
  cases grew with
  | @joined _ found node _ _ known =>
    rw [nodes_addSegment, joining, consistent.nodeId known, known]
    exact ⟨_, rfl, rfl⟩
  | @extended position _ _ =>
    have finish : (graph.extending candidate).finish = graph.nodes.size := rfl
    rw [nodes_addSegment, nodes_addNode, if_pos finish]
    exact ⟨_, rfl, rfl⟩

theorem Reachable.consistent (reachable : graph.Reachable) : graph.Consistent := by
  induction reachable with
  | empty policy snapDistance => exact consistent_empty policy snapDistance
  | indexed _ done ih => exact ih.withIndex done
  | added _ position ih => exact ih.addNode position
  | grown _ done ih =>
    obtain ⟨node, known, grew⟩ := grew_of_grow done
    exact ih.grew (lt_size_of_known known) grew

/-! ## What the lists of a node hold -/

theorem mem_segmentsWhere (consistent : graph.Consistent) {property : Segment → Bool} {id : Nat} :
    id ∈ graph.segmentsWhere property ↔
      ∃ segment, graph.segments[id]? = some segment ∧ property segment := by
  simp only [segmentsWhere, List.mem_map, List.mem_filter, Array.mem_toList_iff,
    Array.mem_iff_getElem?]
  constructor
  · rintro ⟨segment, ⟨⟨place, known⟩, holds⟩, rfl⟩
    rw [consistent.segmentId known]
    exact ⟨segment, known, holds⟩
  · rintro ⟨segment, known, holds⟩
    exact ⟨segment, ⟨⟨id, known⟩, holds⟩, consistent.segmentId known⟩

theorem segmentsWhere_ascending (consistent : graph.Consistent) (property : Segment → Bool) :
    (graph.segmentsWhere property).Pairwise (· < ·) := by
  have places : graph.segments.toList.Pairwise fun left right => left.id < right.id := by
    refine List.pairwise_iff_getElem.mpr fun left right leftLt rightLt before => ?_
    have leftId := consistent.segmentId (Array.getElem?_eq_getElem leftLt)
    have rightId := consistent.segmentId (Array.getElem?_eq_getElem rightLt)
    rw [Array.getElem_toList, Array.getElem_toList, leftId, rightId]
    exact before
  exact List.pairwise_map.mpr (places.filter property)

theorem contains_inbound (consistent : graph.Consistent) {id : Nat} {node : Node}
    (known : graph.nodes[id]? = some node) {segment : Segment} (member : segment ∈ graph.segments) :
    node.inbound.contains segment.id = decide (segment.finish = id) := by
  obtain ⟨place, placed⟩ := Array.mem_iff_getElem?.mp member
  rw [Bool.eq_iff_iff, Array.contains_iff_mem, Array.mem_def, consistent.inbound known,
    mem_segmentsWhere consistent, consistent.segmentId placed, placed]
  simp

/-- The degree of a node counts the segments that touch it. -/
theorem degree_eq (consistent : graph.Consistent) {id : Nat} {node : Node}
    (known : graph.nodes[id]? = some node) :
    node.degree =
      graph.segments.countP fun segment => segment.start = id || segment.finish = id := by
  have ending : node.inbound.size =
      graph.segments.toList.countP fun segment => segment.finish = id := by
    rw [← Array.length_toList, consistent.inbound known, segmentsWhere, List.length_map,
      List.countP_eq_length_filter]
  have starting : (node.outbound.countP fun segment => !node.inbound.contains segment) =
      graph.segments.toList.countP fun segment => segment.start = id && !segment.finish = id := by
    rw [← Array.countP_toList, consistent.outbound known, segmentsWhere, List.countP_map,
      List.countP_filter]
    refine List.countP_congr fun segment member => ?_
    rw [Function.comp_apply, contains_inbound consistent known (Array.mem_toList_iff.mp member)]
    simp [and_comm]
  -- A segment that touches the node ends there, or else it only starts there.
  rw [Node.degree, ending, starting, ← Array.countP_toList,
    List.countP_eq_countP_filter_add graph.segments.toList
      (fun segment => segment.start = id || segment.finish = id) fun segment => segment.finish = id,
    List.countP_filter, List.countP_filter]
  congr 1 <;> refine List.countP_congr fun segment _ => ?_
  · simpa using Or.inr
  · by_cases starts : segment.start = id <;> by_cases ends : segment.finish = id <;>
      simp [starts, ends]

/-- In a reachable graph every number is a place and every list is complete. -/
theorem links_exact (reachable : graph.Reachable) :
    (∀ (id : Nat) (node : Node), graph.nodes[id]? = some node → node.id = id) ∧
    (∀ (id : Nat) (segment : Segment), graph.segments[id]? = some segment →
      segment.id = id ∧ segment.start < graph.nodes.size ∧ segment.finish < graph.nodes.size) ∧
    ∀ (id : Nat) (node : Node), graph.nodes[id]? = some node →
      (∀ number, number ∈ node.outbound ↔
        ∃ segment, graph.segments[number]? = some segment ∧ segment.start = id) ∧
      (∀ number, number ∈ node.inbound ↔
        ∃ segment, graph.segments[number]? = some segment ∧ segment.finish = id) ∧
      node.outbound.toList.Pairwise (· < ·) ∧ node.inbound.toList.Pairwise (· < ·) ∧
      node.degree =
        graph.segments.countP fun segment => segment.start = id || segment.finish = id := by
  have consistent := reachable.consistent
  refine ⟨fun id node known => consistent.nodeId known, fun id segment known => ?_,
    fun id node known => ⟨fun number => ?_, fun number => ?_, ?_, ?_, degree_eq consistent known⟩⟩
  · have member := Array.mem_of_getElem? known
    exact ⟨consistent.segmentId known, consistent.start_lt segment member,
      consistent.finish_lt segment member⟩
  · rw [Array.mem_def, consistent.outbound known, mem_segmentsWhere consistent]
    simp only [decide_eq_true_eq]
  · rw [Array.mem_def, consistent.inbound known, mem_segmentsWhere consistent]
    simp only [decide_eq_true_eq]
  · rw [consistent.outbound known]
    exact segmentsWhere_ascending consistent _
  · rw [consistent.inbound known]
    exact segmentsWhere_ascending consistent _

/-- A segment that starts and ends at the only node is listed on both sides and counts once. -/
theorem links_exact_of_loop : ∃ graph : Graph, graph.Reachable ∧
    ∃ node, graph.nodes[0]? = some node ∧ 0 ∈ node.outbound ∧ 0 ∈ node.inbound ∧
      node.degree = 1 := by
  let loop : Segment := ⟨0, 0, 0, .street, 0.0⟩
  have grown : ((empty {}).addNode Point.origin).grow 0 Point.origin 0.0 .street =
      .ok (((empty {}).addNode Point.origin).addSegment loop, some ⟨loop, .origin, false⟩) := rfl
  have reachable : Reachable (((empty {}).addNode Point.origin).addSegment loop) :=
    .grown (.added (.empty {} usualSnapDistance) Point.origin) grown
  obtain ⟨-, -, lists⟩ := links_exact reachable
  obtain ⟨outbound, inbound, -, -, degree⟩ := lists 0 ⟨0, Point.origin, #[0], #[0]⟩ rfl
  exact ⟨_, reachable, _, rfl, (outbound 0).mpr ⟨_, rfl, rfl⟩, (inbound 0).mpr ⟨_, rfl, rfl⟩,
    degree⟩

end Graph

end RoadGrowth
