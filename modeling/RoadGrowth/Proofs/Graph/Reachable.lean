import RoadGrowth.Graph.Growth

/-!
# Reachable graphs

A graph is built by adding nodes and by growing segments. `Grew` lists what one
growth can come to: the policy rejects it, its end joins a node, or a node is added
at its end. Every fact about growing is read off these three cases, and every fact
about reachable graphs follows from what one step preserves.
-/

namespace RoadGrowth

namespace Graph

/-- The segment of a candidate that joins a node. -/
def joining (graph : Graph) (candidate : Candidate) (node : Node) : Segment where
  id := graph.segments.size
  start := candidate.start
  finish := node.id
  roadClass := candidate.roadClass
  rotation := snappedRotation candidate node.position

/-- The segment of a candidate that ends at a node of its own. -/
def extending (graph : Graph) (candidate : Candidate) : Segment where
  id := graph.segments.size
  start := candidate.start
  finish := graph.nodes.size
  roadClass := candidate.roadClass
  rotation := candidate.rotation

/-- What growing a candidate comes to. -/
inductive Grew (graph : Graph) (candidate : Candidate) : Graph → Option Growth → Prop where
  /-- The policy rejects it. -/
  | rejected (refused : graph.policy.resolve candidate = none) :
    Grew graph candidate graph none
  /-- Its end is moved onto a node. -/
  | joined {position : Point} {found : Nat} {node : Node}
    (resolved : graph.policy.resolve candidate = some position)
    (near : graph.nearest position graph.snapDistance = some found)
    (known : graph.nodes[found]? = some node) :
    Grew graph candidate (graph.addSegment (graph.joining candidate node))
      (some ⟨graph.joining candidate node, node.position, false⟩)
  /-- A node is added at its end. -/
  | extended {position : Point}
    (resolved : graph.policy.resolve candidate = some position)
    (free : (graph.nearest position graph.snapDistance).bind
      (fun found => graph.nodes[found]?) = none) :
    Grew graph candidate ((graph.addNode position).addSegment (graph.extending candidate))
      (some ⟨graph.extending candidate, position, true⟩)

/-- The graphs that can be built from an empty one. -/
inductive Reachable : Graph → Prop where
  | empty (policy : Policy) (snapDistance : Float32) : Reachable (empty policy snapDistance)
  | indexed {graph next : Graph} {terrain : Terrain} (reachable : Reachable graph)
    (done : graph.withIndex terrain = .ok next) : Reachable next
  | added {graph : Graph} (reachable : Reachable graph) (position : Point) :
    Reachable (graph.addNode position)
  | grown {graph next : Graph} {start : Nat} {target : Point} {rotation : Float32}
    {roadClass : RoadClass} {growth : Option Growth} (reachable : Reachable graph)
    (done : graph.grow start target rotation roadClass = .ok (next, growth)) : Reachable next

/-- The graphs that a graph can become by growing segments. -/
inductive Grown (graph : Graph) : Graph → Prop where
  | refl : Grown graph graph
  | step {middle next : Graph} {start : Nat} {target : Point} {rotation : Float32}
    {roadClass : RoadClass} {growth : Option Growth} (grown : Grown graph middle)
    (done : middle.grow start target rotation roadClass = .ok (next, growth)) : Grown graph next

/-! ## Cases of a growth -/

variable {graph next : Graph} {start : Nat} {target : Point} {rotation : Float32}
  {roadClass : RoadClass} {growth : Option Growth}

theorem grew_of_plan (graph : Graph) (candidate : Candidate) :
    Grew graph candidate
      ((graph.plan candidate).elim graph graph.carryOut) (graph.plan candidate) := by
  unfold plan
  cases resolved : graph.policy.resolve candidate with
  | none => exact .rejected resolved
  | some position =>
    simp only [Option.map_some, Option.elim_some, growthTo]
    cases joins : (graph.nearest position graph.snapDistance).bind
        fun found => graph.nodes[found]? with
    | none => exact .extended resolved joins
    | some node =>
      obtain ⟨found, near, known⟩ := Option.bind_eq_some_iff.mp joins
      exact .joined resolved near known

/-- Growing from a node carries out the planned growth, if there is one. -/
theorem grow_of_start {node : Node} (known : graph.nodes[start]? = some node) :
    let candidate : Candidate := ⟨start, node.position, target, rotation, roadClass⟩
    graph.grow start target rotation roadClass =
      .ok ((graph.plan candidate).elim graph graph.carryOut, graph.plan candidate) := by
  intro candidate
  have started : graph.candidate start target rotation roadClass = .ok candidate := by
    rw [Graph.candidate, known]
  rw [grow, started]
  refine (pure_bind candidate _).trans ?_
  cases graph.plan candidate <;> rfl

/-- Growing fails only for a start that does not exist. -/
theorem grow_of_missing (missing : graph.nodes[start]? = none) :
    graph.grow start target rotation roadClass = .error (.missingStart start) := by
  unfold grow candidate
  rw [missing]
  rfl

theorem grew_of_grow (done : graph.grow start target rotation roadClass = .ok (next, growth)) :
    ∃ node, graph.nodes[start]? = some node ∧
      Grew graph ⟨start, node.position, target, rotation, roadClass⟩ next growth := by
  cases known : graph.nodes[start]? with
  | none =>
    rw [grow_of_missing known] at done
    cases done
  | some node =>
    rw [grow_of_start known] at done
    cases done
    exact ⟨node, rfl, grew_of_plan graph _⟩

/-! ## Nodes and segments of a larger graph -/

@[simp] theorem policy_addNode (graph : Graph) (position : Point) :
    (graph.addNode position).policy = graph.policy := rfl

@[simp] theorem segments_addNode (graph : Graph) (position : Point) :
    (graph.addNode position).segments = graph.segments := rfl

@[simp] theorem size_nodes_addNode (graph : Graph) (position : Point) :
    (graph.addNode position).nodes.size = graph.nodes.size + 1 := Array.size_push _

@[simp] theorem policy_addSegment (graph : Graph) (segment : Segment) :
    (graph.addSegment segment).policy = graph.policy := rfl

@[simp] theorem index_addSegment (graph : Graph) (segment : Segment) :
    (graph.addSegment segment).index = graph.index := rfl

@[simp] theorem segments_addSegment (graph : Graph) (segment : Segment) :
    (graph.addSegment segment).segments = graph.segments.push segment := rfl

@[simp] theorem size_nodes_addSegment (graph : Graph) (segment : Segment) :
    (graph.addSegment segment).nodes.size = graph.nodes.size := by
  simp [addSegment]

theorem nodes_addNode (graph : Graph) (position : Point) (id : Nat) :
    (graph.addNode position).nodes[id]? =
      if id = graph.nodes.size then some { id := graph.nodes.size, position }
      else graph.nodes[id]? :=
  Array.getElem?_push

end Graph

/-- A node with a segment added to its lists, wherever the segment touches it. -/
def Node.linked (node : Node) (place : Nat) (segment : Segment) : Node :=
  { node with
    outbound := if segment.start = place then node.outbound.push segment.id else node.outbound
    inbound := if segment.finish = place then node.inbound.push segment.id else node.inbound }

namespace Graph

theorem nodes_addSegment (graph : Graph) (segment : Segment) (id : Nat) :
    (graph.addSegment segment).nodes[id]? =
      graph.nodes[id]?.map fun node => node.linked id segment := by
  simp only [addSegment, Array.getElem?_modify]
  cases graph.nodes[id]? with
  | none => by_cases starts : segment.start = id <;> by_cases ends : segment.finish = id <;>
      simp [starts, ends]
  | some node => by_cases starts : segment.start = id <;> by_cases ends : segment.finish = id <;>
      simp [starts, ends, Node.linked]

theorem lt_size_of_known {graph : Graph} {id : Nat} {node : Node}
    (known : graph.nodes[id]? = some node) : id < graph.nodes.size :=
  (Array.getElem?_eq_some_iff.mp known).1

/-! ## What growing keeps -/

variable {graph middle next : Graph} {candidate : Candidate} {growth : Option Growth}

theorem Grew.policy_eq (grew : Grew graph candidate next growth) : next.policy = graph.policy := by
  cases grew <;> rfl

/-- A node stays where it is. -/
theorem Grew.position_kept (grew : Grew graph candidate next growth) {id : Nat} {node : Node}
    (known : graph.nodes[id]? = some node) :
    ∃ kept, next.nodes[id]? = some kept ∧ kept.position = node.position := by
  cases grew with
  | rejected => exact ⟨node, known, rfl⟩
  | joined =>
    rw [nodes_addSegment, known]
    exact ⟨_, rfl, rfl⟩
  | extended =>
    have old : id ≠ graph.nodes.size := Nat.ne_of_lt (lt_size_of_known known)
    rw [nodes_addSegment, nodes_addNode, if_neg old, known]
    exact ⟨_, rfl, rfl⟩

/-- A node that was not there before is the end of a segment that the policy let through. -/
theorem Grew.position_new (grew : Grew graph candidate next growth) {id : Nat} {node : Node}
    (known : next.nodes[id]? = some node) :
    (∃ before, graph.nodes[id]? = some before ∧ before.position = node.position) ∨
      id = graph.nodes.size ∧ graph.policy.resolve candidate = some node.position := by
  cases grew with
  | rejected => exact .inl ⟨node, known, rfl⟩
  | joined =>
    rw [nodes_addSegment] at known
    obtain ⟨before, found, rfl⟩ := Option.map_eq_some_iff.mp known
    exact .inl ⟨before, found, rfl⟩
  | extended resolved =>
    rw [nodes_addSegment, nodes_addNode] at known
    obtain ⟨before, found, rfl⟩ := Option.map_eq_some_iff.mp known
    split at found
    · rename_i last
      cases found
      exact .inr ⟨last, resolved⟩
    · exact .inl ⟨before, found, rfl⟩

theorem Grown.trans (first : Grown graph middle) (second : Grown middle next) :
    Grown graph next := by
  induction second with
  | refl => exact first
  | step _ done ih => exact ih.step done

/-- What every growth keeps holds of every graph that is grown. -/
theorem Grown.invariant (property : Graph → Prop) (grown : Grown graph next)
    (holds : property graph)
    (kept : ∀ {graph next : Graph} {candidate : Candidate} {growth : Option Growth},
      candidate.start < graph.nodes.size → Grew graph candidate next growth →
        property graph → property next) : property next := by
  induction grown with
  | refl => exact holds
  | step _ done ih =>
    obtain ⟨node, known, grew⟩ := grew_of_grow done
    exact kept (lt_size_of_known known) grew ih

theorem Grew.size_le (grew : Grew graph candidate next growth) :
    graph.nodes.size ≤ next.nodes.size := by
  cases grew <;> simp

theorem Grown.size_le (grown : Grown graph next) : graph.nodes.size ≤ next.nodes.size :=
  grown.invariant (fun later => graph.nodes.size ≤ later.nodes.size) (Nat.le_refl _)
    fun _ grew reached => Nat.le_trans reached grew.size_le

theorem Reachable.later (reachable : graph.Reachable) (grown : Grown graph next) :
    next.Reachable := by
  induction grown with
  | refl => exact reachable
  | step _ done ih => exact ih.grown done

/-- The graph with one node, indexed for a terrain. -/
def ofRoot (policy : Policy) (snapDistance : Float32) (terrain : Terrain) (root : Point) : Graph :=
  { empty policy snapDistance with index := some (CellIndex.empty terrain) }.addNode root

theorem reachable_ofRoot (policy : Policy) (snapDistance : Float32) (terrain : Terrain)
    (root : Point) : (ofRoot policy snapDistance terrain root).Reachable := by
  have indexed : Reachable
      { empty policy snapDistance with index := some (CellIndex.empty terrain) } :=
    .indexed (.empty policy snapDistance) rfl
  exact indexed.added root

end Graph

/-! ## Maps -/

/-- A map whose vertices are all alike, with nobody living on it. -/
def Terrain.level (divisions : Extent) (vertex : VertexSample)
    (positive : 0 < divisions.columns.toNat ∧ 0 < divisions.rows.toNat) : Terrain :=
  ⟨{ divisions }, ⟨[], ⟨1, 1⟩, 1.0⟩, positive.1, positive.2, .replicate _ vertex⟩

/-- A map of two by two cells in the sea. -/
def Terrain.fourCells : Terrain := .level ⟨2, 2⟩ .zero (by decide)

end RoadGrowth
