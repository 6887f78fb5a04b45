import RoadGrowth.Proofs.Graph.Nearest

/-!
# The closest node

A search answers with the first of the nodes that it looks at, ordered by computed
distance and then by number, if that lies within the radius, and with nothing if none
does. This holds on both ways of searching. The one around a point meets the numbers out
of order, and the order in which it meets them makes no difference.
-/

namespace RoadGrowth

open Numeric

namespace Graph

variable {graph : Graph} {ids others : List Nat} {id : Nat} {position : Point}
  {radius : Float32}

/-- The numbers of the nodes that a search looks at: those around the point if the index covers
the radius, and otherwise all. -/
def scanned (graph : Graph) (position : Point) (radius : Float32) : List Nat :=
  match graph.index with
  | some index =>
    if index.coversRadius radius then index.around position else List.range graph.nodes.size
  | none => List.range graph.nodes.size

/-- A node comes first among those of a list, by distance from a point and then by number, and
lies within a radius. -/
def IsClosest (graph : Graph) (ids : List Nat) (position : Point) (radius : Float32)
    (id : Nat) : Prop :=
  id ∈ ids ∧ ∃ node, graph.nodes[id]? = some node ∧ node.position.distance position ≤ radius ∧
    ∀ other ∈ ids, ∀ rival, graph.nodes[other]? = some rival →
      node.position.distance position < rival.position.distance position ∨
        (node.position.distance position == rival.position.distance position) ∧ id ≤ other

/-! ## What a search looks at -/

/-- A search looks at every node, or at those whose cell is adjacent to that of the point. -/
theorem mem_scanned (reachable : graph.Reachable) :
    id ∈ graph.scanned position radius ↔ ∃ node, graph.nodes[id]? = some node ∧
      ∀ index, graph.index = some index → index.coversRadius radius →
        Terrain.Adjacent (index.terrain.cellOf node.position) (index.terrain.cellOf position) := by
  have present : id ∈ List.range graph.nodes.size ↔ ∃ node, graph.nodes[id]? = some node := by
    rw [List.mem_range]
    exact ⟨fun inside => ⟨_, Array.getElem?_eq_getElem inside⟩,
      fun ⟨_, known⟩ => lt_size_of_known known⟩
  unfold scanned
  cases indexed : graph.index with
  | none => simp [present]
  | some index =>
    cases covers : index.coversRadius radius with
    | true => simp [(reachable.holds_nodes index indexed).mem_around, covers]
    | false => simp [present, covers]

/-! ## Answers -/

/-- An answer depends on which hits there are and not on their order. -/
theorem Answers.of_mem_iff {hits otherHits : List Hit} {best : Option Hit}
    (answers : Answers radius hits best) (same : ∀ hit, hit ∈ otherHits ↔ hit ∈ hits) :
    Answers radius otherHits best := by
  cases answers with
  | nothing outside => exact .nothing fun hit member => outside hit ((same hit).mp member)
  | found member within first =>
    exact .found ((same _).mpr member) within fun hit hitMember =>
      first hit ((same hit).mp hitMember)

theorem answers_eq_none_iff {best : Option Hit}
    (answers : Answers radius (graph.hitsAmong ids position) best) :
    best.map Hit.node = none ↔ ∀ id ∈ ids, ∀ node, graph.nodes[id]? = some node →
      ¬node.position.distance position ≤ radius := by
  cases answers with
  | nothing outside =>
    refine ⟨fun _ id member node known => ?_, fun _ => rfl⟩
    exact outside (hitOf position node) (mem_hitsAmong.mpr ⟨id, node, member, known, rfl⟩)
  | found member within =>
    obtain ⟨id, node, listed, known, rfl⟩ := mem_hitsAmong.mp member
    constructor
    · intro nothing
      cases nothing
    · intro outside
      exact absurd within (outside id listed node known)

/-- The order of hits is that of distances, compared as singles, and then of numbers. -/
theorem precedes_hitOf {node rival : Node}
    (number : (node.position.distance position).isNaN = false)
    (rivalNumber : (rival.position.distance position).isNaN = false) :
    (hitOf position node).Precedes (hitOf position rival) ↔
      node.position.distance position < rival.position.distance position ∨
        (node.position.distance position == rival.position.distance position) ∧
          node.id ≤ rival.id := by
  simp only [Hit.Precedes, hitOf, lt_iff, beq_iff, number, rivalNumber, true_and]

section Finite

variable (consistent : graph.Consistent) (finite : graph.FinitePositions)
  (positionFinite : position.isFinite)

include finite positionFinite in
theorem distance_isNumber {node : Node} (known : graph.nodes[id]? = some node) :
    (node.position.distance position).isNaN = false :=
  (Point.distance_isNumber (finite node (Array.mem_of_getElem? known)) positionFinite).1

include consistent finite positionFinite

theorem answers_eq_some_iff {best : Option Hit}
    (answers : Answers radius (graph.hitsAmong ids position) best) :
    best.map Hit.node = some id ↔ graph.IsClosest ids position radius id := by
  constructor
  · intro answered
    cases answers with
    | nothing => cases answered
    | found member within first =>
      obtain ⟨place, node, listed, known, rfl⟩ := mem_hitsAmong.mp member
      obtain rfl : place = id := (consistent.nodeId known).symm.trans (Option.some.inj answered)
      refine ⟨listed, node, known, within, fun other otherListed rival rivalKnown => ?_⟩
      have number := distance_isNumber finite positionFinite known
      have rivalNumber := distance_isNumber finite positionFinite rivalKnown
      have rivalHit : hitOf position rival ∈ graph.hitsAmong ids position :=
        mem_hitsAmong.mpr ⟨other, rival, otherListed, rivalKnown, rfl⟩
      by_cases inside : rival.position.distance position ≤ radius
      · have precedes := (precedes_hitOf number rivalNumber).mp (first _ rivalHit inside)
        rwa [consistent.nodeId known, consistent.nodeId rivalKnown] at precedes
      · -- Beyond the radius every rival is farther.
        obtain ⟨-, radiusNumber, reach⟩ := le_iff.mp within
        have beyond := (lt_iff.mp (lt_of_not_le rivalNumber radiusNumber inside)).2.2
        exact .inl (lt_iff.mpr ⟨number, rivalNumber, reach.trans_lt beyond⟩)
  · rintro ⟨listed, node, known, within, first⟩
    have number := distance_isNumber finite positionFinite known
    have member : hitOf position node ∈ graph.hitsAmong ids position :=
      mem_hitsAmong.mpr ⟨id, node, listed, known, rfl⟩
    have reached : (hitOf position node).distance ≤ radius := within
    cases answers with
    | nothing outside => exact absurd reached (outside _ member)
    | found bestMember bestWithin bestFirst =>
      obtain ⟨place, other, bestListed, otherKnown, rfl⟩ := mem_hitsAmong.mp bestMember
      have otherNumber := distance_isNumber finite positionFinite otherKnown
      have forward := bestFirst _ member reached
      have backward : (hitOf position node).Precedes (hitOf position other) := by
        rw [precedes_hitOf number otherNumber, consistent.nodeId known,
          consistent.nodeId otherKnown]
        exact first place bestListed other otherKnown
      have same := forward.node_eq backward
      exact congrArg some (same.trans (consistent.nodeId known))

end Finite

/-! ## Searches -/

section Searches

variable (reachable : graph.Reachable) (finite : graph.FinitePositions)
  (positionFinite : position.isFinite) (radiusFinite : radius.isFinite)

include reachable finite positionFinite radiusFinite

/-- The answer of a search is that among the hits of the nodes it looks at. -/
theorem nearest_answers :
    ∃ best, Answers radius (graph.hitsAmong (graph.scanned position radius) position) best ∧
      graph.nearest position radius = best.map Hit.node := by
  have ofAll : ∃ best,
      Answers radius (graph.hitsAmong (List.range graph.nodes.size) position) best ∧
        graph.nearestOfAll position radius = best.map Hit.node := by
    obtain ⟨best, answers, bestEq⟩ :=
      nearestOfAll_answers reachable.consistent finite positionFinite radius
    refine ⟨best, answers.of_mem_iff fun hit => ?_, bestEq⟩
    rw [mem_hitsAmong, mem_hitsOfAll]
    constructor
    · rintro ⟨id, node, -, known, same⟩
      exact ⟨id, node, known, same⟩
    · rintro ⟨id, node, known, same⟩
      exact ⟨id, node, List.mem_range.mpr (lt_size_of_known known), known, same⟩
  unfold nearest scanned
  cases graph.index with
  | none => exact ofAll
  | some index =>
    dsimp only
    split
    · exact nearestAround_answers finite positionFinite radiusFinite index
    · exact ofAll

theorem nearest_eq_none_iff :
    graph.nearest position radius = none ↔
      ∀ id ∈ graph.scanned position radius, ∀ node, graph.nodes[id]? = some node →
        ¬node.position.distance position ≤ radius := by
  obtain ⟨best, answers, bestEq⟩ := nearest_answers reachable finite positionFinite radiusFinite
  rw [bestEq]
  exact answers_eq_none_iff answers

theorem nearest_eq_some_iff :
    graph.nearest position radius = some id ↔
      graph.IsClosest (graph.scanned position radius) position radius id := by
  obtain ⟨best, answers, bestEq⟩ := nearest_answers reachable finite positionFinite radiusFinite
  rw [bestEq]
  exact answers_eq_some_iff reachable.consistent finite positionFinite answers

/-- Searches through the same nodes answer alike, in whatever order they meet them. -/
theorem nearestAmong_congr (same : ∀ id, id ∈ ids ↔ id ∈ others) :
    graph.nearestAmong ids position radius = graph.nearestAmong others position radius := by
  have consistent := reachable.consistent
  obtain ⟨best, answers, bestEq⟩ :=
    nearestAmong_answers finite positionFinite radiusFinite ids
  obtain ⟨otherBest, otherAnswers, otherEq⟩ :=
    nearestAmong_answers finite positionFinite radiusFinite others
  apply Option.ext
  intro id
  rw [bestEq, otherEq, answers_eq_some_iff consistent finite positionFinite answers,
    answers_eq_some_iff consistent finite positionFinite otherAnswers]
  simp only [IsClosest, same]

/-- A search finds nothing exactly if no node that it looks at is within the radius, and otherwise
the one of these nodes that comes first by distance and then by number. The search around a point
gives the same answer in whatever order it meets the nodes. -/
theorem nearest_first :
    (graph.nearest position radius = none ↔
      ∀ id ∈ graph.scanned position radius, ∀ node, graph.nodes[id]? = some node →
        ¬node.position.distance position ≤ radius) ∧
    (∀ id, graph.nearest position radius = some id ↔
      graph.IsClosest (graph.scanned position radius) position radius id) ∧
    ∀ index, graph.index = some index → ∀ order : List Nat,
      (∀ id, id ∈ order ↔ id ∈ index.around position) →
        graph.nearestAmong order position radius =
          graph.nearestAround index position radius := by
  refine ⟨nearest_eq_none_iff reachable finite positionFinite radiusFinite,
    fun id => nearest_eq_some_iff reachable finite positionFinite radiusFinite, ?_⟩
  intro index _ order same
  exact nearestAmong_congr reachable finite positionFinite radiusFinite same

end Searches

/-- Two nodes as far from the origin on either side, in two cells: the search meets the second one
first and answers with the first one, as it does in the other order. Away from both it finds
nothing. -/
theorem nearest_first_of_tie :
    ∃ (graph : Graph) (index : CellIndex), graph.Reachable ∧ graph.FinitePositions ∧
      graph.index = some index ∧ index.coversRadius usualSnapDistance ∧
      graph.scanned .origin usualSnapDistance = [1, 0] ∧
      graph.nearest .origin usualSnapDistance = some 0 ∧
      graph.nearestAmong [0, 1] .origin usualSnapDistance = some 0 ∧
      graph.nearest ⟨0.5, 0.5⟩ usualSnapDistance = none := by
  let right : Point := ⟨0.0078125, 0.0⟩
  let left : Point := ⟨-0.0078125, 0.0⟩
  let graph := (ofRoot {} usualSnapDistance .fourCells right).addNode left
  let index := ((CellIndex.empty .fourCells).insert 0 right).insert 1 left
  have reachable : graph.Reachable :=
    (reachable_ofRoot {} usualSnapDistance .fourCells right).added _
  have finite : graph.FinitePositions :=
    (finitePositions_ofRoot {} usualSnapDistance .fourCells (by decide +kernel)).addNode
      (by decide +kernel)
  have indexed : graph.index = some index := rfl
  have covers : index.coversRadius usualSnapDistance := by decide +kernel
  have radiusFinite : usualSnapDistance.isFinite := by decide +kernel
  have looked : graph.scanned .origin usualSnapDistance = [1, 0] := by decide +kernel
  have around : index.around .origin = [1, 0] := by decide +kernel
  have lookedAway : graph.scanned ⟨0.5, 0.5⟩ usualSnapDistance = [1, 0] := by decide +kernel
  have first : graph.nodes[0]? = some ⟨0, right, #[], #[]⟩ := rfl
  have second : graph.nodes[1]? = some ⟨1, left, #[], #[]⟩ := rfl
  have originFinite : Point.origin.isFinite := by decide +kernel
  have awayFinite : Point.isFinite ⟨0.5, 0.5⟩ := by decide +kernel
  have either {id : Nat} {node : Node} (listed : id ∈ [1, 0])
      (known : graph.nodes[id]? = some node) :
      id = 1 ∧ node = ⟨1, left, #[], #[]⟩ ∨ id = 0 ∧ node = ⟨0, right, #[], #[]⟩ := by
    simp only [List.mem_cons, List.not_mem_nil, or_false] at listed
    rcases listed with rfl | rfl
    · exact .inl ⟨rfl, Option.some.inj (known.symm.trans second)⟩
    · exact .inr ⟨rfl, Option.some.inj (known.symm.trans first)⟩
  obtain ⟨-, found, order⟩ := nearest_first reachable finite originFinite radiusFinite
  obtain ⟨nothing, -, -⟩ := nearest_first reachable finite awayFinite radiusFinite
  have tie : graph.nearest .origin usualSnapDistance = some 0 := by
    refine (found 0).mpr ⟨by simp [looked], _, first, by decide +kernel, ?_⟩
    intro other listed rival known
    rw [looked] at listed
    rcases either listed known with ⟨rfl, rfl⟩ | ⟨rfl, rfl⟩
    · exact .inr ⟨by decide +kernel, by decide⟩
    · exact .inr ⟨by decide +kernel, by decide⟩
  have away : graph.nearest ⟨0.5, 0.5⟩ usualSnapDistance = none := by
    refine nothing.mpr fun id listed node known => ?_
    rw [lookedAway] at listed
    rcases either listed known with ⟨rfl, rfl⟩ | ⟨rfl, rfl⟩
    · decide +kernel
    · decide +kernel
  have searched : graph.nearest .origin usualSnapDistance =
      graph.nearestAround index .origin usualSnapDistance := if_pos covers
  have turned : graph.nearestAmong [0, 1] .origin usualSnapDistance = some 0 := by
    rw [order index indexed [0, 1] fun id => by simp [around, or_comm], ← searched, tie]
  exact ⟨graph, index, reachable, finite, indexed, covers, looked, tie, turned, away⟩

end Graph

end RoadGrowth
