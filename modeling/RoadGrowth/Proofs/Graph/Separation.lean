import RoadGrowth.Proofs.Graph.Changes
import RoadGrowth.Proofs.Graph.Closest

/-!
# Added nodes lie apart

A growth adds a node only where its search finds none, and exactly at the point that was
searched around. So a node that a growth has added lies farther than the snap distance
from each node with a lower number that the search looks at. It stays so, whatever is
added later: no node moves, and a search looks at a place or not for the same reason.
-/

namespace RoadGrowth

open Numeric

namespace Graph

/-- The nodes that growths have added at the ends of segments. -/
inductive Sprouted : Graph → Nat → Prop where
  | new {graph next : Graph} {start : Nat} {target : Point} {rotation : Float32}
    {roadClass : RoadClass} {growth : Growth} (reachable : graph.Reachable)
    (done : graph.grow start target rotation roadClass = .ok (next, some growth))
    (adds : growth.addsNode = true) : Sprouted next growth.segment.finish
  | added {graph : Graph} {id : Nat} (sprouted : Sprouted graph id) (position : Point) :
    Sprouted (graph.addNode position) id
  | grown {graph next : Graph} {id start : Nat} {target : Point} {rotation : Float32}
    {roadClass : RoadClass} {growth : Option Growth} (sprouted : Sprouted graph id)
    (done : graph.grow start target rotation roadClass = .ok (next, growth)) : Sprouted next id

/-- Whether the search for a node to join, around a point, looks at a place. Without an index or
with cells too narrow for it, it looks everywhere. -/
def Sees (graph : Graph) (around place : Point) : Prop :=
  ∀ index, graph.index = some index → index.coversRadius graph.snapDistance →
    Terrain.Adjacent (index.terrain.cellOf place) (index.terrain.cellOf around)

/-- A node lies farther than the snap distance from those that were there before it, as far as
a search around it sees them. -/
def Apart (graph : Graph) (id : Nat) : Prop :=
  ∃ node, graph.nodes[id]? = some node ∧ ∀ earlier other, earlier < id →
    graph.nodes[earlier]? = some other → graph.Sees node.position other.position →
      graph.snapDistance < other.position.distance node.position

variable {graph next : Graph} {candidate : Candidate} {growth : Growth} {id : Nat}
  {position around place : Point} {radius : Float32}

/-! ## A search that finds nothing -/

/-- Nothing that a search looks at lies within its radius if it finds nothing. -/
theorem lt_distance_of_nearest_eq_none (reachable : graph.Reachable)
    (finite : graph.FinitePositions) (positionFinite : position.isFinite)
    (snapFinite : graph.snapDistance.isFinite)
    (free : graph.nearest position graph.snapDistance = none) {node : Node}
    (known : graph.nodes[id]? = some node) (sees : graph.Sees position node.position) :
    graph.snapDistance < node.position.distance position := by
  have looked : id ∈ graph.scanned position graph.snapDistance :=
    (mem_scanned reachable).mpr ⟨node, known, sees⟩
  have outside :=
    (nearest_eq_none_iff reachable finite positionFinite snapFinite).mp free id looked node known
  exact lt_of_not_le (distance_isNumber finite positionFinite known)
    ((isFinite_iff _).mp snapFinite).1 outside

/-! ## What growing keeps -/

theorem Sees.of_addNode (sees : (graph.addNode position).Sees around place) :
    graph.Sees around place := by
  intro index indexed covers
  refine sees (index.insert graph.nodes.size position) ?_ covers
  rw [addNode, indexed]
  rfl

/-- A growth does not change where a search looks. -/
theorem Sees.of_grew {outcome : Option Growth} (sees : next.Sees around place)
    (grew : Grew graph candidate next outcome) : graph.Sees around place := by
  cases grew with
  | rejected => exact sees
  | joined => exact sees
  | extended => exact Sees.of_addNode sees

theorem Grew.snapDistance_eq {outcome : Option Growth} (grew : Grew graph candidate next outcome) :
    next.snapDistance = graph.snapDistance := by
  cases grew <;> rfl

theorem Extends.finitePositions (larger : graph.Extends next) (finite : next.FinitePositions) :
    graph.FinitePositions := by
  intro node member
  obtain ⟨id, known⟩ := Array.mem_iff_getElem?.mp member
  obtain ⟨kept, keptKnown, same⟩ := larger.nodes known
  rw [← same.position_eq]
  exact finite kept (Array.mem_of_getElem? keptKnown)

/-- A node stays apart in a larger graph whose searches look at no more. -/
theorem Apart.extends (apart : graph.Apart id) (larger : graph.Extends next)
    (sameSnap : next.snapDistance = graph.snapDistance)
    (seen : ∀ {around place}, next.Sees around place → graph.Sees around place) :
    next.Apart id := by
  obtain ⟨node, known, apart⟩ := apart
  obtain ⟨kept, keptKnown, same⟩ := larger.nodes known
  refine ⟨kept, keptKnown, fun earlier other before otherKnown sees => ?_⟩
  have inside : earlier < graph.nodes.size := before.trans (lt_size_of_known known)
  obtain ⟨keptOther, keptOtherKnown, sameOther⟩ := larger.nodes (Array.getElem?_eq_getElem inside)
  obtain rfl : other = keptOther := Option.some.inj (otherKnown.symm.trans keptOtherKnown)
  rw [same.position_eq, sameOther.position_eq] at sees
  rw [sameSnap, same.position_eq, sameOther.position_eq]
  exact apart earlier _ before (Array.getElem?_eq_getElem inside) (seen sees)

/-- The search of a consistent graph finds no node that is not there. -/
theorem Consistent.nearest_eq_none (consistent : graph.Consistent)
    (free : (graph.nearest position radius).bind (fun found => graph.nodes[found]?) = none) :
    graph.nearest position radius = none := by
  refine Option.eq_none_iff_forall_ne_some.mpr fun found near => ?_
  rw [near, Option.bind_some, Array.getElem?_eq_getElem (consistent.nearest_lt near)] at free
  cases free

/-- A node that a growth adds lies apart. -/
theorem Grew.apart (grew : Grew graph candidate next (some growth)) (reachable : graph.Reachable)
    (finite : next.FinitePositions) (snapFinite : next.snapDistance.isFinite)
    (adds : growth.addsNode = true) : next.Apart growth.segment.finish := by
  have before := ((Extends.refl graph).grew grew).finitePositions finite
  obtain ⟨node, added, placed⟩ := reachable.consistent.growth_end grew
  have nodeFinite := finite node (Array.mem_of_getElem? added)
  cases grew with
  | joined => cases adds
  | @extended position _ free =>
    have nothing := reachable.consistent.nearest_eq_none free
    refine ⟨node, added, fun earlier other inside otherKnown sees => ?_⟩
    rw [placed] at nodeFinite sees ⊢
    have earlierOld : earlier ≠ graph.nodes.size := Nat.ne_of_lt inside
    rw [nodes_addSegment, nodes_addNode, if_neg earlierOld] at otherKnown
    obtain ⟨old, oldKnown, rfl⟩ := Option.map_eq_some_iff.mp otherKnown
    have far : graph.snapDistance < old.position.distance position :=
      lt_distance_of_nearest_eq_none reachable before nodeFinite snapFinite nothing oldKnown
        (Sees.of_addNode sees)
    exact far

theorem Sprouted.apart (sprouted : graph.Sprouted id) (finite : graph.FinitePositions)
    (snapFinite : graph.snapDistance.isFinite) : graph.Apart id := by
  induction sprouted with
  | new reachable done adds =>
    obtain ⟨_, _, grew⟩ := grew_of_grow done
    exact grew.apart reachable finite snapFinite adds
  | @added graph id _ position ih =>
    have larger := (Extends.refl graph).addNode position
    exact (ih (larger.finitePositions finite) snapFinite).extends larger rfl Sees.of_addNode
  | @grown graph _ _ _ _ _ _ _ _ done ih =>
    obtain ⟨_, _, grew⟩ := grew_of_grow done
    have larger := (Extends.refl graph).grew grew
    rw [grew.snapDistance_eq] at snapFinite
    exact (ih (larger.finitePositions finite) snapFinite).extends larger grew.snapDistance_eq
      fun sees => sees.of_grew grew

/-- A node that a growth has added lies farther than the snap distance from every node with a
lower number if searches look at all nodes, and else from those in the cells adjacent to its own. -/
theorem sprouted_apart (sprouted : graph.Sprouted id) (finite : graph.FinitePositions)
    (snapFinite : graph.snapDistance.isFinite) :
    ∃ node, graph.nodes[id]? = some node ∧ ∀ earlier other, earlier < id →
      graph.nodes[earlier]? = some other →
        ((∀ index, graph.index = some index → index.coversRadius graph.snapDistance = false) →
          graph.snapDistance < other.position.distance node.position) ∧
        ∀ index, graph.index = some index → index.coversRadius graph.snapDistance = true →
          Terrain.Adjacent (index.terrain.cellOf other.position)
            (index.terrain.cellOf node.position) →
          graph.snapDistance < other.position.distance node.position := by
  obtain ⟨node, known, apart⟩ := sprouted.apart finite snapFinite
  refine ⟨node, known, fun earlier other before otherKnown => ⟨fun narrow => ?_,
    fun index indexed _ adjacent => ?_⟩⟩
  · refine apart earlier other before otherKnown fun index indexed covers => ?_
    rw [narrow index indexed] at covers
    cases covers
  · refine apart earlier other before otherKnown fun found foundKnown _ => ?_
    rw [indexed] at foundKnown
    cases foundKnown
    exact adjacent

/-- In one cell, a segment a little longer than the snap distance adds a node, and a second one
that ends just beyond it joins that node. -/
theorem sprouted_apart_of_joined :
    ∃ (graph : Graph) (index : CellIndex), graph.Sprouted 1 ∧ graph.FinitePositions ∧
      graph.index = some index ∧ index.coversRadius graph.snapDistance = true ∧
      graph.segments.map Segment.finish = #[1, 1] ∧
      graph.nodes.map Node.position = #[.origin, ⟨0.03125, 0.0⟩] ∧
      graph.snapDistance < Point.origin.distance ⟨0.03125, 0.0⟩ := by
  let root := ofRoot {} usualSnapDistance .fourCells .origin
  let first : Candidate := ⟨0, .origin, ⟨0.03125, 0.0⟩, 0.25, .road⟩
  let once := (root.addNode ⟨0.03125, 0.0⟩).addSegment (root.extending first)
  let node : Node := ⟨1, ⟨0.03125, 0.0⟩, #[0], #[]⟩
  let second : Candidate := ⟨0, .origin, ⟨0.046875, 0.0⟩, 0.25, .road⟩
  let twice := once.addSegment (once.joining second node)
  have unused : root.nodes[0]? = some ⟨0, .origin, #[], #[]⟩ := rfl
  have grown : root.grow 0 ⟨0.03125, 0.0⟩ 0.25 .road =
      .ok (once, some ⟨root.extending first, ⟨0.03125, 0.0⟩, true⟩) :=
    grow_of_free unused rfl (by decide +kernel)
  have used : once.nodes[0]? = some ⟨0, .origin, #[], #[0]⟩ := rfl
  have near : once.nearest ⟨0.046875, 0.0⟩ once.snapDistance = some 1 := by decide +kernel
  have joined : once.grow 0 ⟨0.046875, 0.0⟩ 0.25 .road =
      .ok (twice, some ⟨once.joining second node, node.position, false⟩) :=
    grow_of_near used rfl near rfl
  have sprouted : twice.Sprouted 1 :=
    .grown (.new (reachable_ofRoot {} usualSnapDistance .fourCells .origin) grown rfl) joined
  have positions : twice.nodes.map Node.position = #[.origin, ⟨0.03125, 0.0⟩] := by
    decide +kernel
  have finite : twice.FinitePositions := by
    intro node member
    have place := Array.mem_map_of_mem (f := Node.position) member
    rw [positions] at place
    simp only [List.mem_toArray, List.mem_cons, List.not_mem_nil, or_false] at place
    rcases place with same | same <;> rw [same] <;> decide +kernel
  have indexed : twice.index =
      some (((CellIndex.empty .fourCells).insert 0 .origin).insert 1 ⟨0.03125, 0.0⟩) := rfl
  obtain ⟨added, known, apart⟩ := sprouted_apart sprouted finite (by decide +kernel)
  cases known
  obtain ⟨-, far⟩ := apart 0 ⟨0, .origin, #[], #[0, 1]⟩ (by decide) rfl
  exact ⟨twice, _, sprouted, finite, indexed, by decide +kernel, by decide +kernel, positions,
    far _ indexed (by decide +kernel) ⟨by decide +kernel, by decide +kernel⟩⟩

end Graph

end RoadGrowth
