import RoadGrowth.Proofs.Graph.Separation

/-!
# Growing the same segment again

A search depends on where nodes are and not on which segments touch them. So when a
growth has joined a node, the same growth finds that node again; and when it has added
one, that one lies at the point that is searched around, closer than all others that the
search looks at, since none of them was within the snap distance. Either way a growth
that is repeated ends at the same node and adds none.
-/

namespace RoadGrowth

open Numeric

namespace Graph

variable {graph next : Graph} {candidate : Candidate} {growth : Growth} {position : Point}
  {start : Nat} {target : Point} {rotation : Float32} {roadClass : RoadClass}

/-! ## Searches in the larger graph -/

theorem hitsOfAll_addSegment (graph : Graph) (segment : Segment) (position : Point) :
    (graph.addSegment segment).hitsOfAll position = graph.hitsOfAll position := by
  apply List.ext_getElem?
  intro place
  simp only [hitsOfAll, List.getElem?_map, Array.getElem?_toList, nodes_addSegment,
    Option.map_map]
  rfl

theorem hitsAround_addSegment (graph : Graph) (segment : Segment) (index : CellIndex)
    (position : Point) :
    (graph.addSegment segment).hitsAround index position = graph.hitsAround index position := by
  simp only [hitsAround, nodes_addSegment, Option.map_map]
  rfl

/-- A segment changes no search. -/
theorem nearest_addSegment (graph : Graph) (segment : Segment) (position : Point)
    (radius : Float32) :
    (graph.addSegment segment).nearest position radius = graph.nearest position radius := by
  simp only [nearest, nearestOfAll_eq, nearestAround_eq, hitsOfAll_addSegment,
    hitsAround_addSegment, index_addSegment]

/-- A node added where a search has found nothing is what the search finds from then on. -/
theorem nearest_addNode (reachable : graph.Reachable) (finite : graph.FinitePositions)
    (snapFinite : graph.snapDistance.isFinite) (snapNonneg : 0.0 ≤ graph.snapDistance)
    (positionFinite : position.isFinite)
    (free : graph.nearest position graph.snapDistance = none) :
    (graph.addNode position).nearest position graph.snapDistance = some graph.nodes.size := by
  have larger : (graph.addNode position).Reachable := reachable.added position
  have added : (graph.addNode position).nodes[graph.nodes.size]? =
      some ⟨graph.nodes.size, position, #[], #[]⟩ := by
    rw [nodes_addNode, if_pos rfl]
  have selfNumber : (position.distance position).isNaN = false :=
    (Point.distance_isNumber positionFinite positionFinite).1
  have atSelf : position.distance position ≤ graph.snapDistance := by
    obtain ⟨-, snapNumber, snapRank⟩ := le_iff.mp snapNonneg
    refine le_iff.mpr ⟨selfNumber, snapNumber, gridValue_le_iff.mp ?_⟩
    exact (Point.realValue_distance_self positionFinite).trans_le
      (gridValue_nonneg_iff.mpr snapRank)
  rw [nearest_eq_some_iff larger (finite.addNode positionFinite) positionFinite snapFinite]
  refine ⟨?looked, _, added, atSelf, ?first⟩
  case looked =>
    refine (mem_scanned larger).mpr ⟨_, added, fun index _ _ => ?_⟩
    constructor <;> constructor <;> exact Nat.le_succ _
  case first =>
    intro other looked rival rivalKnown
    by_cases last : other = graph.nodes.size
    · subst last
      rw [added] at rivalKnown
      cases rivalKnown
      exact .inr ⟨beq_iff.mpr ⟨selfNumber, selfNumber, rfl⟩, Nat.le_refl _⟩
    · -- Whatever was there before is farther than the snap distance.
      obtain ⟨seen, seenKnown, sees⟩ := (mem_scanned larger).mp looked
      rw [rivalKnown] at seenKnown
      cases seenKnown
      rw [nodes_addNode, if_neg last] at rivalKnown
      have far := lt_distance_of_nearest_eq_none reachable finite positionFinite snapFinite free
        rivalKnown (Sees.of_addNode sees)
      obtain ⟨-, -, near⟩ := le_iff.mp atSelf
      obtain ⟨-, rivalNumber, beyond⟩ := lt_iff.mp far
      exact .inl (lt_iff.mpr ⟨selfNumber, rivalNumber, near.trans_lt beyond⟩)

/-- After a growth the search around its resolved end finds the node that it ended at. -/
theorem Grew.nearest_finish (grew : Grew graph candidate next (some growth))
    (reachable : graph.Reachable) (finite : graph.FinitePositions)
    (snapFinite : graph.snapDistance.isFinite) (snapNonneg : 0.0 ≤ graph.snapDistance)
    (resolved : graph.policy.resolve candidate = some position)
    (positionFinite : position.isFinite) :
    next.nearest position next.snapDistance = some growth.segment.finish := by
  cases grew with
  | @joined other found node otherResolved near known =>
    obtain rfl : position = other := Option.some.inj (resolved.symm.trans otherResolved)
    rw [nearest_addSegment]
    exact near.trans (congrArg some (reachable.consistent.nodeId known).symm)
  | @extended other otherResolved free =>
    obtain rfl : position = other := Option.some.inj (resolved.symm.trans otherResolved)
    rw [nearest_addSegment]
    exact nearest_addNode reachable finite snapFinite snapNonneg positionFinite
      (reachable.consistent.nearest_eq_none free)

/-- A growth that was accepted, with a finite end, and is repeated at once is accepted again. It
adds a segment to the node at which the first one ended, and no node. -/
theorem grow_again (reachable : graph.Reachable) (finite : graph.FinitePositions)
    (snapFinite : graph.snapDistance.isFinite) (snapNonneg : 0.0 ≤ graph.snapDistance)
    {origin : Node} (known : graph.nodes[start]? = some origin)
    (resolved : graph.policy.resolve ⟨start, origin.position, target, rotation, roadClass⟩ =
      some position)
    (positionFinite : position.isFinite)
    (done : graph.grow start target rotation roadClass = .ok (next, some growth)) :
    ∃ after again, next.grow start target rotation roadClass = .ok (after, some again) ∧
      after.nodes.size = next.nodes.size ∧ again.addsNode = false ∧
      again.segment.finish = growth.segment.finish ∧ next.Gains again.segment after := by
  obtain ⟨before, beforeKnown, grew⟩ := grew_of_grow done
  obtain rfl : origin = before := Option.some.inj (known.symm.trans beforeKnown)
  have later : next.Reachable := reachable.grown done
  have near := grew.nearest_finish reachable finite snapFinite snapNonneg resolved positionFinite
  obtain ⟨kept, keptKnown, samePlace⟩ := grew.position_kept known
  have sameResolved :
      next.policy.resolve ⟨start, kept.position, target, rotation, roadClass⟩ = some position := by
    rw [grew.policy_eq, samePlace, resolved]
  have endKnown := Array.getElem?_eq_getElem (later.consistent.nearest_lt near)
  have again := grow_of_near keptKnown sameResolved near endKnown
  refine ⟨_, _, again, size_nodes_addSegment _ _, rfl, ?_, ?_⟩
  · exact later.consistent.nodeId endKnown
  · exact later.consistent.gains_addSegment rfl

/-- A segment that leaves the map is cut at the edge and gets a node there; grown again it is cut
at the same place and joins that node. -/
theorem grow_again_at_map_edge :
    ∃ (graph next after : Graph) (growth again : Growth), graph.Reachable ∧
      graph.FinitePositions ∧ graph.index.isSome ∧
      graph.grow 0 ⟨1.5, 0.0⟩ 0.25 .road = .ok (next, some growth) ∧ growth.addsNode ∧
      growth.segment.finish = 1 ∧ next.nodes.size = 2 ∧
      next.grow 0 ⟨1.5, 0.0⟩ 0.25 .road = .ok (after, some again) ∧
      again.segment.finish = 1 ∧ after.nodes.size = 2 ∧
      after.segments.map Segment.finish = #[1, 1] := by
  let policy : Policy := ⟨[.bounds Terrain.mapBounds], true⟩
  let root : Point := ⟨0.5, 0.0⟩
  let graph := ofRoot policy usualSnapDistance .fourCells root
  let candidate : Candidate := ⟨0, root, ⟨1.5, 0.0⟩, 0.25, .road⟩
  let next := (graph.addNode ⟨1.0, 0.0⟩).addSegment (graph.extending candidate)
  have reachable : graph.Reachable := reachable_ofRoot policy usualSnapDistance .fourCells root
  have finite : graph.FinitePositions :=
    finitePositions_ofRoot policy usualSnapDistance .fourCells (by decide +kernel)
  have known : graph.nodes[0]? = some ⟨0, root, #[], #[]⟩ := rfl
  have resolved : graph.policy.resolve candidate = some ⟨1.0, 0.0⟩ := by decide +kernel
  have done : graph.grow 0 ⟨1.5, 0.0⟩ 0.25 .road =
      .ok (next, some ⟨graph.extending candidate, ⟨1.0, 0.0⟩, true⟩) :=
    grow_of_free known resolved (by decide +kernel)
  obtain ⟨after, again, grown, size, -, finish, gains⟩ :=
    grow_again reachable finite (by decide +kernel) (by decide +kernel) known resolved
      (by decide +kernel) done
  refine ⟨graph, next, after, _, again, reachable, finite, rfl, done, rfl, rfl, rfl, grown, finish,
    size, ?_⟩
  have first : next.segments.map Segment.finish = #[1] := by decide +kernel
  rw [gains.segments_eq, Array.map_push, first, finish]
  rfl

end Graph

end RoadGrowth
