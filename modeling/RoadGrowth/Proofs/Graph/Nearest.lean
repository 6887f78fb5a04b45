import RoadGrowth.Proofs.Graph.Block
import RoadGrowth.Proofs.Graph.Hits

/-!
# Searches for the nearest node

The search through all nodes and the one around a point differ only in the hits they
look at. So the second finds what the first one finds exactly if that lies in an
adjacent cell.
-/

namespace RoadGrowth

open Numeric

namespace Graph

variable {graph : Graph} {index : CellIndex} {position : Point} {radius : Float32}

/-- The hits of all nodes. -/
def hitsOfAll (graph : Graph) (position : Point) : List Hit :=
  graph.nodes.toList.map (hitOf position)

/-- The hits of the nodes in the block around a point. -/
def hitsAround (graph : Graph) (index : CellIndex) (position : Point) : List Hit :=
  (index.around position).filterMap fun id => graph.nodes[id]?.map (hitOf position)

/-- The hits of the nodes of a list of numbers. -/
def hitsAmong (graph : Graph) (ids : List Nat) (position : Point) : List Hit :=
  ids.filterMap fun id => graph.nodes[id]?.map (hitOf position)

/-- The search around a point, with its nodes given by a list of numbers. -/
def nearestAmong (graph : Graph) (ids : List Nat) (position : Point) (radius : Float32) :
    Option Nat :=
  (ids.foldl (fun best id =>
    match graph.nodes[id]? with
    | some node => Hit.orNearer radius best (hitOf position node)
    | none => best) none).map Hit.node

theorem nearestOfAll_eq (graph : Graph) (position : Point) (radius : Float32) :
    graph.nearestOfAll position radius =
      ((graph.hitsOfAll position).foldl (Hit.orLater radius) none).map Hit.node := by
  rw [nearestOfAll, hitsOfAll, List.foldl_map, Array.foldl_toList]

theorem nearestAmong_eq (graph : Graph) (ids : List Nat) (position : Point) (radius : Float32) :
    graph.nearestAmong ids position radius =
      ((graph.hitsAmong ids position).foldl (Hit.orNearer radius) none).map Hit.node := by
  rw [nearestAmong, hitsAmong, List.foldl_filterMap]
  congr 2
  funext best id
  cases graph.nodes[id]? <;> rfl

theorem nearestAround_eq (graph : Graph) (index : CellIndex) (position : Point)
    (radius : Float32) :
    graph.nearestAround index position radius =
      ((graph.hitsAround index position).foldl (Hit.orNearer radius) none).map Hit.node :=
  nearestAmong_eq graph (index.around position) position radius

theorem mem_hitsOfAll {hit : Hit} : hit ∈ graph.hitsOfAll position ↔
    ∃ (id : Nat) (node : Node), graph.nodes[id]? = some node ∧ hitOf position node = hit := by
  simp only [hitsOfAll, List.mem_map, Array.mem_toList_iff, Array.mem_iff_getElem?]
  constructor
  · rintro ⟨node, ⟨id, known⟩, same⟩
    exact ⟨id, node, known, same⟩
  · rintro ⟨id, node, known, same⟩
    exact ⟨node, ⟨id, known⟩, same⟩

theorem mem_hitsAmong {ids : List Nat} {hit : Hit} : hit ∈ graph.hitsAmong ids position ↔
    ∃ id node, id ∈ ids ∧ graph.nodes[id]? = some node ∧ hitOf position node = hit := by
  simp only [hitsAmong, List.mem_filterMap, Option.map_eq_some_iff]
  constructor
  · rintro ⟨id, member, node, known, same⟩
    exact ⟨id, node, member, known, same⟩
  · rintro ⟨id, node, member, known, same⟩
    exact ⟨id, member, node, known, same⟩

theorem mem_hitsAround {hit : Hit} : hit ∈ graph.hitsAround index position ↔
    ∃ id node, id ∈ index.around position ∧ graph.nodes[id]? = some node ∧
      hitOf position node = hit :=
  mem_hitsAmong

theorem hitsAmong_subset (ids : List Nat) :
    graph.hitsAmong ids position ⊆ graph.hitsOfAll position := by
  intro hit member
  obtain ⟨id, node, -, known, same⟩ := mem_hitsAmong.mp member
  exact mem_hitsOfAll.mpr ⟨id, node, known, same⟩

theorem hitsAround_subset : graph.hitsAround index position ⊆ graph.hitsOfAll position :=
  hitsAmong_subset (index.around position)

/-- All positions of a graph are finite. -/
def FinitePositions (graph : Graph) : Prop :=
  ∀ node ∈ graph.nodes, node.position.isFinite

theorem finitePositions_ofRoot (policy : Policy) (snapDistance : Float32) (terrain : Terrain)
    {root : Point} (finite : root.isFinite) :
    (ofRoot policy snapDistance terrain root).FinitePositions := by
  intro node member
  have only : (ofRoot policy snapDistance terrain root).nodes = #[{ id := 0, position := root }] :=
    rfl
  rw [only, Array.mem_singleton] at member
  rw [member]
  exact finite

theorem FinitePositions.addNode (finite : graph.FinitePositions)
    (positionFinite : position.isFinite) : (graph.addNode position).FinitePositions := by
  intro node member
  rcases Array.mem_push.mp member with old | rfl
  · exact finite node old
  · exact positionFinite

theorem isNaN_of_mem_hitsOfAll (finite : graph.FinitePositions) (positionFinite : position.isFinite)
    {hit : Hit} (member : hit ∈ graph.hitsOfAll position) : hit.distance.isNaN = false := by
  obtain ⟨id, node, known, rfl⟩ := mem_hitsOfAll.mp member
  exact (Point.distance_isNumber (finite node (Array.mem_of_getElem? known)) positionFinite).1

theorem hitsOfAll_ascending (consistent : graph.Consistent) (position : Point) :
    (graph.hitsOfAll position).Pairwise fun left right => left.node < right.node := by
  refine List.pairwise_map.mpr (List.pairwise_iff_getElem.mpr ?_)
  intro left right leftLt rightLt before
  have leftId := consistent.nodeId (Array.getElem?_eq_getElem leftLt)
  have rightId := consistent.nodeId (Array.getElem?_eq_getElem rightLt)
  simp only [hitOf, Array.getElem_toList, leftId, rightId]
  exact before

/-- The answer of the search through all nodes. -/
theorem nearestOfAll_answers (consistent : graph.Consistent) (finite : graph.FinitePositions)
    (positionFinite : position.isFinite) (radius : Float32) :
    ∃ best, Answers radius (graph.hitsOfAll position) best ∧
      graph.nearestOfAll position radius = best.map Hit.node := by
  have answers := answers_foldl_orLater radius
    (fun _ => isNaN_of_mem_hitsOfAll finite positionFinite)
    (hitsOfAll_ascending consistent position)
  exact ⟨_, answers, nearestOfAll_eq graph position radius⟩

/-- The answer of a search through the nodes of a list. -/
theorem nearestAmong_answers (finite : graph.FinitePositions) (positionFinite : position.isFinite)
    (radiusFinite : radius.isFinite) (ids : List Nat) :
    ∃ best, Answers radius (graph.hitsAmong ids position) best ∧
      graph.nearestAmong ids position radius = best.map Hit.node := by
  have numbers : ∀ hit ∈ graph.hitsAmong ids position, hit.distance.isNaN = false :=
    fun hit member => isNaN_of_mem_hitsOfAll finite positionFinite (hitsAmong_subset ids member)
  have answers := answers_foldl_orNearer ((isFinite_iff radius).mp radiusFinite).1 numbers
  exact ⟨_, answers, nearestAmong_eq graph ids position radius⟩

/-- The answer of the search around a point. -/
theorem nearestAround_answers (finite : graph.FinitePositions) (positionFinite : position.isFinite)
    (radiusFinite : radius.isFinite) (index : CellIndex) :
    ∃ best, Answers radius (graph.hitsAround index position) best ∧
      graph.nearestAround index position radius = best.map Hit.node :=
  nearestAmong_answers finite positionFinite radiusFinite (index.around position)

/-- The search around a point finds what the search through all nodes finds exactly if that lies
in an adjacent cell. -/
theorem nearestAround_eq_nearestOfAll (consistent : graph.Consistent)
    (indexed : graph.Indexed index) (finite : graph.FinitePositions)
    (positionFinite : position.isFinite) (radiusFinite : radius.isFinite) :
    graph.nearestAround index position radius = graph.nearestOfAll position radius ↔
      ∀ id node, graph.nearestOfAll position radius = some id → graph.nodes[id]? = some node →
        Terrain.Adjacent (index.terrain.cellOf node.position) (index.terrain.cellOf position) := by
  obtain ⟨best, answersAll, allEq⟩ :=
    nearestOfAll_answers consistent finite positionFinite radius
  obtain ⟨found, answersAround, aroundEq⟩ :=
    nearestAround_answers finite positionFinite radiusFinite index
  rw [allEq, aroundEq]
  constructor
  · intro same id node known nodeKnown
    rw [← same] at known
    cases answersAround with
    | nothing => cases known
    | found member =>
      obtain ⟨place, seen, block, seenKnown, rfl⟩ := mem_hitsAround.mp member
      have sameId : place = id := (consistent.nodeId seenKnown).symm.trans (Option.some.inj known)
      obtain ⟨other, otherKnown, adjacent⟩ := indexed.mem_around.mp block
      rw [sameId, nodeKnown] at otherKnown
      cases otherKnown
      exact adjacent
  · intro adjacent
    cases answersAll with
    | nothing outside =>
      cases answersAround with
      | nothing => rfl
      | found member within => exact absurd within (outside _ (hitsAround_subset member))
    | found member within first =>
      obtain ⟨id, node, known, rfl⟩ := mem_hitsOfAll.mp member
      have number : (hitOf position node).node = id := consistent.nodeId known
      have near := adjacent id node (congrArg some number) known
      have seen : hitOf position node ∈ graph.hitsAround index position :=
        mem_hitsAround.mpr ⟨id, node, indexed.mem_around.mpr ⟨node, known, near⟩, known, rfl⟩
      have answersAll := Answers.found member within first
      cases found with
      | none =>
        cases answersAround with
        | nothing outside => exact absurd within (outside _ seen)
      | some found =>
        exact congrArg some (answersAround.node_eq answersAll hitsAround_subset seen)

/-- What the search through all nodes finds lies within the radius. -/
theorem distance_le_of_nearestOfAll (consistent : graph.Consistent)
    (finite : graph.FinitePositions) (positionFinite : position.isFinite) {id : Nat} {node : Node}
    (found : graph.nearestOfAll position radius = some id) (known : graph.nodes[id]? = some node) :
    node.position.distance position ≤ radius := by
  obtain ⟨best, answers, bestEq⟩ := nearestOfAll_answers consistent finite positionFinite radius
  rw [bestEq] at found
  cases answers with
  | nothing => cases found
  | found member within =>
    obtain ⟨place, other, otherKnown, rfl⟩ := mem_hitsOfAll.mp member
    have sameId : place = id := (consistent.nodeId otherKnown).symm.trans (Option.some.inj found)
    rw [sameId, known] at otherKnown
    cases otherKnown
    exact within

/-- The indexed search agrees with the search through all nodes exactly if it looks at all of them
or what they find lies in a cell adjacent to that of the point. Cells that exceed the radius
by the margin for rounding are enough, and then no node within the radius is missed. -/
theorem nearest_eq_nearestOfAll_iff (reachable : graph.Reachable)
    (known : graph.index = some index) (finite : graph.FinitePositions)
    (positionFinite : position.isFinite) (radiusFinite : radius.isFinite) :
    (graph.nearest position radius = graph.nearestOfAll position radius ↔
      (index.coversRadius radius → ∀ id node,
        graph.nearestOfAll position radius = some id → graph.nodes[id]? = some node →
          Terrain.Adjacent (index.terrain.cellOf node.position)
            (index.terrain.cellOf position))) ∧
    (index.terrain.Exceeds radius →
      graph.nearest position radius = graph.nearestOfAll position radius ∧
      ∀ id node, graph.nodes[id]? = some node → node.position.distance position ≤ radius →
        id ∈ index.around position) := by
  have consistent := reachable.consistent
  have indexed := reachable.holds_nodes index known
  have around := nearestAround_eq_nearestOfAll consistent indexed finite positionFinite radiusFinite
  have agrees : graph.nearest position radius = graph.nearestOfAll position radius ↔
      (index.coversRadius radius → ∀ id node,
        graph.nearestOfAll position radius = some id → graph.nodes[id]? = some node →
          Terrain.Adjacent (index.terrain.cellOf node.position)
            (index.terrain.cellOf position)) := by
    unfold nearest
    rw [known]
    dsimp only
    split
    · rename_i covers
      rw [around]
      exact ⟨fun adjacent _ => adjacent, fun adjacent => adjacent covers⟩
    · rename_i uncovered
      exact ⟨fun _ covers => absurd covers uncovered, fun _ => rfl⟩
  refine ⟨agrees, fun exceeds => ?_⟩
  have close : ∀ (id : Nat) (node : Node), graph.nodes[id]? = some node →
      node.position.distance position ≤ radius →
        Terrain.Adjacent (index.terrain.cellOf node.position) (index.terrain.cellOf position) :=
    fun id node nodeKnown within => Terrain.adjacent_of_distance_le
      (finite node (Array.mem_of_getElem? nodeKnown)) positionFinite radiusFinite within exceeds
  refine ⟨agrees.mpr fun _ id node found nodeKnown => ?_, fun id node nodeKnown within => ?_⟩
  · exact close id node nodeKnown
      (distance_le_of_nearestOfAll consistent finite positionFinite found nodeKnown)
  · exact indexed.mem_around.mpr ⟨node, nodeKnown, close id node nodeKnown within⟩

/-- One node on a map of four cells, which exceed a radius of a half. -/
theorem nearest_eq_nearestOfAll_on_four_cells :
    ∃ (graph : Graph) (index : CellIndex), graph.Reachable ∧
      graph.index = some index ∧ index.terrain = .fourCells ∧ index.coversRadius 0.5 ∧
      graph.nearest ⟨0.25, 0.0⟩ 0.5 = some 0 ∧ 0 ∈ index.around ⟨0.25, 0.0⟩ := by
  have reachable := reachable_ofRoot {} usualSnapDistance .fourCells .origin
  have exceeds : Terrain.fourCells.Exceeds 0.5 := by
    constructor <;> change realValue 0.5 + 2 ^ (-20 : ℤ) ≤ 2 / ((2 : Nat) : ℝ) <;>
      norm_num [Terrain.realValue_half]
  have finite := finitePositions_ofRoot {} usualSnapDistance .fourCells
    (by decide : Point.origin.isFinite)
  have positionFinite : (⟨0.25, 0.0⟩ : Point).isFinite := by decide +kernel
  have radiusFinite : (0.5 : Float32).isFinite := by decide +kernel
  obtain ⟨-, agrees⟩ :=
    nearest_eq_nearestOfAll_iff reachable rfl finite positionFinite radiusFinite
  obtain ⟨same, seen⟩ := agrees exceeds
  refine ⟨_, _, reachable, rfl, rfl, by decide +kernel, ?_, ?_⟩
  · rw [same]
    decide +kernel
  · exact seen 0 ⟨0, .origin, #[], #[]⟩ rfl (by decide +kernel)

/-- On the usual map, whose cells are exactly as wide as the usual snap distance, a node just left
of the middle and a point just short of the next cell but one are that close and not adjacent. -/
theorem exists_nearest_ne_nearestOfAll :
    ∃ (terrain : Terrain) (graph : Graph) (index : CellIndex) (position : Point),
      terrain.settings = {} ∧ index.terrain = terrain ∧ graph.Reachable ∧
      graph.index = some index ∧ graph.FinitePositions ∧ position.isFinite ∧
      index.coversRadius usualSnapDistance ∧
      graph.nearestOfAll position usualSnapDistance = some 0 ∧
      graph.nearest position usualSnapDistance ≠ graph.nearestOfAll position usualSnapDistance := by
  let terrain : Terrain := .level ⟨100, 100⟩ .zero (by decide)
  let root : Point := ⟨Float32.ofBits 0xb3800000, 0.0⟩
  let position : Point := ⟨Float32.ofBits 0x3ca3d6e4, 0.0⟩
  let index : CellIndex := (CellIndex.empty terrain).insert 0 root
  let graph := ofRoot {} usualSnapDistance terrain root
  have reachable : graph.Reachable := reachable_ofRoot {} usualSnapDistance terrain root
  have finite : graph.FinitePositions :=
    finitePositions_ofRoot {} usualSnapDistance terrain (by decide +kernel)
  have positionFinite : position.isFinite := by decide +kernel
  have radiusFinite : usualSnapDistance.isFinite := by decide +kernel
  have covers : index.coversRadius usualSnapDistance := by decide +kernel
  have found : graph.nearestOfAll position usualSnapDistance = some 0 := by decide +kernel
  have rootColumn : (terrain.cellOf root).1.val = 49 := by decide +kernel
  have column : (terrain.cellOf position).1.val = 51 := by decide +kernel
  refine ⟨terrain, graph, index, position, rfl, rfl, reachable, rfl, finite, positionFinite, covers,
    found, fun same => ?_⟩
  have searched : graph.nearest position usualSnapDistance =
      graph.nearestAround index position usualSnapDistance := if_pos covers
  rw [searched] at same
  have adjacent := (nearestAround_eq_nearestOfAll reachable.consistent
    (reachable.holds_nodes index rfl) finite positionFinite radiusFinite).mp same 0
    ⟨0, root, #[], #[]⟩ found rfl
  have columns : (terrain.cellOf position).1.val ≤ (terrain.cellOf root).1.val + 1 := adjacent.1.2
  omega

end Graph

end RoadGrowth
