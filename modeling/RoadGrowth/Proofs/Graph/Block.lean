import RoadGrowth.Proofs.Graph.Links
import RoadGrowth.Proofs.Terrain.Cells

/-!
# What an index holds

Each node of an indexed graph stands in the bucket of the cell its position falls
into and in no other, and every bucket is in ascending order. The block around a
point therefore lists the nodes whose cell is adjacent to that of the point.
-/

namespace RoadGrowth

/-! ## Buckets -/

theorem Terrain.cellIndex_injective {terrain : Terrain} {left right : terrain.Cell}
    (same : cellIndex left = cellIndex right) : left = right := by
  obtain ⟨leftColumn, leftRow⟩ := left
  obtain ⟨rightColumn, rightRow⟩ := right
  have values : leftRow.val * terrain.columns + leftColumn.val =
      rightRow.val * terrain.columns + rightColumn.val := Fin.val_eq_of_eq same
  have rows : leftRow.val = rightRow.val := by
    have quotients := congrArg (· / terrain.columns) values
    simpa [Nat.add_div_of_dvd_right, Nat.mul_div_cancel _ terrain.columns_pos,
      Nat.div_eq_of_lt leftColumn.isLt, Nat.div_eq_of_lt rightColumn.isLt] using quotients
  have columns : leftColumn.val = rightColumn.val := by
    rw [rows] at values
    omega
  exact Prod.ext (Fin.ext columns) (Fin.ext rows)

namespace CellIndex

theorem bucket_empty (terrain : Terrain) (cell : terrain.Cell) :
    (empty terrain).bucket cell = #[] := by
  simp [empty, bucket, Vector.get]

theorem bucket_insert (index : CellIndex) (node : Nat) (position : Point)
    (cell : index.terrain.Cell) :
    (index.insert node position).bucket cell =
      if index.terrain.cellOf position = cell then (index.bucket cell).push node
      else index.bucket cell := by
  let place := Terrain.cellIndex (index.terrain.cellOf position)
  change (index.buckets.set place.val ((index.buckets.get place).push node) place.isLt)[
    (Terrain.cellIndex cell).val] = _
  rw [Vector.getElem_set]
  by_cases here : index.terrain.cellOf position = cell
  · subst here
    rw [if_pos rfl, if_pos rfl]
    rfl
  · rw [if_neg here, if_neg fun same => here (Terrain.cellIndex_injective (Fin.ext same))]
    rfl

theorem mem_neighbors {bound : Nat} {center other : Fin bound} :
    other ∈ neighbors center ↔ other.val ≤ center.val + 1 ∧ center.val ≤ other.val + 1 := by
  have otherLt := other.isLt
  simp only [neighbors, List.mem_append, List.mem_cons, Fin.ext_iff]
  split <;> split <;> simp [Fin.ext_iff] <;> omega

theorem mem_block {index : CellIndex} {position : Point} {cell : index.terrain.Cell} :
    cell ∈ index.block position ↔
      Terrain.Adjacent cell (index.terrain.cellOf position) := by
  simp only [block, List.mem_flatMap, List.mem_map, mem_neighbors, Terrain.Adjacent]
  constructor
  · rintro ⟨row, rowClose, column, columnClose, rfl⟩
    exact ⟨columnClose, rowClose⟩
  · rintro ⟨columnClose, rowClose⟩
    exact ⟨cell.2, rowClose, cell.1, columnClose, rfl⟩

end CellIndex

namespace Graph

/-- Buckets hold the nodes of their cell, in ascending order. -/
structure Indexed (graph : Graph) (index : CellIndex) : Prop where
  mem_bucket : ∀ {cell : index.terrain.Cell} {id : Nat}, id ∈ index.bucket cell ↔
    ∃ node, graph.nodes[id]? = some node ∧ index.terrain.cellOf node.position = cell
  ascending : ∀ cell : index.terrain.Cell, (index.bucket cell).toList.Pairwise (· < ·)

variable {graph next : Graph} {index : CellIndex}

theorem Indexed.mem_bucket_insert (indexed : graph.Indexed index) (position : Point)
    {cell : index.terrain.Cell} {id : Nat} :
    id ∈ (index.insert graph.nodes.size position).bucket cell ↔
      ∃ node, (graph.addNode position).nodes[id]? = some node ∧
        index.terrain.cellOf node.position = cell := by
  rw [CellIndex.bucket_insert, nodes_addNode]
  by_cases last : id = graph.nodes.size
  · have absent : id ∉ index.bucket cell := by
      rw [indexed.mem_bucket]
      rintro ⟨node, known, -⟩
      exact absurd (lt_size_of_known known) (by omega)
    by_cases here : index.terrain.cellOf position = cell
    · simp [here, last]
    · simp [here, last ▸ absent, last]
  · rw [if_neg last, ← indexed.mem_bucket]
    by_cases here : index.terrain.cellOf position = cell <;> simp [here, last]

theorem Indexed.ascending_insert (indexed : graph.Indexed index) (position : Point)
    (cell : index.terrain.Cell) :
    ((index.insert graph.nodes.size position).bucket cell).toList.Pairwise (· < ·) := by
  rw [CellIndex.bucket_insert]
  split
  · rw [Array.toList_push, List.pairwise_append]
    refine ⟨indexed.ascending cell, List.pairwise_singleton _ _, fun id member last isLast => ?_⟩
    obtain ⟨node, known, -⟩ := indexed.mem_bucket.mp (Array.mem_toList_iff.mp member)
    rw [List.mem_singleton.mp isLast]
    exact lt_size_of_known known
  · exact indexed.ascending cell

theorem Indexed.addNode (indexed : graph.Indexed index) (position : Point) :
    (graph.addNode position).Indexed (index.insert graph.nodes.size position) :=
  ⟨indexed.mem_bucket_insert position, indexed.ascending_insert position⟩

theorem Indexed.addSegment (indexed : graph.Indexed index) (segment : Segment) :
    (graph.addSegment segment).Indexed index where
  mem_bucket {cell id} := by
    rw [indexed.mem_bucket, nodes_addSegment]
    constructor
    · rintro ⟨node, known, place⟩
      exact ⟨_, Option.map_eq_some_iff.mpr ⟨node, known, rfl⟩, place⟩
    · rintro ⟨linked, known, place⟩
      obtain ⟨node, found, rfl⟩ := Option.map_eq_some_iff.mp known
      exact ⟨node, found, place⟩
  ascending := indexed.ascending

/-- Without nodes the empty index is right. -/
theorem indexed_empty {terrain : Terrain} (none : graph.nodes = #[]) :
    graph.Indexed (CellIndex.empty terrain) where
  mem_bucket {cell id} := by
    have empty := CellIndex.bucket_empty terrain cell
    simp [empty, none]
  ascending cell := by
    have empty := CellIndex.bucket_empty terrain cell
    simp [empty]

theorem Indexed.grew {candidate : Candidate} {growth : Option Growth}
    (indexed : ∀ index, graph.index = some index → graph.Indexed index)
    (grew : Grew graph candidate next growth) :
    ∀ index, next.index = some index → next.Indexed index := by
  intro index known
  cases grew with
  | rejected => exact indexed index known
  | joined => exact (indexed index known).addSegment _
  | extended =>
    obtain ⟨before, found, rfl⟩ := Option.map_eq_some_iff.mp known
    exact ((indexed before found).addNode _).addSegment _

/-- The index of a reachable graph holds its nodes. -/
theorem Reachable.holds_nodes (reachable : graph.Reachable) :
    ∀ index, graph.index = some index → graph.Indexed index := by
  induction reachable with
  | empty => exact fun index known => by cases known
  | indexed _ done _ =>
    intro index known
    unfold withIndex at done
    split at done
    · rename_i none
      cases done
      cases known
      exact indexed_empty (Array.isEmpty_iff.mp none)
    · cases done
  | added _ position ih =>
    intro index known
    obtain ⟨before, found, rfl⟩ := Option.map_eq_some_iff.mp known
    exact (ih before found).addNode position
  | grown _ done ih =>
    obtain ⟨node, known, grew⟩ := grew_of_grow done
    exact Indexed.grew ih grew

/-- The block around a point lists the nodes of the cells adjacent to that of the point. -/
theorem Indexed.mem_around (indexed : graph.Indexed index) {position : Point} {id : Nat} :
    id ∈ index.around position ↔ ∃ node, graph.nodes[id]? = some node ∧
      Terrain.Adjacent (index.terrain.cellOf node.position) (index.terrain.cellOf position) := by
  simp only [CellIndex.around, List.mem_flatMap, CellIndex.mem_block, Array.mem_toList_iff,
    indexed.mem_bucket]
  constructor
  · rintro ⟨cell, adjacent, node, known, rfl⟩
    exact ⟨node, known, adjacent⟩
  · rintro ⟨node, known, adjacent⟩
    exact ⟨_, adjacent, node, known, rfl⟩

end Graph

end RoadGrowth
