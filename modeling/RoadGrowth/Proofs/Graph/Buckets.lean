import Mathlib.Data.List.Nodup
import RoadGrowth.Proofs.Graph.Block

/-!
# Buckets and blocks are exact

The buckets of an index stand row by row, one for each cell, and each node is in one of
them, once. The cells of a block are those whose column and row differ by one at most
from the cell in the middle, as far as there are such columns and rows: the block is cut
off at an edge and wraps nowhere. So it lists each of its nodes once.
-/

namespace RoadGrowth

/-! ## Places -/

namespace Terrain

variable {terrain : Terrain}

/-- The place of a cell in row-by-row order, computed in words. -/
def placeWord (cell : terrain.Cell) : UInt32 :=
  UInt32.ofNat cell.2 * terrain.settings.divisions.columns + UInt32.ofNat cell.1

/-- With fewer cells than words no place wraps. -/
theorem toNat_placeWord (few : terrain.cellCount < 2 ^ 32) (cell : terrain.Cell) :
    (placeWord cell).toNat = (cellIndex cell).val := by
  have place := (cellIndex cell).isLt
  have columnLt : cell.1.val < 2 ^ 32 := cell.1.isLt.trans (UInt32.toNat_lt _)
  have rowLt : cell.2.val < 2 ^ 32 := cell.2.isLt.trans (UInt32.toNat_lt _)
  simp only [cellIndex] at place ⊢
  simp only [placeWord, UInt32.toNat_add, UInt32.toNat_mul, UInt32.toNat_ofNat']
  rw [Nat.mod_eq_of_lt columnLt, Nat.mod_eq_of_lt rowLt,
    Nat.mod_eq_of_lt (by omega : cell.2.val * terrain.columns < 2 ^ 32),
    Nat.mod_eq_of_lt (by omega)]

/-- Every place is that of a cell. -/
theorem exists_cellIndex_eq (place : Fin terrain.cellCount) :
    ∃ cell : terrain.Cell, cellIndex cell = place := by
  have columnLt : place.val % terrain.columns < terrain.columns :=
    Nat.mod_lt _ terrain.columns_pos
  have rowLt : place.val / terrain.columns < terrain.rows := Nat.div_lt_of_lt_mul place.isLt
  refine ⟨(⟨_, columnLt⟩, ⟨_, rowLt⟩), Fin.ext ?_⟩
  exact Nat.div_add_mod' place.val terrain.columns

end Terrain

/-! ## Blocks -/

namespace CellIndex

/-- A number and its neighbors run from the one before to the one behind, cut off at zero and at
the last number below the bound. -/
theorem map_val_neighbors {bound : Nat} (center : Fin bound) :
    (neighbors center).map Fin.val = List.range' (center.val - 1)
      (min (center.val + 1) (bound - 1) + 1 - (center.val - 1)) := by
  have inside := center.isLt
  generalize lengthEq : min (center.val + 1) (bound - 1) + 1 - (center.val - 1) = length
  -- In the middle, at the last number, at the first one, and alone.
  by_cases before : 0 < center.val <;> by_cases behind : center.val + 1 < bound
  · obtain rfl : length = 3 := by omega
    simp [neighbors, before, behind, List.range'_succ]
    omega
  · obtain rfl : length = 2 := by omega
    simp [neighbors, before, behind, List.range'_succ]
    omega
  · obtain rfl : length = 2 := by omega
    simp [neighbors, before, behind, List.range'_succ]
    omega
  · obtain rfl : length = 1 := by omega
    simp [neighbors, before, behind, List.range'_succ]
    omega

theorem nodup_neighbors {bound : Nat} (center : Fin bound) : (neighbors center).Nodup := by
  apply List.Nodup.of_map Fin.val
  rw [map_val_neighbors]
  exact List.nodup_range'

/-- Parts without repetitions that share nothing make a list without repetitions. -/
theorem nodup_flatMap_of_unique {α β : Type} {items : List α} {parts : α → List β}
    (distinct : items.Nodup) (each : ∀ item, (parts item).Nodup)
    (unique : ∀ {left right part}, part ∈ parts left → part ∈ parts right → left = right) :
    (items.flatMap parts).Nodup := by
  rw [List.nodup_flatMap]
  refine ⟨fun item _ => each item, distinct.imp fun apart part inLeft inRight => ?_⟩
  exact apart (unique inLeft inRight)

theorem nodup_block (index : CellIndex) (position : Point) : (index.block position).Nodup := by
  apply nodup_flatMap_of_unique (nodup_neighbors _)
  · intro row
    exact (nodup_neighbors _).map fun left right same => (Prod.mk.inj same).1
  · intro left right cell inLeft inRight
    obtain ⟨_, -, rfl⟩ := List.mem_map.mp inLeft
    obtain ⟨_, -, same⟩ := List.mem_map.mp inRight
    exact (Prod.mk.inj same).2.symm

/-- The range check of a look-up passes for every cell of a block. -/
theorem inCell_of_cell (index : CellIndex) (cell : index.terrain.Cell) :
    index.inCell cell.1 cell.2 = .ok (index.bucket cell) :=
  dif_pos ⟨cell.1.isLt, cell.2.isLt⟩

end CellIndex

/-! ## Nodes -/

namespace Graph

variable {graph : Graph} {index : CellIndex}

theorem Indexed.nodup_bucket (indexed : graph.Indexed index) (cell : index.terrain.Cell) :
    (index.bucket cell).toList.Nodup :=
  (indexed.ascending cell).imp fun below => Nat.ne_of_lt below

/-- A node stands in one bucket only. -/
theorem Indexed.cell_unique (indexed : graph.Indexed index) {left right : index.terrain.Cell}
    {id : Nat} (inLeft : id ∈ index.bucket left) (inRight : id ∈ index.bucket right) :
    left = right := by
  obtain ⟨node, known, rfl⟩ := indexed.mem_bucket.mp inLeft
  obtain ⟨other, otherKnown, rfl⟩ := indexed.mem_bucket.mp inRight
  rw [known] at otherKnown
  cases otherKnown
  rfl

/-- A node stands in the bucket of its cell once. -/
theorem Indexed.count_bucket (indexed : graph.Indexed index) {id : Nat} {node : Node}
    (known : graph.nodes[id]? = some node) (cell : index.terrain.Cell) :
    (index.bucket cell).count id =
      if index.terrain.cellOf node.position = cell then 1 else 0 := by
  rw [← Array.count_toList]
  split
  · rename_i here
    apply List.count_eq_one_of_mem (indexed.nodup_bucket cell)
    exact Array.mem_toList_iff.mpr (indexed.mem_bucket.mpr ⟨node, known, here⟩)
  · rename_i elsewhere
    apply List.count_eq_zero_of_not_mem
    intro member
    obtain ⟨other, otherKnown, here⟩ := indexed.mem_bucket.mp (Array.mem_toList_iff.mp member)
    rw [known] at otherKnown
    cases otherKnown
    exact elsewhere here

theorem Indexed.nodup_around (indexed : graph.Indexed index) (position : Point) :
    (index.around position).Nodup := by
  apply CellIndex.nodup_flatMap_of_unique (index.nodup_block position)
  · exact indexed.nodup_bucket
  · intro left right id inLeft inRight
    exact indexed.cell_unique (Array.mem_toList_iff.mp inLeft) (Array.mem_toList_iff.mp inRight)

/-- The buckets of a reachable graph stand in row-by-row order, each place for one cell, and none
wraps if there are fewer cells than words. Each node stands once in the bucket of the cell its
position falls into and in no other, and each bucket is in strictly ascending order. Around any
point the cells of the map that are adjacent to that of the point are looked at, each once, and the
nodes listed are exactly those of these cells, each once. -/
theorem around_exact (reachable : graph.Reachable) (known : graph.index = some index)
    (few : index.terrain.cellCount < 2 ^ 32) :
    (∀ cell : index.terrain.Cell,
      index.buckets[(Terrain.placeWord cell).toNat]? = some (index.bucket cell)) ∧
    (∀ place < index.terrain.cellCount,
      ∃! cell : index.terrain.Cell, (Terrain.placeWord cell).toNat = place) ∧
    (∀ id node, graph.nodes[id]? = some node → ∀ cell : index.terrain.Cell,
      (index.bucket cell).count id =
        if index.terrain.cellOf node.position = cell then 1 else 0) ∧
    (∀ cell : index.terrain.Cell, (index.bucket cell).toList.Pairwise (· < ·) ∧
      ∀ id ∈ index.bucket cell, id < graph.nodes.size) ∧
    ∀ position,
      ((index.block position).Nodup ∧ ∀ cell, cell ∈ index.block position ↔
        Terrain.Adjacent cell (index.terrain.cellOf position)) ∧
      (∀ cell ∈ index.block position,
        index.inCell cell.1 cell.2 = .ok (index.bucket cell)) ∧
      (index.around position).Nodup ∧
      ∀ id, id ∈ index.around position ↔ ∃ node, graph.nodes[id]? = some node ∧
        Terrain.Adjacent (index.terrain.cellOf node.position) (index.terrain.cellOf position) := by
  have indexed := reachable.holds_nodes index known
  refine ⟨?placed, ?places, fun id node => indexed.count_bucket, ?ordered, fun position =>
    ⟨⟨index.nodup_block position, fun cell => CellIndex.mem_block⟩,
      fun cell _ => index.inCell_of_cell cell, indexed.nodup_around position,
      fun id => indexed.mem_around⟩⟩
  case placed =>
    intro cell
    rw [Terrain.toNat_placeWord few, Vector.getElem?_eq_getElem (Terrain.cellIndex cell).isLt]
    rfl
  case places =>
    intro place inside
    obtain ⟨cell, placed⟩ := Terrain.exists_cellIndex_eq ⟨place, inside⟩
    refine ⟨cell, (Terrain.toNat_placeWord few cell).trans (Fin.val_eq_of_eq placed),
      fun other same => ?_⟩
    apply Terrain.cellIndex_injective
    rw [placed]
    exact Fin.ext ((Terrain.toNat_placeWord few other).symm.trans same)
  case ordered =>
    intro cell
    refine ⟨indexed.ascending cell, fun id member => ?_⟩
    obtain ⟨node, nodeKnown, -⟩ := indexed.mem_bucket.mp member
    exact lt_size_of_known nodeKnown

/-- One row of three cells with a node in each, added in another order: around the lower corner the
first two cells are looked at, and around the middle all three. -/
theorem around_exact_on_one_row :
    ∃ (graph : Graph) (index : CellIndex), graph.Reachable ∧ graph.index = some index ∧
      index.terrain.cellCount = 3 ∧
      graph.nodes.map Node.position = #[⟨-0.75, 0.0⟩, ⟨0.75, 0.0⟩, ⟨0.0, 0.0⟩] ∧
      (index.bucket (index.terrain.cellOf ⟨1.0, 1.0⟩)).count 1 = 1 ∧
      (index.bucket (index.terrain.cellOf ⟨1.0, 1.0⟩)).count 2 = 0 ∧
      2 ∈ index.around ⟨-1.0, -1.0⟩ ∧ 1 ∉ index.around ⟨-1.0, -1.0⟩ ∧
      index.around ⟨0.0, 0.0⟩ = [0, 2, 1] ∧ (index.around ⟨0.0, 0.0⟩).Nodup := by
  let terrain : Terrain := .level ⟨3, 1⟩ .zero (by decide)
  let graph := ((ofRoot {} usualSnapDistance terrain ⟨-0.75, 0.0⟩).addNode ⟨0.75, 0.0⟩).addNode
    ⟨0.0, 0.0⟩
  let index := (((CellIndex.empty terrain).insert 0 ⟨-0.75, 0.0⟩).insert 1 ⟨0.75, 0.0⟩).insert 2
    ⟨0.0, 0.0⟩
  have reachable : graph.Reachable :=
    ((reachable_ofRoot {} usualSnapDistance terrain ⟨-0.75, 0.0⟩).added _).added _
  have second : graph.nodes[1]? = some ⟨1, ⟨0.75, 0.0⟩, #[], #[]⟩ := rfl
  have third : graph.nodes[2]? = some ⟨2, ⟨0.0, 0.0⟩, #[], #[]⟩ := rfl
  have indexed : graph.index = some index := rfl
  obtain ⟨-, -, placed, -, looked⟩ := around_exact reachable indexed (by decide)
  obtain ⟨-, -, -, corner⟩ := looked ⟨-1.0, -1.0⟩
  obtain ⟨-, -, once, -⟩ := looked ⟨0.0, 0.0⟩
  refine ⟨graph, index, reachable, indexed, by decide, by decide +kernel, ?_, ?_, ?_, ?_,
    by decide +kernel, once⟩
  · rw [placed 1 _ second, if_pos (by decide +kernel)]
  · rw [placed 2 _ third, if_neg (by decide +kernel)]
  · exact (corner 2).mpr ⟨_, third, ⟨by decide +kernel, by decide +kernel⟩⟩
  · intro member
    obtain ⟨node, known, ⟨near, -⟩, -⟩ := (corner 1).mp member
    rw [second] at known
    cases known
    exact absurd near (by decide +kernel)

end Graph

end RoadGrowth
