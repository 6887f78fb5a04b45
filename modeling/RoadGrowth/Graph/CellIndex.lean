import RoadGrowth.Terrain.Query

/-!
# Nodes by cell

An index keeps for every terrain cell the nodes whose position falls into it, in
the order in which they were added. The block of cells around a point is the cell
of the point and those that differ from it by one at most on each axis.
-/

namespace RoadGrowth

namespace Terrain

/-- Number of cells. -/
abbrev cellCount (terrain : Terrain) : Nat := terrain.columns * terrain.rows

/-- The place of a cell in row-by-row order. -/
def cellIndex {terrain : Terrain} (cell : terrain.Cell) : Fin terrain.cellCount :=
  ⟨cell.2.val * terrain.columns + cell.1.val, rowMajor_lt cell.1.isLt cell.2.isLt⟩

end Terrain

/-- A number and its neighbors among those below a bound, in ascending order. -/
def neighbors {bound : Nat} (center : Fin bound) : List (Fin bound) :=
  (if 0 < center.val then
    [⟨center.val - 1, Nat.lt_of_le_of_lt (Nat.sub_le _ _) center.isLt⟩] else []) ++
  center ::
  (if after : center.val + 1 < bound then [⟨center.val + 1, after⟩] else [])

/-- The nodes of each cell of a terrain. -/
structure CellIndex where
  terrain : Terrain
  buckets : Vector (Array Nat) terrain.cellCount

namespace CellIndex

/-- The index without nodes. -/
def empty (terrain : Terrain) : CellIndex := ⟨terrain, Vector.replicate _ #[]⟩

/-- The nodes of a cell. -/
def bucket (index : CellIndex) (cell : index.terrain.Cell) : Array Nat :=
  index.buckets.get (Terrain.cellIndex cell)

/-- Add a node at a position. -/
def insert (index : CellIndex) (node : Nat) (position : Point) : CellIndex :=
  let place := Terrain.cellIndex (index.terrain.cellOf position)
  { index with buckets :=
      index.buckets.set place.val ((index.buckets.get place).push node) place.isLt }

/-- The nodes of a cell given by its column and row. -/
def inCell (index : CellIndex) (column row : Nat) : Except Fault (Array Nat) :=
  if inside : column < index.terrain.columns ∧ row < index.terrain.rows then
    .ok (index.bucket (⟨column, inside.1⟩, ⟨row, inside.2⟩))
  else
    .error (.roadCellOutside column row index.terrain.columns index.terrain.rows)

/-- The block of cells around a point, row by row. -/
def block (index : CellIndex) (position : Point) : List index.terrain.Cell :=
  let center := index.terrain.cellOf position
  (neighbors center.2).flatMap fun row =>
    (neighbors center.1).map fun column => (column, row)

/-- The nodes in the block of cells around a point. -/
def around (index : CellIndex) (position : Point) : List Nat :=
  (index.block position).flatMap fun cell => (index.bucket cell).toList

/-- Whether cells are at least as wide and as high as a radius. -/
def coversRadius (index : CellIndex) (radius : Float32) : Bool :=
  radius ≤ index.terrain.cellSize.x && radius ≤ index.terrain.cellSize.y

/-- Number of cells that hold a node. -/
def occupied (index : CellIndex) : Nat :=
  index.buckets.toList.countP fun bucket => !bucket.isEmpty

end CellIndex

end RoadGrowth
