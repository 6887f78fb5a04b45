import RoadGrowth.Plane.Rectangle
import RoadGrowth.Terrain.Basic

/-!
# Terrain queries

A query at a point of the plane is answered by the cell the point falls into; a
point beside the map, or NaN, is answered by a cell at the edge. Land is decided
for whole cells.
-/

namespace RoadGrowth

open Numeric

namespace Terrain

/-- A cell of a terrain. -/
abbrev Cell (terrain : Terrain) := Fin terrain.columns × Fin terrain.rows

/-- The rectangle that every terrain covers. -/
def mapBounds : Rectangle := ⟨⟨-1.0, -1.0⟩, ⟨1.0, 1.0⟩⟩

/-- Width and height of a cell. -/
def cellSize (terrain : Terrain) : Point :=
  ⟨2.0 / terrain.settings.divisions.columns.toFloat32,
    2.0 / terrain.settings.divisions.rows.toFloat32⟩

/-- The sample of a vertex that is known to exist. -/
def sample (terrain : Terrain) (column row : Nat) (inColumns : column ≤ terrain.columns)
    (inRows : row ≤ terrain.rows) : VertexSample :=
  terrain.samples.get ⟨terrain.settings.divisions.vertexIndex column row,
    terrain.settings.divisions.vertexIndex_lt inColumns inRows⟩

/-- The sample of the vertex that a cell starts from. -/
def cellSample (terrain : Terrain) (cell : terrain.Cell) : VertexSample :=
  terrain.sample cell.1 cell.2 (Nat.le_of_lt cell.1.isLt) (Nat.le_of_lt cell.2.isLt)

/-- The sample of a vertex. -/
def vertex (terrain : Terrain) (column row : Nat) : Except Fault VertexSample :=
  if inside : column ≤ terrain.columns ∧ row ≤ terrain.rows then
    .ok (terrain.sample column row inside.1 inside.2)
  else
    .error (.vertexOutside column row terrain.columns terrain.rows)

/-- The sample of a cell. -/
def cell (terrain : Terrain) (column row : Nat) : Except Fault VertexSample :=
  if inside : column < terrain.columns ∧ row < terrain.rows then
    .ok (terrain.cellSample (⟨column, inside.1⟩, ⟨row, inside.2⟩))
  else
    .error (.cellOutside column row terrain.columns terrain.rows)

/-- A point measured in cells from the first vertex. -/
def gridPoint (terrain : Terrain) (position : Point) : Point :=
  ⟨(position.x + 1.0) * 0.5 * terrain.settings.divisions.columns.toFloat32,
    (position.y + 1.0) * 0.5 * terrain.settings.divisions.rows.toFloat32⟩

/-- The cell number of a measured coordinate; what is before the first cell or NaN
goes to the first one and what is behind the last cell to the last one. -/
def cellNumber (count : Nat) (positive : 0 < count) (coordinate : Float32) : Fin count :=
  ⟨min coordinate.toUInt32.toNat (count - 1),
    Nat.lt_of_le_of_lt (Nat.min_le_right _ _) (Nat.sub_lt positive Nat.one_pos)⟩

/-- The cell that answers for a point. -/
def cellOf (terrain : Terrain) (position : Point) : terrain.Cell :=
  let measured := terrain.gridPoint position
  (cellNumber terrain.columns terrain.columns_pos measured.x,
    cellNumber terrain.rows terrain.rows_pos measured.y)

/-- The elevation at a point, blended from the corners of its cell. -/
def elevation (terrain : Terrain) (position : Point) : Float32 :=
  let cell := terrain.cellOf position
  let start : Point :=
    ⟨(UInt32.ofNat cell.1).toFloat32, (UInt32.ofNat cell.2).toFloat32⟩
  let offset := (terrain.gridPoint position - start).clamp ⟨0.0, 0.0⟩ ⟨1.0, 1.0⟩
  let near := (terrain.cellSample cell).elevation
  let right := (terrain.sample (cell.1 + 1) cell.2 cell.1.isLt (Nat.le_of_lt cell.2.isLt)).elevation
  let above := (terrain.sample cell.1 (cell.2 + 1) (Nat.le_of_lt cell.1.isLt) cell.2.isLt).elevation
  let opposite := (terrain.sample (cell.1 + 1) (cell.2 + 1) cell.1.isLt cell.2.isLt).elevation
  let lower := near + (right - near) * offset.x
  let upper := above + (opposite - above) * offset.x
  lower + (upper - lower) * offset.y

/-- The population density at a point. -/
def density (terrain : Terrain) (position : Point) : Float32 :=
  terrain.population.density position

/-- Whether a cell is land: its lowest corner is above the water line. -/
def cellIsLand (terrain : Terrain) (cell : terrain.Cell) : Bool :=
  terrain.settings.waterLine < (terrain.cellSample cell).lowest

/-- Whether a point is on land. -/
def isLand (terrain : Terrain) (position : Point) : Bool :=
  terrain.cellIsLand (terrain.cellOf position)

/-- All cells, row by row. -/
def cells (terrain : Terrain) : List terrain.Cell :=
  (List.finRange terrain.rows).flatMap fun row =>
    (List.finRange terrain.columns).map fun column => (column, row)

/-- The share of cells that are land. -/
def landFraction (terrain : Terrain) : Float32 :=
  singleOfCount (terrain.cells.countP terrain.cellIsLand) /
    singleOfCount (terrain.columns * terrain.rows)

end Terrain

end RoadGrowth
