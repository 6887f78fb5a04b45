import RoadGrowth.Terrain.Elevation
import RoadGrowth.Terrain.Population

/-!
# Terrain

A terrain holds one sample for every vertex, row by row. A sample carries the
height and density of its vertex and, for the cell that has the vertex as its
first corner, the lowest and the mean height of the four corners. A vertex of
the last column or row has no such cell and repeats its own height there.
-/

namespace RoadGrowth

open Numeric

/-- What is known at one vertex. -/
structure VertexSample where
  elevation : Float32
  density : Float32
  /-- Lowest height of the cell's corners. -/
  lowest : Float32
  /-- Mean height of the cell's corners. -/
  mean : Float32
  deriving DecidableEq

/-- The sample without any height or density. -/
def VertexSample.zero : VertexSample := ⟨0.0, 0.0, 0.0, 0.0⟩

/-- Row-by-row places stay below the number of places. -/
theorem rowMajor_lt {columns rows column row : Nat} (inColumns : column < columns)
    (inRows : row < rows) : row * columns + column < columns * rows := by
  have rowBound : (row + 1) * columns ≤ rows * columns := Nat.mul_le_mul_right _ inRows
  rw [Nat.succ_mul] at rowBound
  rw [Nat.mul_comm columns]
  omega

/-- Number of vertices of a division. -/
abbrev Extent.vertexCount (divisions : Extent) : Nat :=
  (divisions.columns.toNat + 1) * (divisions.rows.toNat + 1)

/-- The place of a vertex in row-by-row order. -/
abbrev Extent.vertexIndex (divisions : Extent) (column row : Nat) : Nat :=
  row * (divisions.columns.toNat + 1) + column

theorem Extent.vertexIndex_lt (divisions : Extent) {column row : Nat}
    (inColumns : column ≤ divisions.columns.toNat) (inRows : row ≤ divisions.rows.toNat) :
    divisions.vertexIndex column row < divisions.vertexCount :=
  rowMajor_lt (Nat.lt_succ_of_le inColumns) (Nat.lt_succ_of_le inRows)

/-- A sampled map with at least one cell. -/
structure Terrain where
  settings : TerrainSettings
  population : Population
  columns_pos : 0 < settings.divisions.columns.toNat
  rows_pos : 0 < settings.divisions.rows.toNat
  samples : Vector VertexSample settings.divisions.vertexCount

namespace Terrain

/-- The lowest of four heights, taken in order. -/
def lowestOf (first second third fourth : Float32) : Float32 :=
  [first, second, third, fourth].foldl least (1.0 / 0.0)

/-- The mean of four heights, added in order. -/
def meanOf (first second third fourth : Float32) : Float32 :=
  (first + second + third + fourth) / 4.0

/-- The heights of all vertices. -/
def heights (settings : TerrainSettings) (source : ElevationSource) :
    Except Fault (Vector Float32 settings.divisions.vertexCount) :=
  Vector.ofFnM fun index =>
    source (settings.latticePoint
      (UInt32.ofNat (index.val % (settings.divisions.columns.toNat + 1)))
      (UInt32.ofNat (index.val / (settings.divisions.columns.toNat + 1))))

/-- The sample of a vertex, from all heights. -/
def sampleAt (divisions : Extent) (population : Population)
    (heights : Vector Float32 divisions.vertexCount) (index : Fin divisions.vertexCount) :
    VertexSample :=
  let column := index.val % (divisions.columns.toNat + 1)
  let row := index.val / (divisions.columns.toNat + 1)
  let own := heights.get index
  let density := population.density
    (vertexPosition divisions (UInt32.ofNat column) (UInt32.ofNat row))
  if inside : column < divisions.columns.toNat ∧ row < divisions.rows.toNat then
    let right := heights.get ⟨divisions.vertexIndex (column + 1) row,
      divisions.vertexIndex_lt inside.1 (Nat.le_of_lt inside.2)⟩
    let above := heights.get ⟨divisions.vertexIndex column (row + 1),
      divisions.vertexIndex_lt (Nat.le_of_lt inside.1) inside.2⟩
    let opposite := heights.get ⟨divisions.vertexIndex (column + 1) (row + 1),
      divisions.vertexIndex_lt inside.1 inside.2⟩
    ⟨own, density, lowestOf own right above opposite, meanOf own right above opposite⟩
  else
    ⟨own, density, own, own⟩

/-- Sample a map. A map without cells is refused. -/
def build (settings : TerrainSettings) (source : ElevationSource) (population : Population) :
    Except Fault Terrain :=
  if positive : 0 < settings.divisions.columns.toNat ∧ 0 < settings.divisions.rows.toNat then do
    let heights ← heights settings source
    return ⟨settings, population, positive.1, positive.2,
      Vector.ofFn (sampleAt settings.divisions population heights)⟩
  else
    .error (.emptyTerrain settings.divisions.columns.toNat settings.divisions.rows.toNat)

/-- The map that the settings alone determine. -/
def standard (settings : TerrainSettings) : Except Fault Terrain :=
  build settings (noiseElevation settings.noise) (Population.seeded settings)

/-- Columns of cells. -/
abbrev columns (terrain : Terrain) : Nat := terrain.settings.divisions.columns.toNat

/-- Rows of cells. -/
abbrev rows (terrain : Terrain) : Nat := terrain.settings.divisions.rows.toNat

end Terrain

end RoadGrowth
