import RoadGrowth.Plane.Point

/-!
# Terrain settings

The map covers the square from -1 to 1 on both axes. Its divisions cut it into
cells; a vertex is a corner of a cell. Elevation is sampled at lattice points,
which stretch the first axis by the aspect ratio.
-/

namespace RoadGrowth

/-- Counts along the two axes. -/
structure Extent where
  columns : UInt32
  rows : UInt32
  deriving DecidableEq

/-- Everything that determines a terrain. -/
structure TerrainSettings where
  divisions : Extent := ⟨100, 100⟩
  /-- Width of the map over its height. -/
  aspectRatio : Float32 := 1.0
  /-- A cell with a corner at or below this elevation is water. -/
  waterLine : Float32 := Float32.ofBits 0x3ee66666
  elevationSeed : UInt32 := 10
  populationSeed : UInt64 := 2345
  /-- Lattice span of the map. -/
  elevationScale : Float32 := 3.0
  octaves : UInt32 := 6
  persistence : Float32 := 0.5
  lacunarity : Float32 := 2.0
  /-- The population lattice; each of its cells has one center. -/
  populationCells : Extent := ⟨5, 4⟩
  /-- Distance from a center, on the population lattice, at which density ends. -/
  populationRange : Float32 := Float32.ofBits 0x3fb504f3
  deriving DecidableEq

/-- The point of the map at a vertex. -/
def vertexPosition (divisions : Extent) (column row : UInt32) : Point :=
  ⟨-1.0 + 2.0 * column.toFloat32 / divisions.columns.toFloat32,
    -1.0 + 2.0 * row.toFloat32 / divisions.rows.toFloat32⟩

/-- The point of the elevation lattice at a vertex. -/
def TerrainSettings.latticePoint (settings : TerrainSettings) (column row : UInt32) : Point :=
  ⟨settings.aspectRatio * settings.elevationScale * column.toFloat32 /
      settings.divisions.columns.toFloat32,
    settings.elevationScale * row.toFloat32 / settings.divisions.rows.toFloat32⟩

end RoadGrowth
