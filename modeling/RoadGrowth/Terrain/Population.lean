import RoadGrowth.Random.Range
import RoadGrowth.Terrain.Settings

/-!
# Population

Density is one at a center, falls with the cube of the distance to the nearest
center and is zero from the range on. Distances are taken on the population
lattice, which is laid over the whole map.
-/

namespace RoadGrowth

open Numeric RoadGrowth.Random

/-- Centres on a population lattice and the reach of their density. -/
structure Population where
  centers : List Point
  cells : Extent
  range : Float32
  deriving DecidableEq

namespace Population

/-- A center for each lattice cell of a list, displaced inside its cell at random. -/
def scatter : Keystream → List (UInt32 × UInt32) → List Point
  | _, [] => []
  | stream, (column, row) :: cells =>
    let (across, stream) := nextUnit stream
    let (along, stream) := nextUnit stream
    (⟨column.toFloat32, row.toFloat32⟩ + ⟨across, along⟩) :: scatter stream cells

/-- The cells of a lattice, column by column. -/
def latticeCells (cells : Extent) : List (UInt32 × UInt32) :=
  (List.range cells.columns.toNat).flatMap fun column =>
    (List.range cells.rows.toNat).map fun row => (UInt32.ofNat column, UInt32.ofNat row)

/-- One center in each lattice cell, from the population seed. -/
def seeded (settings : TerrainSettings) : Population :=
  ⟨scatter (Keystream.ofSeed settings.populationSeed) (latticeCells settings.populationCells),
    settings.populationCells, settings.populationRange⟩

/-- The point of the population lattice at a point of the map. -/
def latticePoint (population : Population) (position : Point) : Point :=
  ⟨(1.0 + position.x) * 0.5 * population.cells.columns.toFloat32,
    (1.0 + position.y) * 0.5 * population.cells.rows.toFloat32⟩

/-- The distance to the nearest center, infinite without one. -/
def nearest (population : Population) (position : Point) : Float32 :=
  let place := population.latticePoint position
  population.centers.foldl (fun best center => least best (center.distance place)) (1.0 / 0.0)

/-- The density at a point of the map. -/
def density (population : Population) (position : Point) : Float32 :=
  let distance := population.nearest position
  if population.range ≤ distance then
    0.0
  else
    let closeness := 1.0 - distance / population.range
    closeness * (closeness * closeness)

end Population

end RoadGrowth
