import RoadGrowth.Json.Record
import RoadGrowth.Terrain.Settings

/-!
# Terrain settings as JSON

A field that is absent has its default. Fields are written in declared order.
-/

namespace RoadGrowth

open Json

/-- A point as an array of its coordinates. -/
def Point.ofJson? (value : Value) : Option Point :=
  (value.pair? Value.single?).map fun (x, y) => ⟨x, y⟩

/-- The array of the coordinates. -/
def Point.toJson (point : Point) : Value :=
  .array [Value.ofSingle point.x, Value.ofSingle point.y]

/-- An extent as an array of its two counts. -/
def Extent.ofJson? (value : Value) : Option Extent :=
  (value.pair? Value.word32?).map fun (columns, rows) => ⟨columns, rows⟩

/-- The array of the two counts. -/
def Extent.toJson (extent : Extent) : Value :=
  .array [Value.ofCount extent.columns.toNat, Value.ofCount extent.rows.toNat]

namespace TerrainSettings

/-- The keys of terrain settings. -/
def keys : List String :=
  ["divisions", "aspect_ratio", "water_line", "elevation_seed", "population_seed",
    "elevation_scale", "octaves", "persistence", "lacunarity", "population_cells",
    "population_range"]

/-- The settings that a value describes. -/
def ofJson? (value : Value) : Option TerrainSettings := do
  let fields ← value.fields? keys
  let absent : TerrainSettings := {}
  return {
    divisions := ← fields.optional "divisions" Extent.ofJson? absent.divisions
    aspectRatio := ← fields.optional "aspect_ratio" Value.single? absent.aspectRatio
    waterLine := ← fields.optional "water_line" Value.single? absent.waterLine
    elevationSeed := ← fields.optional "elevation_seed" Value.word32? absent.elevationSeed
    populationSeed := ← fields.optional "population_seed" Value.word64? absent.populationSeed
    elevationScale := ← fields.optional "elevation_scale" Value.single? absent.elevationScale
    octaves := ← fields.optional "octaves" Value.word32? absent.octaves
    persistence := ← fields.optional "persistence" Value.single? absent.persistence
    lacunarity := ← fields.optional "lacunarity" Value.single? absent.lacunarity
    populationCells := ← fields.optional "population_cells" Extent.ofJson? absent.populationCells
    populationRange := ← fields.optional "population_range" Value.single? absent.populationRange }

/-- The settings as an object. -/
def toJson (settings : TerrainSettings) : Value :=
  .object [
    Value.member "divisions" settings.divisions.toJson,
    Value.member "aspect_ratio" (.ofSingle settings.aspectRatio),
    Value.member "water_line" (.ofSingle settings.waterLine),
    Value.member "elevation_seed" (.ofCount settings.elevationSeed.toNat),
    Value.member "population_seed" (.ofCount settings.populationSeed.toNat),
    Value.member "elevation_scale" (.ofSingle settings.elevationScale),
    Value.member "octaves" (.ofCount settings.octaves.toNat),
    Value.member "persistence" (.ofSingle settings.persistence),
    Value.member "lacunarity" (.ofSingle settings.lacunarity),
    Value.member "population_cells" settings.populationCells.toJson,
    Value.member "population_range" (.ofSingle settings.populationRange)]

/-- The settings that a text describes. -/
def ofText? (text : List Char) : Option TerrainSettings := (Value.read? text).bind ofJson?

end TerrainSettings

end RoadGrowth
