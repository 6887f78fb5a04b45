import RoadGrowth.Noise.Fractal
import RoadGrowth.Terrain.Settings

/-!
# Elevation

An elevation source gives the height at a lattice point, or the fault that keeps
it from doing so. The standard source is fractal noise brought to the range from
0 to 1.
-/

namespace RoadGrowth

open Numeric Noise

/-- Heights at lattice points. -/
abbrev ElevationSource := Point → Except Fault Float32

/-- A value kept between 0 and 1; NaN stays NaN. -/
def clampToUnit (value : Float32) : Float32 :=
  if value < 0.0 then 0.0 else if 1.0 < value then 1.0 else value

/-- The noise of terrain settings. -/
def TerrainSettings.noise (settings : TerrainSettings) : Fractal :=
  Fractal.ofSeed settings.elevationSeed settings.octaves
    (widen settings.persistence) (widen settings.lacunarity)

/-- Heights taken from fractal noise. -/
def noiseElevation (noise : Fractal) : ElevationSource := fun point => do
  let height ← noise.value (widen point.x) (widen point.y)
  return clampToUnit (narrow ((height + 1.0) * 0.5))

end RoadGrowth
