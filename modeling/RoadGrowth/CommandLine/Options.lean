import RoadGrowth.Network.SettingsText
import RoadGrowth.Numeric.Literal

/-!
# Options

An option is a flag and the argument after it, whatever that is. Only the first
occurrence of a flag counts. A value that cannot be read is the same as no value.
-/

namespace RoadGrowth.CommandLine

open Numeric

/-- The argument after the first occurrence of a flag. -/
def value? (arguments : List String) (flag : String) : Option String :=
  (arguments.dropWhile (· ≠ flag))[1]?

/-- The value of a flag as a word of 32 bits. -/
def word32? (arguments : List String) (flag : String) : Option UInt32 :=
  (value? arguments flag).bind fun text => (count? UInt32.size text.toList).map UInt32.ofNat

/-- The value of a flag as a word of 64 bits. -/
def word64? (arguments : List String) (flag : String) : Option UInt64 :=
  (value? arguments flag).bind fun text => (count? UInt64.size text.toList).map UInt64.ofNat

/-- The value of a flag as a single. -/
def singleValue? (arguments : List String) (flag : String) : Option Float32 :=
  (value? arguments flag).bind fun text => single? text.toList

/-- Network settings with the options in place of what they say. -/
def networkSettings (arguments : List String) (settings : NetworkSettings) : NetworkSettings :=
  { settings with
    roadSeed := (word64? arguments "--seed").getD settings.roadSeed
    highway := { settings.highway with
      rounds := (word32? arguments "--iterations").getD settings.highway.rounds }
    neighborhoods := (word32? arguments "--neighborhoods").getD settings.neighborhoods }

/-- The terrain settings of the options. There is one cell at least. -/
def terrainSettings (arguments : List String) : TerrainSettings :=
  let usual : TerrainSettings := {}
  let divisions := max 1 ((word32? arguments "--divisions").getD usual.divisions.columns)
  { usual with
    divisions := ⟨divisions, divisions⟩
    aspectRatio := (singleValue? arguments "--aspect").getD usual.aspectRatio
    waterLine := (singleValue? arguments "--water-line").getD usual.waterLine
    elevationSeed := (word32? arguments "--elevation-seed").getD usual.elevationSeed
    populationSeed := (word64? arguments "--population-seed").getD usual.populationSeed }

end RoadGrowth.CommandLine
