import RoadGrowth.Numeric.Arctangent
import RoadGrowth.Numeric.Sine
import RoadGrowth.Plane.Point

/-!
# Headings

A heading is an angle in radians, counter-clockwise from the positive first axis.
-/

namespace RoadGrowth

open Numeric

/-- The unit vector of a heading. -/
def headingVector (heading : Float32) : Point := ⟨cosine heading, sine heading⟩

/-- The heading that leads from one point to another. -/
def bearing (start finish : Point) : Float32 :=
  let displacement := finish - start
  angleOf displacement.y displacement.x

/-- An angle given in degrees. -/
def radians (degrees : Float32) : Float32 := degrees * Float32.ofBits 0x3c8efa35

end RoadGrowth
