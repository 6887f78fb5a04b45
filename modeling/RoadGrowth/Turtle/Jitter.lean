import RoadGrowth.Random.Range

/-!
# Jitter

The jitter of a heading depends only on a seed and on the site it is applied at,
so growing a map again gives the same headings.
-/

namespace RoadGrowth

open RoadGrowth.Random

/-- The seed of the keystream for one site. -/
def siteSeed (seed site : UInt64) : UInt64 := seed * 0x9e3779b97f4a7c15 ^^^ site

/-- The jitter at a site, by at most `limit` to either side. -/
def jitterAt (seed site : UInt64) (limit : Float32) : Except Fault Float32 :=
  if limit.abs == 0.0 then
    .ok 0.0
  else
    symmetric limit.abs (Keystream.ofSeed (siteSeed seed site)).next.1

end RoadGrowth
