import RoadGrowth.Noise.Lattice

/-!
# Fractal noise

Layers of value noise are added, each finer than the one before by the lacunarity
and weaker by the persistence. The sum is scaled by the inverse of the total weight.
-/

namespace RoadGrowth.Noise

/-- Layers of value noise with the rule that weighs them. -/
structure Fractal where
  layers : List Lattice
  persistence : Float
  lacunarity : Float

namespace Fractal

/-- A power by repeated squaring, from the lowest bit of the exponent; `bits` bounds
the number of bits looked at. -/
def powerFrom (result base : Float) : (bits : Nat) → (exponent : Nat) → Float
  | 0, _ => result
  | bits + 1, exponent =>
    let result := if exponent % 2 = 1 then result * base else result
    if exponent / 2 = 0 then result else powerFrom result (base * base) bits (exponent / 2)

/-- A power by repeated squaring. -/
def power (base : Float) (exponent : Nat) : Float :=
  powerFrom 1.0 base (exponent.log2 + 1) exponent

/-- The noise of a seed; it has at least one layer and at most 32. -/
def ofSeed (seed octaves : UInt32) (persistence lacunarity : Float) : Fractal :=
  let count := min 32 (max 1 octaves.toNat)
  ⟨(List.range count).map fun layer => Lattice.ofSeed (seed + UInt32.ofNat layer),
    persistence, lacunarity⟩

/-- The inverse of the sum of all layer weights. -/
def scale (fractal : Fractal) : Float :=
  1.0 / (List.range fractal.layers.length).foldl
    (fun total layer => total + power fractal.persistence (layer + 1)) 0.0

/-- A sum in progress: the total so far, the next layer's weight and its coordinates. -/
structure RunningSum where
  total : Float
  weight : Float
  x : Float
  y : Float

/-- Add a layer. -/
def RunningSum.add (sum : RunningSum) (fractal : Fractal) (layer : Lattice) : Except Fault RunningSum := do
  let height ← layer.value sum.x sum.y
  return ⟨sum.total + height * sum.weight, sum.weight * fractal.persistence,
    sum.x * fractal.lacunarity, sum.y * fractal.lacunarity⟩

/-- The noise at a position. -/
def value (fractal : Fractal) (x y : Float) : Except Fault Float := do
  let sum ← fractal.layers.foldlM (fun sum layer => sum.add fractal layer)
    (⟨0.0, fractal.persistence, x, y⟩ : RunningSum)
  return sum.total * fractal.scale

end Fractal

end RoadGrowth.Noise
