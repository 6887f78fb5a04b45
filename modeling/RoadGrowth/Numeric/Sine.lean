import RoadGrowth.Numeric.Rounding

/-!
# Sine and cosine of a single

The angle is brought within an eighth of a turn of a multiple of the right
angle, a polynomial in double precision gives the value there, and one rounding
returns to single precision. Below `120` radians the multiple is found from one
product; above it, from the bits of `4/π` that can still reach the result.
-/

namespace RoadGrowth.Numeric

/-- What is left of an angle after a number of right angles has been taken away. -/
structure Reduced where
  residue : Float
  /-- Right angles taken away, counted modulo a full turn. -/
  quarter : Fin 4

namespace Reduced

/-- `π/2` as a double. -/
def rightAngle : Float := Float.ofBits 0x3ff921fb54442d18

/-- `2/π`, scaled so that the count of right angles starts at bit 24. -/
def inverseRightAngle : Float := Float.ofBits 0x41645f306dc9c883

/-- One unit of the fixed-point residue in radians: `π/2` over `2 ^ 62`. -/
def fixedUnit : Float := Float.ofBits 0x3c1921fb54442d18

/-- Windows of 32 bits into `4/π`, each starting eight bits after the one before. -/
def inverseWindows : List UInt32 :=
  [0xa2, 0xa2f9, 0xa2f983, 0xa2f9836e, 0xf9836e4e, 0x836e4e44,
   0x6e4e4415, 0x4e441529, 0x441529fc, 0x1529fc27, 0x29fc2757, 0xfc2757d1,
   0x2757d1f5, 0x57d1f534, 0xd1f534dd, 0xf534ddc0, 0x34ddc0db, 0xddc0db62,
   0xc0db6295, 0xdb629599, 0x6295993c, 0x95993c43, 0x993c4390, 0x3c439041]

/-- A window of `4/π` as an unbounded number. -/
def window (index : Nat) : Nat :=
  (inverseWindows.getD index 0).toNat

/-- The class of a count of right angles modulo a full turn. -/
def quarterOf (count : Int) : Fin 4 :=
  Fin.ofNat 4 (count % 4).toNat

/-- `value - count * rightAngle`, rounded once. -/
def subtractRightAngles (value : Float) (count : Int) : Float :=
  match Binary.ofDouble? value, Binary.ofDouble? rightAngle with
  | some angle, some unit => (angle.sub (unit.scale count)).toDouble
  | _, _ => value

/-- Reduction of an angle below `120` radians. -/
def ofModerate (angle : Float32) : Reduced :=
  let value := widen angle
  let scaled := (integerPart? (value * inverseRightAngle)).getD 0
  let count := (scaled + 0x800000) / 0x1000000
  ⟨subtractRightAngles value count, quarterOf count⟩

/-- Reduction of the absolute value of a finite angle from its bits: the
significand times three windows of `4/π`, kept modulo a full turn in 64 bits. -/
def ofLargeMagnitude (bits : Nat) : Reduced :=
  let index := bits / 0x4000000 % 16
  let significand := (bits % 0x1000000 ||| 0x800000) <<< (bits / 0x800000 % 8) % UInt32.size
  let high := significand * window index % UInt32.size
  let middle := significand * window (index + 4)
  let low := significand * window (index + 8)
  let turns : Nat := (low / UInt32.size + high * UInt32.size + middle) % UInt64.size
  let count : Nat := (turns + 0x2000000000000000) % UInt64.size / 0x4000000000000000
  let rest := Int.bmod ((turns : Int) - count * 0x4000000000000000) UInt64.size
  ⟨doubleOfInt rest * fixedUnit, quarterOf count⟩

/-- The reduction of the opposite angle. -/
def opposite (reduced : Reduced) : Reduced :=
  ⟨-reduced.residue, quarterOf (-(reduced.quarter.val : Int))⟩

/-- Reduction of a finite angle; below an eighth of a turn nothing is taken away. -/
def ofAngle (angle : Float32) : Reduced :=
  let bits := angle.toBits.toNat
  let magnitude := bits % 0x80000000
  if magnitude / 0x100000 < 0x3f4 then
    ⟨widen angle, 0⟩
  else if magnitude / 0x100000 < 0x42f then
    ofModerate angle
  else if bits < 0x80000000 then
    ofLargeMagnitude magnitude
  else
    (ofLargeMagnitude magnitude).opposite

/-- The residue with the sign of the sine curve's half in which it lies. -/
def signedResidue (reduced : Reduced) : Float :=
  if reduced.quarter = 1 ∨ reduced.quarter = 2 then -reduced.residue else reduced.residue

/-- Odd polynomial for the sine near zero. -/
def oddPart (reduced : Reduced) : Float :=
  let residue := reduced.signedResidue
  let square := reduced.residue * reduced.residue
  let cube := residue * square
  let tail := Float.ofBits 0x3f81107605230bc4 + square * Float.ofBits 0xbf2994eb3774cf24
  (residue + cube * Float.ofBits 0xbfc555545995a603) + cube * square * tail

/-- Even polynomial for the cosine near zero, negated in the second half turn. -/
def evenPart (reduced : Reduced) : Float :=
  let signed (value : Float) : Float := if 2 ≤ reduced.quarter.val then -value else value
  let square := reduced.residue * reduced.residue
  let fourth := square * square
  let tail := signed (Float.ofBits 0xbf56c087e89a359d) +
    square * signed (Float.ofBits 0x3ef99343027bf8c3)
  let head := signed 1.0 + square * signed (Float.ofBits 0xbfdffffffd0c621c)
  (head + fourth * signed (Float.ofBits 0x3fa55553e1068f19)) + fourth * square * tail

end Reduced

/-- Exponent field of the angles so small that the sine is the angle and the cosine is one. -/
private def isTiny (angle : Float32) : Bool :=
  angle.toBits.toNat % 0x80000000 / 0x100000 < 0x398

/-- Sine of an angle in radians; NaN for an infinity or NaN. -/
def sine (angle : Float32) : Float32 :=
  if isTiny angle then
    angle
  else if angle.isFinite then
    let reduced := Reduced.ofAngle angle
    narrow (if reduced.quarter.val % 2 = 0 then reduced.oddPart else reduced.evenPart)
  else
    0.0 / 0.0

/-- Cosine of an angle in radians; NaN for an infinity or NaN. -/
def cosine (angle : Float32) : Float32 :=
  if isTiny angle then
    1.0
  else if angle.isFinite then
    let reduced := Reduced.ofAngle angle
    narrow (if reduced.quarter.val % 2 = 1 then reduced.oddPart else reduced.evenPart)
  else
    0.0 / 0.0

end RoadGrowth.Numeric
