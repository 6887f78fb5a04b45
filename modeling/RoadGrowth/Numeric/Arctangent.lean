import RoadGrowth.Numeric.Rounding

/-!
# Angle of a vector

`arctangent` works in single precision throughout: the argument is moved next to
one of four anchors whose angles are kept as a leading part and a remainder, and
a polynomial covers what is left. `angleOf` adds the quadrant.
-/

namespace RoadGrowth.Numeric

/-- An angle stored as a leading part and the remainder that it leaves out. -/
structure SplitAngle where
  leading : Float32
  remainder : Float32

/-- `π` as a single. -/
def pi : Float32 := Float32.ofBits 0x40490fdb

/-- `π/2` as a single. -/
def halfPi : Float32 := Float32.ofBits 0x3fc90fdb

/-- `π/4` as a single. -/
def quarterPi : Float32 := Float32.ofBits 0x3f490fdb

/-- `π/8` as a single. -/
def eighthPi : Float32 := Float32.ofBits 0x3ec90fdb

/-- What `pi` leaves out of `π`. -/
def piRemainder : Float32 := Float32.ofBits 0xb3bbbd2e

namespace Arctangent

/-- The arctangent of one half. -/
def ofHalf : SplitAngle := ⟨Float32.ofBits 0x3eed6338, Float32.ofBits 0x31ac3769⟩

/-- The arctangent of one. -/
def ofOne : SplitAngle := ⟨Float32.ofBits 0x3f490fda, Float32.ofBits 0x33222168⟩

/-- The arctangent of three halves. -/
def ofThreeHalves : SplitAngle := ⟨Float32.ofBits 0x3f7b985e, Float32.ofBits 0x33140fb4⟩

/-- The limit of the arctangent at infinity. -/
def ofInfinity : SplitAngle := ⟨Float32.ofBits 0x3fc90fda, Float32.ofBits 0x33a22168⟩

/-- How much smaller than its argument the arctangent near zero is. -/
def deficit (value : Float32) : Float32 :=
  let z := value * value
  let w := z * z
  let even := z * (Float32.ofBits 0x3eaaaaab + w * (Float32.ofBits 0x3e124925 +
    w * (Float32.ofBits 0x3dba2e6e + w * (Float32.ofBits 0x3d886b35 +
    w * (Float32.ofBits 0x3d4bda59 + w * Float32.ofBits 0x3c8569d7)))))
  let odd := w * (Float32.ofBits 0xbe4ccccd + w * (Float32.ofBits 0xbde38e38 +
    w * (Float32.ofBits 0xbd9d8795 + w * (Float32.ofBits 0xbd6ef16b +
    w * Float32.ofBits 0xbd15a221))))
  value * (even + odd)

/-- Angle of an anchor plus the arctangent of the small argument left beside it. -/
def besideAnchor (anchor : SplitAngle) (value : Float32) : Float32 :=
  anchor.leading - ((deficit value - anchor.remainder) - value)

/-- The arctangent of a positive value that is not near zero. -/
def ofPositive (value : Float32) : Float32 :=
  let bits := value.toBits.toNat
  if bits < 0x3f300000 then
    besideAnchor ofHalf ((2.0 * value - 1.0) / (2.0 + value))
  else if bits < 0x3f980000 then
    besideAnchor ofOne ((value - 1.0) / (value + 1.0))
  else if bits < 0x401c0000 then
    besideAnchor ofThreeHalves ((value - 1.5) / (1.0 + 1.5 * value))
  else if bits < 0x4c000000 then
    besideAnchor ofInfinity (-1.0 / value)
  else
    ofInfinity.leading + ofInfinity.remainder

end Arctangent

/-- The arctangent of a value. -/
def arctangent (value : Float32) : Float32 :=
  let magnitude := value.toBits.toNat % 0x80000000
  if value.isNaN then
    value
  else if magnitude < 0x31000000 then
    value
  else if magnitude < 0x3ee00000 then
    value - Arctangent.deficit value
  else if value < 0.0 then
    -Arctangent.ofPositive (-value)
  else
    Arctangent.ofPositive value

/-- Whether the sign bit is set, also on a zero. -/
private def isSigned (value : Float32) : Bool :=
  0x80000000 ≤ value.toBits.toNat

/-- The opposite of an angle where the sign of the ordinate asks for it. -/
private def withSignOf (ordinate angle : Float32) : Float32 :=
  if isSigned ordinate then -angle else angle

/-- The angle from the axis to the vector of the absolute coordinates, both finite and not zero. -/
private def firstQuadrant (ordinate abscissa : Float32) : Float32 :=
  let gap := ((ordinate.toBits.toNat % 0x80000000 : Nat) : Int) -
    (abscissa.toBits.toNat % 0x80000000 : Nat)
  let octaves := gap / 0x800000
  if 60 < octaves then
    halfPi + 0.5 * piRemainder
  else if isSigned abscissa && octaves < -60 then
    0.0
  else
    arctangent (ordinate / abscissa).abs

/-- Angle in radians of the vector `(abscissa, ordinate)`, counter-clockwise from
the positive axis, in `[-π, π]`; NaN if a coordinate is NaN. -/
def angleOf (ordinate abscissa : Float32) : Float32 :=
  if ordinate.isNaN || abscissa.isNaN then
    0.0 / 0.0
  else if abscissa == 1.0 then
    arctangent ordinate
  else if ordinate == 0.0 then
    if isSigned abscissa then withSignOf ordinate pi else ordinate
  else if abscissa == 0.0 then
    withSignOf ordinate halfPi
  else if abscissa.isInf then
    if ordinate.isInf then
      withSignOf ordinate (if isSigned abscissa then 3.0 * quarterPi else quarterPi)
    else
      withSignOf ordinate (if isSigned abscissa then pi else 0.0)
  else if ordinate.isInf then
    withSignOf ordinate halfPi
  else
    let angle := firstQuadrant ordinate abscissa
    if isSigned abscissa then
      if isSigned ordinate then (angle - piRemainder) - pi else pi - (angle - piRemainder)
    else
      withSignOf ordinate angle

end RoadGrowth.Numeric
