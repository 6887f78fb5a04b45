import RoadGrowth.Fault
import RoadGrowth.Random.Keystream

/-!
# Random singles

A random word gives 23 bits of a number in `[0, 1)`. A range symmetric to zero is
covered with both ends reachable; its width must be a finite single.
-/

namespace RoadGrowth.Random

/-- The number in `[0, 1)` made from the upper 23 bits of a word. -/
def unitOf (word : UInt32) : Float32 :=
  Float32.ofBits ((word >>> 9) ||| 0x3f800000) - 1.0

/-- The next number in `[0, 1)`. -/
def nextUnit (stream : Keystream) : Float32 × Keystream :=
  let (word, rest) := stream.next
  (unitOf word, rest)

/-- The largest value of `unitOf`: one minus `2 ^ -23`. -/
def largestUnit : Float32 := Float32.ofBits 0x3f7ffffe

/-- The largest scale, with bits from a given pattern downward, that keeps
`scale * largestUnit + lower` from passing `upper`. -/
def fittingScale (lower upper : Float32) : Nat → Float32
  | 0 => Float32.ofBits 0
  | bits + 1 =>
    let scale := Float32.ofBits (UInt32.ofNat (bits + 1))
    if upper < scale * largestUnit + lower then fittingScale lower upper bits else scale

/-- The number in `[-limit, limit]` that a word selects. -/
def symmetric (limit : Float32) (word : UInt32) : Except Fault Float32 :=
  if limit.isNaN then
    .error .unboundedRange
  else
    let scale := (limit - -limit) / largestUnit
    if scale.isFinite then
      .ok (unitOf word * fittingScale (-limit) limit scale.toBits.toNat + -limit)
    else
      .error .unboundedRange

end RoadGrowth.Random
