/-!
# Exact binary values and one rounding

`Binary` keeps `coefficient * 2 ^ exponent` exactly. A value reaches a float
format through `Binary.round` alone, so an expression over `Binary` is rounded
once. `widen` and `narrow` are the two passages between the float widths.
-/

namespace RoadGrowth.Numeric

open Float.Model (Format UnpackedFloat)

/-- The finite number `coefficient * 2 ^ exponent`. -/
structure Binary where
  coefficient : Int
  exponent : Int
  deriving DecidableEq

namespace Binary

/-- The number a float stands for; nothing for infinities and NaN. -/
def ofUnpacked? : UnpackedFloat → Option Binary
  | .notANumber => none
  | .infinity _ => none
  | .zero _ => some ⟨0, 0⟩
  | .finite .positive mantissa exponent _ => some ⟨mantissa, exponent⟩
  | .finite .negative mantissa exponent _ => some ⟨-mantissa, exponent⟩

/-- The number a double stands for. -/
def ofDouble? (value : Float) : Option Binary :=
  ofUnpacked? value.toModel.unpack

/-- The number a single stands for. -/
def ofSingle? (value : Float32) : Option Binary :=
  ofUnpacked? value.toModel.unpack

/-- An integral multiple. -/
def scale (factor : Int) (value : Binary) : Binary :=
  ⟨factor * value.coefficient, value.exponent⟩

/-- Exact difference, written over the smaller exponent. -/
def sub (left right : Binary) : Binary :=
  let exponent := min left.exponent right.exponent
  ⟨left.coefficient <<< (left.exponent - exponent).toNat -
    right.coefficient <<< (right.exponent - exponent).toNat, exponent⟩

/-- The nearest value of a format, ties going to the even neighbor; zero is positive. -/
def round (format : Format) (value : Binary) : UnpackedFloat :=
  if value.coefficient = 0 then
    .zero .positive
  else if value.coefficient < 0 then
    UnpackedFloat.round format .negative value.coefficient.natAbs value.exponent
  else
    UnpackedFloat.round format .positive value.coefficient.natAbs value.exponent

/-- The integer next to the value on the way to zero. -/
def truncate (value : Binary) : Int :=
  if 0 ≤ value.exponent then
    value.coefficient <<< value.exponent.toNat
  else
    Int.tdiv value.coefficient (1 <<< (-value.exponent).toNat)

end Binary

/-- The value of `format` nearest to a value of another one. -/
def convert (format : Format) : UnpackedFloat → UnpackedFloat
  | .finite sign mantissa exponent _ => UnpackedFloat.round format sign mantissa exponent
  | other => other

/-- The double of the same value; every single has one. -/
def widen (value : Float32) : Float :=
  ⟨Float.Model.pack (convert Format.binary64 value.toModel.unpack)⟩

/-- The single nearest to a double, ties going to the even neighbor. -/
def narrow (value : Float) : Float32 :=
  ⟨Float32.Model.pack (convert Format.binary32 value.toModel.unpack)⟩

/-- The double nearest to an exact value. -/
def Binary.toDouble (value : Binary) : Float :=
  ⟨Float.Model.pack (value.round Format.binary64)⟩

/-- The double nearest to an integer. -/
def doubleOfInt (value : Int) : Float :=
  Binary.toDouble ⟨value, 0⟩

/-- The single nearest to a count. -/
def singleOfCount (count : Nat) : Float32 :=
  ⟨Float32.Model.pack (Binary.round Format.binary32 ⟨count, 0⟩)⟩

/-- The integer part of a double that fits 64 signed bits; nothing for any other double. -/
def integerPart? (value : Float) : Option Int := do
  let part := (← Binary.ofDouble? value).truncate
  if -0x8000000000000000 ≤ part ∧ part < 0x8000000000000000 then some part else none

/-- The smaller argument; the other one when one of them is NaN, the first on a tie. -/
def least (left right : Float32) : Float32 :=
  if left.isNaN then right else if right < left then right else left

/-- The larger argument; the other one when one of them is NaN, the first on a tie. -/
def greatest (left right : Float32) : Float32 :=
  if left.isNaN then right else if left < right then right else left

end RoadGrowth.Numeric
