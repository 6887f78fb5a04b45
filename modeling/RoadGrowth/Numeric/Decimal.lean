import RoadGrowth.Numeric.Rounding

/-!
# Decimals

A `Decimal` is a count of a power of ten. Its value as a single is rounded once
from the exact decimal, whatever the number of digits and the exponent.
-/

namespace RoadGrowth.Numeric

/-- The number `significand * 10 ^ exponent`. -/
structure Decimal where
  significand : Nat
  exponent : Int
  deriving DecidableEq

/-- What happens to a number half way between two candidates. -/
inductive Tie where
  | toEven
  | upward
  deriving DecidableEq

/-- The count nearest to `numerator / denominator`. -/
def roundQuotient (tie : Tie) (numerator denominator : Nat) : Nat :=
  let floor := numerator / denominator
  let twice := 2 * (numerator % denominator)
  if twice < denominator then
    floor
  else if denominator < twice then
    floor + 1
  else
    match tie with
    | .toEven => floor + floor % 2
    | .upward => floor + 1

/-- The decimal digits of a count, most significant first. -/
def digits (count : Nat) : List Char :=
  Nat.toDigits 10 count

/-- The count written by a list of decimal digits. -/
def countOfDigits (text : List Char) : Nat :=
  text.foldl (fun count digit => 10 * count + (digit.toNat - '0'.toNat)) 0

namespace Decimal

/-- The same number with no zero at the end of the significand, by at most `fuel` divisions. -/
def trimmed : Nat → Decimal → Decimal
  | 0, decimal => decimal
  | fuel + 1, decimal =>
    if decimal.significand ≠ 0 ∧ decimal.significand % 10 = 0 then
      trimmed fuel ⟨decimal.significand / 10, decimal.exponent + 1⟩
    else
      decimal

/-- Position of the leading digit: zero for the numbers from one to below ten. -/
def order (decimal : Decimal) : Int :=
  decimal.exponent + (digits decimal.significand).length - 1

/-- The single nearest to a positive decimal, ties going to the even neighbor.
Beyond `10 ^ 40` that is infinity and below `10 ^ -50` it is zero. -/
def toSingle (decimal : Decimal) : Float32 :=
  if decimal.significand = 0 then
    0.0
  else if 40 < decimal.order then
    1.0 / 0.0
  else if decimal.order < -50 then
    0.0
  else
    Float32.ofScientific decimal.significand (decimal.exponent < 0) decimal.exponent.natAbs

/-- Positional digits, without an exponent and without a fraction when there is none. -/
def positional (decimal : Decimal) : List Char :=
  let written := digits decimal.significand
  if 0 ≤ decimal.exponent then
    written ++ List.replicate decimal.exponent.toNat '0'
  else
    let places := decimal.exponent.natAbs
    if places < written.length then
      written.take (written.length - places) ++ '.' :: written.drop (written.length - places)
    else
      '0' :: '.' :: List.replicate (places - written.length) '0' ++ written

end Decimal

end RoadGrowth.Numeric
