import RoadGrowth.Numeric.Shortest

/-!
# Numbers in messages

`plainText` writes a single with the fewest digits that read back to it, always
positional. `fixedText` writes a given number of places, rounded from the exact
value with ties to even. Both keep the sign of a negative zero.
-/

namespace RoadGrowth.Numeric

/-- The sign of a value that is not NaN, written only when it is negative. -/
def signText (value : Float32) : List Char :=
  if 0x80000000 ≤ value.toBits.toNat then ['-'] else []

/-- Shortest positional text. -/
def plainText (value : Float32) : String :=
  if value.isNaN then
    "NaN"
  else if value.isInf then
    String.ofList (signText value ++ "inf".toList)
  else
    String.ofList (signText value ++ (shortestDecimal .upward value).positional)

/-- The absolute value of a finite single as a count of `10 ^ -places`. -/
def fixedCount (places : Nat) (value : Float32) : Nat :=
  match Binary.ofSingle? value with
  | some exact => roundQuotient .toEven
      ((exact.coefficient.natAbs * Nat.pow 10 places) <<< exact.exponent.toNat)
      (1 <<< (-exact.exponent).toNat)
  | none => 0

/-- Text of a count of `10 ^ -places`, with exactly that many digits after the point. -/
def fixedDigits (places count : Nat) : List Char :=
  let whole := digits (count / Nat.pow 10 places)
  let fraction := digits (count % Nat.pow 10 places)
  if places = 0 then
    whole
  else
    whole ++ '.' :: List.replicate (places - fraction.length) '0' ++ fraction

/-- Text with a fixed number of places. -/
def fixedText (places : Nat) (value : Float32) : String :=
  if value.isNaN then
    "NaN"
  else if value.isInf then
    String.ofList (signText value ++ "inf".toList)
  else
    String.ofList (signText value ++ fixedDigits places (fixedCount places value))

end RoadGrowth.Numeric
