import RoadGrowth.Numeric.Decimal

/-!
# Shortest decimal of a single

Every real number that rounds to a single lies in one interval around it. The
shortest decimal is taken from the coarsest power-of-ten grid that meets this
interval. Of a grid only the two points around the value need to be looked at:
if any point of the grid lies in the interval, one of these two does.
-/

namespace RoadGrowth.Numeric

/-- A positive single `mantissa * 2 ^ exponent` and the reals that round to it. -/
structure RoundingInterval where
  mantissa : Nat
  exponent : Int
  /-- Whether the neighbor below lies half as far away as the one above. -/
  narrowBelow : Bool

namespace RoundingInterval

/-- The interval of a positive finite single, given its unpacked value. -/
def ofMantissa (mantissa : Nat) (exponent : Int) : RoundingInterval :=
  ⟨mantissa, exponent, mantissa == 0x800000 && exponent != -149⟩

/-- Lower end, value and upper end, in units of a quarter of `2 ^ exponent`. -/
def quarters (interval : RoundingInterval) : Nat × Nat × Nat :=
  (4 * interval.mantissa - (if interval.narrowBelow then 1 else 2),
    4 * interval.mantissa, 4 * interval.mantissa + 2)

/-- The factor, as a quotient, that turns quarters into multiples of `10 ^ grid`. -/
def gridFactor (interval : RoundingInterval) (grid : Int) : Nat × Nat :=
  (Nat.pow 10 (-grid).toNat <<< (interval.exponent - 2).toNat,
    Nat.pow 10 grid.toNat <<< (2 - interval.exponent).toNat)

/-- Whether `count * 10 ^ grid` rounds to the single; the ends do when the mantissa is even. -/
def admits (interval : RoundingInterval) (grid : Int) (count : Nat) : Bool :=
  let (lower, _, upper) := interval.quarters
  let (scale, unit) := interval.gridFactor grid
  if interval.mantissa % 2 = 0 then
    lower * scale ≤ count * unit && count * unit ≤ upper * scale
  else
    lower * scale < count * unit && count * unit < upper * scale

/-- The point of a grid that rounds to the single and is nearest to it. -/
def onGrid? (interval : RoundingInterval) (tie : Tie) (grid : Int) : Option Nat :=
  let (_, value, _) := interval.quarters
  let (scale, unit) := interval.gridFactor grid
  let below := value * scale / unit
  match interval.admits grid below, interval.admits grid (below + 1) with
  | true, true => some (roundQuotient tie (value * scale) unit)
  | true, false => some below
  | false, true => some (below + 1)
  | false, false => none

/-- Position of the leading decimal digit of the value. -/
def order (interval : RoundingInterval) : Int :=
  let (scale, unit) := interval.gridFactor (-60)
  ((digits (4 * interval.mantissa * scale / unit)).length : Int) - 61

/-- The first grid with a hit, going finer step by step. -/
def search (interval : RoundingInterval) (tie : Tie) : Nat → Int → Decimal
  | 0, grid => ⟨0, grid⟩
  | fuel + 1, grid =>
    match interval.onGrid? tie grid with
    | some count => Decimal.trimmed 60 ⟨count, grid⟩
    | none => search interval tie fuel (grid - 1)

/-- The decimal with the fewest digits that rounds to the single, the nearest such one. -/
def shortest (interval : RoundingInterval) (tie : Tie) : Decimal :=
  interval.search tie 12 interval.order

end RoundingInterval

/-- The shortest decimal of the absolute value of a finite single. -/
def shortestDecimal (tie : Tie) (value : Float32) : Decimal :=
  match value.abs.toModel.unpack with
  | .finite _ mantissa exponent _ => (RoundingInterval.ofMantissa mantissa exponent).shortest tie
  | _ => ⟨0, 0⟩

end RoadGrowth.Numeric
