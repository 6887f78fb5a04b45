import RoadGrowth.Proofs.Numeric.Extremes
import RoadGrowth.Proofs.Numeric.Fraction
import RoadGrowth.Terrain.Population

/-!
# Densities

A distance is NaN or not negative, and NaN is passed over where the nearest center is
taken, so the distance to the nearest center is a number. As long as it is below the range
its quotient with the range is a fraction, and so is the density. The fraction is short of
one by a share that no rounding takes away, so that the density vanishes only beyond the
range.
-/

namespace RoadGrowth

open Numeric

theorem Numeric.least_nonneg {left right : Float32} (leftNumber : left.isNaN = false)
    (leftNonneg : 0 ≤ rank left) (rightNonneg : 0 ≤ rank right) :
    (least left right).isNaN = false ∧ 0 ≤ rank (least left right) := by
  unfold least
  rw [leftNumber, if_neg Bool.false_ne_true]
  split_ifs with smaller
  · exact ⟨(lt_iff.mp smaller).1, rightNonneg⟩
  · exact ⟨leftNumber, leftNonneg⟩

theorem Point.distance_nonneg (left right : Point) : 0 ≤ rank (left.distance right) :=
  rank_sqrt_nonneg _

namespace Population

variable {population : Population} {position : Point}

/-- The distance to the nearest center is a number and not negative. -/
theorem nearest_isNumber (population : Population) (position : Point) :
    (population.nearest position).isNaN = false ∧ 0 ≤ rank (population.nearest position) := by
  have infinity : (1.0 / 0.0 : Float32).isNaN = false ∧ 0 ≤ rank (1.0 / 0.0) :=
    ⟨by decide, by decide⟩
  -- A distance need not be a number, but then it leaves the best as it is.
  refine List.foldlRecOn
    (motive := fun best : Float32 => best.isNaN = false ∧ 0 ≤ rank best)
    population.centers _ infinity ?_
  rintro best ⟨isNumber, nonneg⟩ center -
  exact least_nonneg isNumber nonneg (center.distance_nonneg _)

/-- A bound of the distance to the nearest center is one of every distance that is a number. -/
theorem le_nearest_iff {bound : Float32} (isNumber : bound.isNaN = false) :
    bound ≤ population.nearest position ↔ ∀ center ∈ population.centers,
      (center.distance (population.latticePoint position)).isNaN = true ∨
        bound ≤ center.distance (population.latticePoint position) := by
  rw [nearest, ← List.foldl_map (f := fun center : Point => center.distance _) (g := least),
    le_foldl_least_iff_of_start (by decide), and_iff_right (le_infinity isNumber),
    List.forall_mem_map]

section

variable (isNumber : population.range.isNaN = false)

include isNumber

/-- A density is a fraction of one if the range is a number. -/
theorem isFraction_density (position : Point) : IsFraction (population.density position) := by
  obtain ⟨nearestNumber, nonneg⟩ := population.nearest_isNumber position
  simp only [density]
  split_ifs with reached
  · exact .of_rank_eq_zero (by decide) (by decide)
  · have below : population.nearest position < population.range :=
      lt_of_not_le isNumber nearestNumber reached
    have closeness := (IsFraction.div nonneg below).complement
    exact closeness.mul (closeness.mul closeness)

/-- Below the range no rounding makes the density vanish. -/
theorem density_pos (inside : ¬population.range ≤ population.nearest position) :
    0 < realValue (population.density position) := by
  obtain ⟨nearestNumber, nonneg⟩ := population.nearest_isNumber position
  have below : population.nearest position < population.range :=
    lt_of_not_le isNumber nearestNumber inside
  have share := IsFraction.div nonneg below
  have fraction := share.complement
  have large := share.le_complement (IsFraction.div_le nonneg below)
  simp only [density, if_neg inside]
  generalize 1.0 - population.nearest position / population.range = closeness at fraction large
  have square := fraction.two_zpow_le_mul fraction large large (by decide) (by decide)
  have cube := fraction.two_zpow_le_mul (fraction.mul fraction) large square (by decide) (by decide)
  exact lt_of_lt_of_le (by positivity) cube

theorem density_eq_zero_iff :
    population.density position = 0.0 ↔ population.range ≤ population.nearest position := by
  constructor
  · intro vanishes
    by_contra inside
    have positive := density_pos isNumber inside
    rw [vanishes, realValue_zero] at positive
    exact lt_irrefl _ positive
  · exact fun reached => if_pos reached

end

/-- A density is a number between zero and one, whatever the centers and the position are, if only
the range is a number. It is zero exactly where the distance to every center is undefined or at
least the range. -/
theorem density_bounds (isNumber : population.range.isNaN = false) (position : Point) :
    (population.density position).isNaN = false ∧
    (0.0 ≤ population.density position ∧ population.density position ≤ 1.0) ∧
    (population.density position = 0.0 ↔ ∀ center ∈ population.centers,
      (center.distance (population.latticePoint position)).isNaN = true ∨
        population.range ≤ center.distance (population.latticePoint position)) := by
  have fraction := isFraction_density isNumber position
  exact ⟨fraction.isNumber, fraction.bounds, (density_eq_zero_iff isNumber).trans
    (le_nearest_iff isNumber)⟩

/-- One center is undefined and the range infinite: the density is positive at any place on the map
as there is another center, and zero where the position is undefined. -/
theorem density_bounds_of_infinite_range :
    let population : Population := ⟨[⟨0.0 / 0.0, 1.0⟩, ⟨1.0, 1.0⟩], ⟨2, 2⟩, 1.0 / 0.0⟩
    population.range.isNaN = false ∧
      (0.0 ≤ population.density .origin ∧ population.density .origin ≤ 1.0) ∧
      population.density .origin ≠ 0.0 ∧ population.density ⟨0.0, 0.0 / 0.0⟩ = 0.0 := by
  intro population
  have isNumber : population.range.isNaN = false := by decide
  obtain ⟨-, bounds, zero⟩ := density_bounds isNumber .origin
  obtain ⟨-, -, undefined⟩ := density_bounds isNumber ⟨0.0, 0.0 / 0.0⟩
  refine ⟨isNumber, bounds, fun vanishes => ?_, undefined.mpr fun center known => .inl ?_⟩
  · have reached := zero.mp vanishes ⟨1.0, 1.0⟩ (by decide)
    exact absurd reached (by decide)
  · have both : ∀ center ∈ population.centers,
        (center.distance (population.latticePoint ⟨0.0, 0.0 / 0.0⟩)).isNaN = true := by
      decide
    exact both center known

end Population

end RoadGrowth
