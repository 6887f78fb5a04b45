import RoadGrowth.Proofs.Numeric.Whole
import RoadGrowth.Proofs.Plane.Distance
import RoadGrowth.Terrain.Query

/-!
# Cells and coordinates

A coordinate is measured in cells by three operations that round. With at most
`2 ^ 24` cells along an axis the number of cells is exact, so that a mark which the
measured coordinate reaches or stays below bounds the coordinate itself up to three
roundings. Points within a radius of each other therefore lie in the same cell or in
adjacent ones, if cells are wider than the radius by a margin for rounding.
-/

namespace RoadGrowth

open Numeric

namespace Terrain

/-- A coordinate measured in cells along an axis that has a number of them. -/
def measured (coordinate : Float32) (count : UInt32) : Float32 :=
  (coordinate + 1.0) * 0.5 * count.toFloat32

theorem realValue_half : realValue 0.5 = 1 / 2 := by
  have form : rank 0.5 = (2 ^ 23 : Nat) + ((-24 : Int) + 149) * 2 ^ 23 := by decide +kernel
  rw [realValue, form, gridValue_scaled (by decide) (by decide) (.inl le_rfl)]
  norm_num

variable {coordinate : Float32} {count : UInt32}

/-- The three rounded steps of a measurement. -/
theorem measured_steps (finite : coordinate.isFinite) (small : count.toNat ≤ 2 ^ 24) :
    IsRounding (realValue coordinate + 1) (coordinate + 1.0) ∧
    IsRounding (realValue (coordinate + 1.0) / 2) ((coordinate + 1.0) * 0.5) ∧
    IsRounding (realValue ((coordinate + 1.0) * 0.5) * count.toNat) (measured coordinate count) ∧
    (coordinate + 1.0).isFinite ∧ ((coordinate + 1.0) * 0.5).isFinite := by
  have shifted := isRounding_add finite (by decide : (1.0 : Float32).isFinite)
  rw [realValue_one] at shifted
  have size := abs_realValue_le finite
  have shiftedFinite : (coordinate + 1.0).isFinite := by
    refine shifted.isFinite ((abs_add_le _ _).trans_lt ?_)
    rw [abs_one]
    norm_num at size ⊢
    linarith
  have halved := isRounding_mul shiftedFinite (by decide : (0.5 : Float32).isFinite)
  rw [realValue_half, mul_one_div] at halved
  have shiftedSize := abs_realValue_le shiftedFinite
  have halvedFinite : ((coordinate + 1.0) * 0.5).isFinite := by
    refine halved.isFinite ?_
    rw [abs_div, abs_two]
    norm_num at shiftedSize ⊢
    linarith
  have countValue := realValue_ofUInt32 small
  have scaled := isRounding_mul halvedFinite (isFinite_ofUInt32 small)
  rw [countValue] at scaled
  exact ⟨shifted, halved, scaled, shiftedFinite, halvedFinite⟩

/-- A coordinate whose measure reaches a mark. -/
theorem le_coordinate (finite : coordinate.isFinite) (positive : 0 < count.toNat)
    (small : count.toNat ≤ 2 ^ 24) {mark : ℝ} (one : 1 ≤ mark)
    (reached : mark ≤ realValue (measured coordinate count)) :
    2 * (mark / count.toNat) * (1 - 2 ^ (-24 : ℤ)) ^ 3 - 2 ^ (-140 : ℤ) ≤
      realValue coordinate + 1 := by
  obtain ⟨shifted, halved, scaled, -, -⟩ := measured_steps finite small
  have countPositive : (1 : ℝ) ≤ count.toNat := by exact_mod_cast positive
  have countSmall : (count.toNat : ℝ) ≤ 16777216 := by exact_mod_cast small
  have product := scaled.le_number (by linarith) reached
  generalize shareEq : mark / count.toNat = share
  have markEq : mark = share * count.toNat := by
    rw [← shareEq, div_mul_cancel₀ _ (by linarith)]
  have shareLarge : (2 : ℝ) ^ (-24 : ℤ) ≤ share := by
    rw [← shareEq, le_div_iff₀ (by linarith)]
    norm_num
    linarith
  have half : share * (1 - 2 ^ (-24 : ℤ)) - 2 ^ (-150 : ℤ) ≤
      realValue ((coordinate + 1.0) * 0.5) := by
    refine le_of_mul_le_mul_right ?_ (by linarith : (0 : ℝ) < count.toNat)
    rw [markEq] at product
    norm_num at product ⊢
    linarith
  norm_num at shareLarge
  have sum := halved.le_number (by norm_num; linarith) half
  have doubled : 2 * ((share * (1 - 2 ^ (-24 : ℤ)) - 2 ^ (-150 : ℤ)) * (1 - 2 ^ (-24 : ℤ)) -
      2 ^ (-150 : ℤ)) ≤ realValue (coordinate + 1.0) := by linarith
  have whole := shifted.le_number (by norm_num; linarith) doubled
  norm_num at whole ⊢
  linarith

/-- A coordinate whose measure stays below a mark. -/
theorem coordinate_le (finite : coordinate.isFinite) (positive : 0 < count.toNat)
    (small : count.toNat ≤ 2 ^ 24) {mark : ℝ} (nonneg : 0 ≤ mark) (inside : mark ≤ count.toNat)
    (below : realValue (measured coordinate count) ≤ mark) :
    realValue coordinate + 1 ≤
      2 * (mark / count.toNat) * (1 + 2 ^ (-24 : ℤ)) ^ 3 + 2 ^ (-140 : ℤ) := by
  obtain ⟨shifted, halved, scaled, shiftedFinite, halvedFinite⟩ := measured_steps finite small
  have countPositive : (1 : ℝ) ≤ count.toNat := by exact_mod_cast positive
  have countSmall : (count.toNat : ℝ) ≤ 16777216 := by exact_mod_cast small
  have finiteMeasure : rank (measured coordinate count) < topRank := by
    rw [← gridValue_lt_iff, gridValue_topRank]
    change realValue (measured coordinate count) < _
    norm_num
    linarith
  have product := scaled.number_le finiteMeasure nonneg below
  generalize shareEq : mark / count.toNat = share
  have markEq : mark = share * count.toNat := by
    rw [← shareEq, div_mul_cancel₀ _ (by linarith)]
  have shareNonneg : 0 ≤ share := by
    rw [← shareEq]
    exact div_nonneg nonneg (by linarith)
  have half : realValue ((coordinate + 1.0) * 0.5) ≤
      share * (1 + 2 ^ (-24 : ℤ)) + 2 ^ (-150 : ℤ) := by
    refine le_of_mul_le_mul_right ?_ (by linarith : (0 : ℝ) < count.toNat)
    rw [markEq] at product
    norm_num at product ⊢
    linarith
  have sum := halved.number_le (lt_topRank_of_isFinite halvedFinite)
    (by norm_num; linarith) half
  have doubled : realValue (coordinate + 1.0) ≤
      2 * ((share * (1 + 2 ^ (-24 : ℤ)) + 2 ^ (-150 : ℤ)) * (1 + 2 ^ (-24 : ℤ)) +
        2 ^ (-150 : ℤ)) := by linarith
  have whole := shifted.number_le (lt_topRank_of_isFinite shiftedFinite) (by norm_num; linarith)
    doubled
  norm_num at whole ⊢
  linarith

/-- Coordinates two cells apart differ by nearly the side of a cell. -/
theorem side_le_of_apart {left right : Float32} (positive : 0 < count.toNat)
    (leftFinite : left.isFinite) (rightFinite : right.isFinite) (small : count.toNat ≤ 2 ^ 24)
    (apart : (cellNumber count.toNat positive (measured right count)).val + 2 ≤
      (cellNumber count.toNat positive (measured left count)).val) :
    2 / (count.toNat : ℝ) - 13 * 2 ^ (-24 : ℤ) ≤ realValue left - realValue right := by
  simp only [cellNumber] at apart
  generalize wholeEq : (measured right count).toUInt32.toNat = whole at apart
  have inside : whole + 3 ≤ count.toNat := by omega
  have reached : ((whole + 2 : Nat) : ℝ) ≤ realValue (measured left count) :=
    ((le_toUInt32 (by omega) (by omega)).mp (by omega)).2
  have below : realValue (measured right count) ≤ (whole + 1 : Nat) := by
    obtain ⟨-, -, scaled, -, -⟩ := measured_steps rightFinite small
    by_contra above
    have next : whole + 1 ≤ (measured right count).toUInt32.toNat :=
      (le_toUInt32 (by omega) (by omega)).mpr ⟨scaled.isNumber, (not_le.mp above).le⟩
    omega
  have leftBound := le_coordinate leftFinite positive small
    (by exact_mod_cast (by omega : 1 ≤ whole + 2)) reached
  have rightBound := coordinate_le rightFinite positive small (Nat.cast_nonneg _)
    (by exact_mod_cast (by omega : whole + 1 ≤ count.toNat)) below
  -- In shares of the axis the marks lie one side of a cell apart, and two below its end.
  have countPositive : (1 : ℝ) ≤ count.toNat := by exact_mod_cast positive
  generalize sideEq : 1 / (count.toNat : ℝ) = side
  generalize shareEq : ((whole + 1 : Nat) : ℝ) / count.toNat = share at rightBound
  have nextShare : ((whole + 2 : Nat) : ℝ) / count.toNat = share + side := by
    rw [← shareEq, ← sideEq, ← add_div]
    push_cast
    ring
  have lastShare : share + 2 * side ≤ 1 := by
    rw [← shareEq, ← sideEq, mul_one_div, ← add_div, div_le_one₀ (by linarith)]
    exact_mod_cast inside
  have sideNonneg : 0 ≤ side := by
    rw [← sideEq]
    exact div_nonneg one_pos.le (by linarith)
  have twoSides : 2 / (count.toNat : ℝ) = 2 * side := by
    rw [← sideEq, mul_one_div]
  rw [nextShare] at leftBound
  rw [twoSides]
  norm_num at leftBound rightBound ⊢
  linarith

/-- Close coordinates are at most one cell apart if cells are wider by a margin. -/
theorem cellNumber_le_succ (positive : 0 < count.toNat) {left right : Float32} {radius : ℝ}
    (leftFinite : left.isFinite) (rightFinite : right.isFinite) (nonneg : 0 ≤ radius)
    (close : realValue left - realValue right ≤
      radius * (1 + 2 ^ (-24 : ℤ)) ^ 3 + 2 ^ (-72 : ℤ))
    (margin : radius + 2 ^ (-20 : ℤ) ≤ 2 / (count.toNat : ℝ)) :
    (cellNumber count.toNat positive (measured left count)).val ≤
      (cellNumber count.toNat positive (measured right count)).val + 1 := by
  by_contra apart
  have three : (3 : ℝ) ≤ count.toNat := by
    have last := (cellNumber count.toNat positive (measured left count)).isLt
    exact_mod_cast (by omega : 3 ≤ count.toNat)
  rw [le_div_iff₀ (by linarith)] at margin
  have small : count.toNat ≤ 2 ^ 24 := by
    have product : 0 ≤ radius * count.toNat := mul_nonneg nonneg (by linarith)
    have real : (count.toNat : ℝ) ≤ 16777216 := by
      norm_num at margin
      linarith
    exact_mod_cast real
  have side := side_le_of_apart positive leftFinite rightFinite small (by omega)
  rw [← le_div_iff₀ (by linarith)] at margin
  have narrow : 2 / (count.toNat : ℝ) ≤ 2 / 3 := div_le_div_of_nonneg_left (by norm_num)
    (by norm_num) three
  norm_num at margin side close
  linarith

/-- Cells that differ by one at most on each axis. -/
def Adjacent {terrain : Terrain} (left right : terrain.Cell) : Prop :=
  (left.1.val ≤ right.1.val + 1 ∧ right.1.val ≤ left.1.val + 1) ∧
    left.2.val ≤ right.2.val + 1 ∧ right.2.val ≤ left.2.val + 1

/-- Cells are wider and higher than a radius by a margin for rounding. -/
structure Exceeds (terrain : Terrain) (radius : Float32) : Prop where
  wider : realValue radius + 2 ^ (-20 : ℤ) ≤ 2 / (terrain.columns : ℝ)
  higher : realValue radius + 2 ^ (-20 : ℤ) ≤ 2 / (terrain.rows : ℝ)

/-- Points within a radius lie in adjacent cells if cells exceed the radius. -/
theorem adjacent_of_distance_le {terrain : Terrain} {left right : Point} {radius : Float32}
    (leftFinite : left.isFinite) (rightFinite : right.isFinite) (radiusFinite : radius.isFinite)
    (within : left.distance right ≤ radius) (exceeds : terrain.Exceeds radius) :
    Adjacent (terrain.cellOf left) (terrain.cellOf right) := by
  obtain ⟨leftX, leftY⟩ := Point.isFinite_coordinates leftFinite
  obtain ⟨rightX, rightY⟩ := Point.isFinite_coordinates rightFinite
  obtain ⟨across, along⟩ :=
    Point.abs_sub_le_of_distance_le leftFinite rightFinite radiusFinite within
  rw [abs_sub_le_iff] at across along
  have nonneg : 0 ≤ realValue radius := gridValue_nonneg_iff.mpr
    ((Point.distance_isNumber leftFinite rightFinite).2.trans (le_iff.mp within).2.2)
  obtain ⟨wider, higher⟩ := exceeds
  exact ⟨⟨cellNumber_le_succ terrain.columns_pos leftX rightX nonneg across.1 wider,
      cellNumber_le_succ terrain.columns_pos rightX leftX nonneg across.2 wider⟩,
    cellNumber_le_succ terrain.rows_pos leftY rightY nonneg along.1 higher,
    cellNumber_le_succ terrain.rows_pos rightY leftY nonneg along.2 higher⟩

end Terrain

end RoadGrowth
