import RoadGrowth.Plane.Point
import RoadGrowth.Proofs.Numeric.Overflow

/-!
# Distances

The distance of two finite points is a number and not negative, though it may be
infinite. If it is within a finite radius, no step of its computation overflowed,
and then the exact distance along each axis is at most the radius up to three
roundings.
-/

namespace RoadGrowth

open Numeric

namespace Point

variable {left right : Point} {radius : Float32}

theorem isFinite_coordinates {point : Point} (finite : point.isFinite) :
    point.x.isFinite ∧ point.y.isFinite := by
  simpa [isFinite] using finite

theorem length_isNumber (point : Point) (xNumber : point.x.isNaN = false)
    (yNumber : point.y.isNaN = false) :
    point.length.isNaN = false ∧ 0 ≤ rank point.length := by
  obtain ⟨acrossNumber, acrossNonneg⟩ := square_isNumber xNumber
  obtain ⟨alongNumber, alongNonneg⟩ := square_isNumber yNumber
  obtain ⟨sumNumber, sumNonneg⟩ := sum_isNumber acrossNumber alongNumber acrossNonneg alongNonneg
  exact root_isNumber sumNumber sumNonneg

/-- The distance of finite points is a number and not negative. -/
theorem distance_isNumber (leftFinite : left.isFinite) (rightFinite : right.isFinite) :
    (left.distance right).isNaN = false ∧ 0 ≤ rank (left.distance right) := by
  obtain ⟨leftX, leftY⟩ := isFinite_coordinates leftFinite
  obtain ⟨rightX, rightY⟩ := isFinite_coordinates rightFinite
  exact length_isNumber (left - right) (isRounding_sub leftX rightX).isNumber
    (isRounding_sub leftY rightY).isNumber

/-- A finite point lies exactly at itself: no step of the computation rounds. -/
theorem realValue_distance_self {point : Point} (finite : point.isFinite) :
    realValue (point.distance point) = 0 := by
  obtain ⟨xFinite, yFinite⟩ := isFinite_coordinates finite
  obtain ⟨acrossFinite, across⟩ := (isRounding_sub xFinite xFinite).of_eq_zero (sub_self _)
  obtain ⟨alongFinite, along⟩ := (isRounding_sub yFinite yFinite).of_eq_zero (sub_self _)
  obtain ⟨squareFinite, square⟩ := (isRounding_mul acrossFinite acrossFinite).of_eq_zero
    (by rw [across, mul_zero])
  obtain ⟨otherFinite, other⟩ := (isRounding_mul alongFinite alongFinite).of_eq_zero
    (by rw [along, mul_zero])
  obtain ⟨sumFinite, sum⟩ := (isRounding_add squareFinite otherFinite).of_eq_zero
    (by rw [square, other, add_zero])
  have sumNonneg := gridValue_nonneg_iff.mp sum.ge
  exact ((isRounding_sqrt sumFinite sumNonneg).of_eq_zero (by rw [sum, Real.sqrt_zero])).2

/-- Three rounded steps on the way from a coordinate to a length. -/
theorem abs_le_of_rounded_length {coordinate square sum length : ℝ} (sumNonneg : 0 ≤ sum)
    (squared : coordinate * coordinate ≤ square * (1 + 2 ^ (-24 : ℤ)) + 2 ^ (-150 : ℤ))
    (added : square ≤ sum * (1 + 2 ^ (-24 : ℤ)) + 2 ^ (-150 : ℤ))
    (rooted : √sum ≤ length * (1 + 2 ^ (-24 : ℤ)) + 2 ^ (-150 : ℤ)) :
    |coordinate| ≤ length * (1 + 2 ^ (-24 : ℤ)) ^ 2 + 2 ^ (-73 : ℤ) := by
  have root := Real.sq_sqrt sumNonneg
  have rootNonneg := Real.sqrt_nonneg sum
  generalize √sum = width at *
  have bound : coordinate ^ 2 ≤ (width * (1 + 2 ^ (-24 : ℤ)) + 2 ^ (-74 : ℤ)) ^ 2 := by
    norm_num at squared added ⊢
    nlinarith
  have size : |coordinate| ≤ width * (1 + 2 ^ (-24 : ℤ)) + 2 ^ (-74 : ℤ) :=
    abs_le_of_sq_le_sq bound (add_nonneg (mul_nonneg rootNonneg (by norm_num)) (by norm_num))
  norm_num at size rooted ⊢
  linarith

/-- A finite length is that of finite coordinates and bounds their size. -/
theorem abs_coordinates_le (point : Point) (xNumber : point.x.isNaN = false)
    (yNumber : point.y.isNaN = false) (finite : rank point.length < topRank) :
    point.x.isFinite ∧ point.y.isFinite ∧
      |realValue point.x| ≤ realValue point.length * (1 + 2 ^ (-24 : ℤ)) ^ 2 + 2 ^ (-73 : ℤ) ∧
      |realValue point.y| ≤ realValue point.length * (1 + 2 ^ (-24 : ℤ)) ^ 2 + 2 ^ (-73 : ℤ) := by
  obtain ⟨acrossNumber, acrossNonneg⟩ := square_isNumber xNumber
  obtain ⟨alongNumber, alongNonneg⟩ := square_isNumber yNumber
  obtain ⟨sumNumber, sumNonneg⟩ := sum_isNumber acrossNumber alongNumber acrossNonneg alongNonneg
  -- A step that overflowed would have made every later one infinite.
  obtain ⟨sumFinite, rooted⟩ := (root_cases sumNumber sumNonneg).resolve_right
    fun infinite => finite.ne infinite.rank_eq
  obtain ⟨acrossFinite, alongFinite, added⟩ :=
    (sum_cases acrossNumber alongNumber acrossNonneg alongNonneg).resolve_right
      fun infinite => (lt_topRank_of_isFinite sumFinite).ne infinite.rank_eq
  obtain ⟨xFinite, acrossSquared⟩ := (square_cases xNumber).resolve_right
    fun infinite => (lt_topRank_of_isFinite acrossFinite).ne infinite.rank_eq
  obtain ⟨yFinite, alongSquared⟩ := (square_cases yNumber).resolve_right
    fun infinite => (lt_topRank_of_isFinite alongFinite).ne infinite.rank_eq
  have lengthNonneg := gridValue_nonneg_iff.mpr (length_isNumber point xNumber yNumber).2
  have acrossValue := gridValue_nonneg_iff.mpr acrossNonneg
  have alongValue := gridValue_nonneg_iff.mpr alongNonneg
  have sumValue := gridValue_nonneg_iff.mpr sumNonneg
  have root := rooted.number_le finite lengthNonneg le_rfl
  have sum := added.number_le (lt_topRank_of_isFinite sumFinite) sumValue le_rfl
  have across := acrossSquared.number_le (lt_topRank_of_isFinite acrossFinite) acrossValue le_rfl
  have along := alongSquared.number_le (lt_topRank_of_isFinite alongFinite) alongValue le_rfl
  have acrossShare := (le_add_of_nonneg_right alongValue).trans sum
  have alongShare := (le_add_of_nonneg_left acrossValue).trans sum
  exact ⟨xFinite, yFinite, abs_le_of_rounded_length sumValue across acrossShare root,
    abs_le_of_rounded_length sumValue along alongShare root⟩

/-- Points within a radius of each other are that close along both axes, up to rounding. -/
theorem abs_sub_le_of_distance_le (leftFinite : left.isFinite) (rightFinite : right.isFinite)
    (radiusFinite : radius.isFinite) (within : left.distance right ≤ radius) :
    |realValue left.x - realValue right.x| ≤
        realValue radius * (1 + 2 ^ (-24 : ℤ)) ^ 3 + 2 ^ (-72 : ℤ) ∧
      |realValue left.y - realValue right.y| ≤
        realValue radius * (1 + 2 ^ (-24 : ℤ)) ^ 3 + 2 ^ (-72 : ℤ) := by
  obtain ⟨leftX, leftY⟩ := isFinite_coordinates leftFinite
  obtain ⟨rightX, rightY⟩ := isFinite_coordinates rightFinite
  have across := isRounding_sub leftX rightX
  have along := isRounding_sub leftY rightY
  have ranks := (le_iff.mp within).2.2
  have finite : rank (left - right).length < topRank :=
    ranks.trans_lt (lt_topRank_of_isFinite radiusFinite)
  obtain ⟨xFinite, yFinite, acrossSize, alongSize⟩ :=
    abs_coordinates_le (left - right) across.isNumber along.isNumber finite
  have shorter : realValue (left - right).length ≤ realValue radius := gridValue_le_iff.mpr ranks
  have acrossExact := across.abs_number_le xFinite
  have alongExact := along.abs_number_le yFinite
  change |realValue left.x - realValue right.x| ≤
    |realValue (left - right).x| * _ + _ at acrossExact
  change |realValue left.y - realValue right.y| ≤
    |realValue (left - right).y| * _ + _ at alongExact
  norm_num at acrossSize alongSize acrossExact alongExact ⊢
  constructor <;> linarith

end Point

end RoadGrowth
