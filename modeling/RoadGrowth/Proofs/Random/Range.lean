import RoadGrowth.Plane.Heading
import RoadGrowth.Proofs.Numeric.Division
import RoadGrowth.Proofs.Numeric.Order
import RoadGrowth.Turtle.Jitter

/-!
# Limits that a random range has

A range to either side of zero has a scale as long as twice its limit, brought to the
nearest single and divided by the largest unit, stays below infinity. That is so up to
one limit, a little below half of the largest single, whatever the word. A limit given
in degrees always lies below it.
-/

namespace RoadGrowth

open Numeric
open Float.Model (Format)
open Float.Model.UnpackedFloat

namespace Random

/-- The largest limit of a range: `2 ^ 127 - 3 * 2 ^ 103`. -/
def widestLimit : Float32 := Float32.ofBits 0x7efffffd

theorem rank_widestLimit : rank widestLimit = 0x7efffffd := by decide +kernel

theorem realValue_widestLimit : realValue widestLimit = (2 ^ 24 - 3) * 2 ^ (103 : ℤ) := by
  have scaled : (0x7efffffd : Int) = (2 ^ 24 - 3 : Nat) + ((103 : Int) + 149) * 2 ^ 23 := rfl
  rw [realValue, rank_widestLimit, gridValue_of_eq scaled (by decide)]
  norm_num

theorem le_widestLimit_iff {limit : Float32} :
    limit ≤ widestLimit ↔ limit.isNaN = false ∧ rank limit ≤ 0x7efffffd := by
  have isNumber : widestLimit.isNaN = false := by decide +kernel
  rw [le_iff, rank_widestLimit]
  exact ⟨fun ⟨number, _, bound⟩ => ⟨number, bound⟩, fun ⟨number, bound⟩ => ⟨number, isNumber, bound⟩⟩

theorem isFinite_largestUnit : largestUnit.isFinite := by decide +kernel

theorem realValue_largestUnit : realValue largestUnit = 1 - 2 ^ (-23 : ℤ) := by
  have rankEq : rank largestUnit = (2 ^ 24 - 2 : Nat) + ((-24 : Int) + 149) * 2 ^ 23 := by
    decide +kernel
  rw [realValue, gridValue_of_eq rankEq (by decide)]
  norm_num

/-- The width of a range, from which its scale is made. -/
def width (limit : Float32) : Float32 := limit - -limit

variable {limit : Float32}

theorem isRounding_width (finite : limit.isFinite) :
    IsRounding (2 * realValue limit) (width limit) := by
  have rounding := isRounding_sub finite (isFinite_neg_iff.mpr finite)
  rwa [realValue_neg, sub_neg_eq_add, ← two_mul] at rounding

/-- Up to the largest limit the width is finite and leaves room for the division. -/
theorem width_of_le (finite : limit.isFinite) (nonneg : 0 ≤ rank limit)
    (bounded : rank limit ≤ 0x7efffffd) :
    (width limit).isFinite ∧ 0 ≤ realValue (width limit) ∧
      realValue (width limit) ≤ (2 ^ 24 - 3) * 2 ^ (104 : ℤ) := by
  have rounding := isRounding_width finite
  have twice : gridValue 0x7f7ffffd = (2 ^ 24 - 3) * 2 ^ (104 : ℤ) := by
    have scaled : (0x7f7ffffd : Int) = (2 ^ 24 - 3 : Nat) + ((104 : Int) + 149) * 2 ^ 23 := rfl
    rw [gridValue_of_eq scaled (by decide)]
    norm_num
  have value : realValue limit ≤ (2 ^ 24 - 3) * 2 ^ (103 : ℤ) := by
    rw [← realValue_widestLimit, realValue, realValue, rank_widestLimit]
    exact gridValue_le_iff.mpr bounded
  have rankNonneg : 0 ≤ rank (width limit) :=
    rounding.rank_nonneg (mul_nonneg two_pos.le (gridValue_nonneg_iff.mpr nonneg))
  have rankLe : rank (width limit) ≤ 0x7f7ffffd := by
    refine rounding.rank_le ?_ (by decide)
    rw [twice]
    norm_num at value ⊢
    linarith
  refine ⟨(isFinite_iff _).mpr ⟨rounding.isNumber, ?_, ?_⟩, gridValue_nonneg_iff.mpr rankNonneg,
    twice ▸ gridValue_le_iff.mpr rankLe⟩ <;> rw [topRank] <;> omega

/-- Beyond the largest limit the width is infinite, or too large for the division. -/
theorem width_of_gt (isNumber : limit.isNaN = false) (beyond : 0x7efffffe ≤ rank limit) :
    (width limit).isNaN = false ∧
      ((width limit).isFinite → (2 ^ 24 - 2) * 2 ^ (104 : ℤ) ≤ realValue (width limit)) := by
  by_cases finite : limit.isFinite
  · have rounding := isRounding_width finite
    refine ⟨rounding.isNumber, fun _ => ?_⟩
    have twice : gridValue 0x7f7ffffe = (2 ^ 24 - 2) * 2 ^ (104 : ℤ) := by
      have scaled : (0x7f7ffffe : Int) = (2 ^ 24 - 2 : Nat) + ((104 : Int) + 149) * 2 ^ 23 := rfl
      rw [gridValue_of_eq scaled (by decide)]
      norm_num
    have half : gridValue 0x7efffffe = (2 ^ 24 - 2) * 2 ^ (103 : ℤ) := by
      have scaled : (0x7efffffe : Int) = (2 ^ 24 - 2 : Nat) + ((103 : Int) + 149) * 2 ^ 23 := rfl
      rw [gridValue_of_eq scaled (by decide)]
      norm_num
    have value : (2 ^ 24 - 2) * 2 ^ (103 : ℤ) ≤ realValue limit :=
      half ▸ gridValue_le_iff.mpr beyond
    have rankLe : 0x7f7ffffe ≤ rank (width limit) := by
      refine rounding.le_rank ?_ (by decide)
      rw [twice]
      norm_num at value ⊢
      linarith
    exact twice ▸ gridValue_le_iff.mpr rankLe
  · have unpacked := unpack_of_nonneg isNumber (by omega) finite
    have infinite : width limit = .ofModel (.pack (.infinity .positive)) := by
      change Float32.ofModel (.pack (sub Format.binary32 limit.toModel.unpack
        (unpack Format.binary32 (pack Format.binary32 limit.toModel.unpack.neg)))) = _
      rw [unpacked]
      rfl
    rw [infinite]
    refine ⟨rfl, fun finite => absurd finite (by decide)⟩

/-- The scale of a range is finite exactly up to the largest limit. -/
theorem isFinite_scale_iff (isNumber : limit.isNaN = false) (nonneg : 0 ≤ rank limit) :
    (width limit / largestUnit).isFinite ↔ limit ≤ widestLimit := by
  have divides : rank largestUnit ≠ 0 := by decide +kernel
  rw [le_widestLimit_iff]
  refine ⟨fun finite => ⟨isNumber, ?_⟩, fun ⟨_, bounded⟩ => ?_⟩
  · by_contra beyond
    obtain ⟨widthNumber, widthLarge⟩ := width_of_gt isNumber (by omega)
    by_cases widthFinite : (width limit).isFinite
    · refine (isRounding_div widthFinite isFinite_largestUnit divides).not_isFinite ?_ finite
      have large := widthLarge widthFinite
      rw [realValue_largestUnit, lt_div_iff₀ (by norm_num)]
      norm_num at large ⊢
      linarith
    · exact not_isFinite_div widthNumber widthFinite isFinite_largestUnit finite
  · have finite : limit.isFinite :=
      (isFinite_iff limit).mpr ⟨isNumber, by rw [topRank]; omega, by rw [topRank]; omega⟩
    obtain ⟨widthFinite, widthNonneg, widthLe⟩ := width_of_le finite nonneg bounded
    refine (isRounding_div widthFinite isFinite_largestUnit divides).isFinite ?_
    rw [realValue_largestUnit, abs_of_nonneg (div_nonneg widthNonneg (by norm_num)),
      div_lt_iff₀ (by norm_num)]
    norm_num at widthLe ⊢
    linarith

/-- A range has a value for every word exactly up to the largest limit. -/
theorem symmetric_eq (nonneg : 0 ≤ rank limit) (word : UInt32) :
    (limit ≤ widestLimit → ∃ value, symmetric limit word = .ok value) ∧
      (¬limit ≤ widestLimit → symmetric limit word = .error .unboundedRange) := by
  unfold symmetric
  cases isNumber : limit.isNaN with
  | true =>
    have unbounded : ¬limit ≤ widestLimit := by
      rw [le_widestLimit_iff, isNumber]
      simp
    exact ⟨fun bounded => absurd bounded unbounded, fun _ => rfl⟩
  | false =>
    rw [← isFinite_scale_iff isNumber nonneg]
    change (_ → ∃ value, (if (width limit / largestUnit).isFinite then _ else _) = _) ∧
      (_ → (if (width limit / largestUnit).isFinite then _ else _) = _)
    refine ⟨fun finite => ?_, fun infinite => if_neg infinite⟩
    rw [if_pos finite]
    exact ⟨_, rfl⟩

end Random

open RoadGrowth.Random

/-- A jitter has an offset at every site exactly up to the largest limit. -/
theorem jitterAt_eq (seed site : UInt64) (limit : Float32) :
    (limit.abs ≤ widestLimit → ∃ offset, jitterAt seed site limit = .ok offset) ∧
      (¬limit.abs ≤ widestLimit → jitterAt seed site limit = .error .unboundedRange) := by
  have nonneg : 0 ≤ rank limit.abs := by
    rw [rank_abs]
    exact abs_nonneg _
  unfold jitterAt
  split
  · rename_i zero
    refine ⟨fun _ => ⟨_, rfl⟩, fun unbounded => absurd ?_ unbounded⟩
    obtain ⟨isNumber, -, same⟩ := beq_iff.mp zero
    have none : rank (0.0 : Float32) = 0 := by decide +kernel
    rw [le_widestLimit_iff]
    exact ⟨isNumber, by omega⟩
  · exact symmetric_eq nonneg _

/-- An angle given in degrees lies far below the largest limit. -/
theorem abs_radians_le {degrees : Float32} (finite : degrees.isFinite) :
    (radians degrees).abs ≤ widestLimit := by
  have factorFinite : (Float32.ofBits 0x3c8efa35).isFinite := by decide +kernel
  have rounding : IsRounding _ (radians degrees) := isRounding_mul finite factorFinite
  have factor : |realValue (Float32.ofBits 0x3c8efa35)| ≤ 1 / 4 := by
    have quarter : gridValue 0x3e800000 = 1 / 4 := by
      have scaled : (0x3e800000 : Int) = (2 ^ 23 : Nat) + ((-25 : Int) + 149) * 2 ^ 23 := rfl
      rw [gridValue_of_eq scaled (by decide)]
      norm_num
    have rankEq : rank (Float32.ofBits 0x3c8efa35) = 0x3c8efa35 := by decide +kernel
    rw [realValue, rankEq, abs_of_nonneg (gridValue_nonneg_iff.mpr (by decide)), ← quarter]
    exact gridValue_le_iff.mpr (by decide)
  have size : |realValue degrees * realValue (Float32.ofBits 0x3c8efa35)| ≤
      gridValue 0x7efffffd := by
    rw [← rank_widestLimit, ← realValue, realValue_widestLimit, abs_mul]
    have product := mul_le_mul (abs_realValue_le finite) factor (abs_nonneg _) (by norm_num)
    norm_num at product ⊢
    linarith
  obtain ⟨above, below⟩ := abs_le.mp size
  rw [← gridValue_neg] at above
  rw [le_widestLimit_iff, isNaN_abs, rank_abs, abs_le]
  exact ⟨rounding.isNumber, rounding.le_rank above (by decide), rounding.rank_le below (by decide)⟩

end RoadGrowth
