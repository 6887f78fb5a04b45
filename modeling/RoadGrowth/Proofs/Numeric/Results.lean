import RoadGrowth.Numeric.Rounding
import RoadGrowth.Proofs.Numeric.Arithmetic
import RoadGrowth.Proofs.Numeric.Order

/-!
# Results of operations

An operation on finite singles gives the exact result brought to the nearest rank, at
most to that of infinity, and never NaN. A bound on the result is one on the exact
result, up to the share that rounding may add or take away. Whole numbers of at most 24
bits are converted exactly.
-/

namespace RoadGrowth.Numeric

open Float.Model (Format UnpackedFloat)
open Float.Model.UnpackedFloat

/-- The bound between the largest finite single and infinity. -/
theorem midpoint_largest : midpoint (topRank - 1) = 2 ^ 128 - 2 ^ 103 := by
  rw [midpoint, sub_add_cancel, gridValue_topRank, gridValue_largest]
  norm_num

/-- A single is a number brought to the nearest rank. -/
structure IsRounding (number : ℝ) (single : Float32) : Prop where
  isNumber : single.isNaN = false
  rounded : ∃ nearest, Nearest number nearest ∧ rank single = clampRank nearest

namespace IsRounding

variable {number other : ℝ} {single otherSingle : Float32}

theorem mono (rounding : IsRounding number single) (otherRounding : IsRounding other otherSingle)
    (ordered : number ≤ other) : rank single ≤ rank otherSingle := by
  obtain ⟨-, nearest, isNearest, rankEq⟩ := rounding
  obtain ⟨-, otherNearest, otherIsNearest, otherRankEq⟩ := otherRounding
  have ranks := isNearest.mono otherIsNearest ordered
  rw [rankEq, otherRankEq, clampRank, clampRank]
  omega

theorem rank_nonneg (rounding : IsRounding number single) (nonneg : 0 ≤ number) :
    0 ≤ rank single := by
  obtain ⟨-, nearest, isNearest, rankEq⟩ := rounding
  rw [← gridValue_zero] at nonneg
  have ranks := (nearest_gridValue 0).mono isNearest nonneg
  rw [rankEq, clampRank, topRank]
  omega

/-- A number at most a value of the grid is rounded to its rank at most. -/
theorem rank_le (rounding : IsRounding number single) {value : Int}
    (bounded : number ≤ gridValue value) (above : -topRank ≤ value) : rank single ≤ value := by
  obtain ⟨-, nearest, isNearest, rankEq⟩ := rounding
  have ranks := isNearest.mono (nearest_gridValue value) bounded
  rw [rankEq, clampRank]
  omega

/-- A number at least a value of the grid is rounded to its rank at least. -/
theorem le_rank (rounding : IsRounding number single) {value : Int}
    (bounded : gridValue value ≤ number) (below : value ≤ topRank) : value ≤ rank single := by
  obtain ⟨-, nearest, isNearest, rankEq⟩ := rounding
  have ranks := (nearest_gridValue value).mono isNearest bounded
  rw [rankEq, clampRank]
  omega

/-- A number at least a power of two is rounded to a single at least as large. -/
theorem two_zpow_le (rounding : IsRounding number single) {exponent : Int}
    (bounded : 2 ^ exponent ≤ number) (lowest : -126 ≤ exponent) (highest : exponent ≤ 128) :
    2 ^ exponent ≤ realValue single := by
  rw [← gridValue_two_zpow lowest] at bounded ⊢
  refine gridValue_le_iff.mpr (rounding.le_rank bounded ?_)
  rw [topRank]
  omega

/-- A value of the grid is met exactly. -/
theorem realValue_eq {value : Int} (rounding : IsRounding (gridValue value) single)
    (above : -topRank ≤ value) (below : value ≤ topRank) : realValue single = gridValue value := by
  obtain ⟨-, nearest, isNearest, rankEq⟩ := rounding
  obtain rfl := isNearest.unique (nearest_gridValue value)
  rw [realValue, rankEq, clampRank, min_eq_right below, max_eq_right above]

/-- The number is at most a bound of the single, up to rounding, unless the single is infinite. -/
theorem number_le (rounding : IsRounding number single) (finite : rank single < topRank)
    {bound : ℝ} (nonneg : 0 ≤ bound) (bounded : realValue single ≤ bound) :
    number ≤ bound * (1 + 2 ^ (-24 : ℤ)) + 2 ^ (-150 : ℤ) := by
  obtain ⟨-, nearest, isNearest, rankEq⟩ := rounding
  have ordered : nearest ≤ rank single := by
    rw [rankEq, clampRank] at finite ⊢
    omega
  have share : (0 : ℝ) ≤ bound * 2 ^ (-24 : ℤ) := mul_nonneg nonneg (by norm_num)
  have spacing : (0 : ℝ) ≤ 2 ^ (-150 : ℤ) := by norm_num
  by_cases negative : nearest < 0
  · have below : number < 0 := by
      by_contra notBelow
      have ranks := (nearest_gridValue 0).mono isNearest (by rw [gridValue_zero]; linarith)
      omega
    linarith
  · have close := isNearest.le_of_nonneg (by omega)
    have values : gridValue nearest ≤ bound := (gridValue_le_iff.mpr ordered).trans bounded
    have scaled := mul_le_mul_of_nonneg_right values (by norm_num : (0 : ℝ) ≤ 1 + 2 ^ (-24 : ℤ))
    linarith

/-- The number is at least a positive bound of the single, up to rounding. -/
theorem le_number (rounding : IsRounding number single) {bound : ℝ} (positive : 0 < bound)
    (bounded : bound ≤ realValue single) :
    bound * (1 - 2 ^ (-24 : ℤ)) - 2 ^ (-150 : ℤ) ≤ number := by
  obtain ⟨-, nearest, isNearest, rankEq⟩ := rounding
  have rankPositive : 0 < rank single := by
    rw [← gridValue_lt_iff, gridValue_zero]
    exact positive.trans_le bounded
  have ordered : rank single ≤ nearest := by
    rw [rankEq, clampRank, topRank] at rankPositive ⊢
    omega
  have close := isNearest.ge_of_pos (rankPositive.trans_le ordered)
  have values : bound ≤ gridValue nearest := bounded.trans (gridValue_le_iff.mpr ordered)
  norm_num at close ⊢
  linarith

/-- The size of the number is that of a finite single, up to rounding. -/
theorem abs_number_le (rounding : IsRounding number single) (finite : single.isFinite) :
    |number| ≤ |realValue single| * (1 + 2 ^ (-24 : ℤ)) + 2 ^ (-150 : ℤ) := by
  obtain ⟨-, nearest, isNearest, rankEq⟩ := rounding
  obtain ⟨-, above, below⟩ := (isFinite_iff single).mp finite
  have same : rank single = nearest := by
    rw [rankEq, clampRank] at above below ⊢
    omega
  rw [realValue, same]
  exact isNearest.abs_number_le

/-- A number that is not too large is rounded to a finite single. -/
theorem isFinite (rounding : IsRounding number single) (small : |number| < 2 ^ 128 - 2 ^ 103) :
    single.isFinite := by
  obtain ⟨isNumber, nearest, isNearest, rankEq⟩ := rounding
  rw [← midpoint_largest, abs_lt] at small
  have below : nearest < topRank := by
    by_contra notBelow
    have reached : midpoint (topRank - 1) ≤ midpoint (nearest - 1) :=
      midpoint_strictMono.monotone (by omega)
    linarith [isNearest.lower]
  have above : -topRank < nearest := by
    by_contra notAbove
    have reached : midpoint nearest ≤ midpoint (-topRank) :=
      midpoint_strictMono.monotone (by omega)
    have mirrored := midpoint_neg (topRank - 1)
    rw [neg_sub, sub_sub_cancel_left] at mirrored
    linarith [isNearest.upper]
  refine (isFinite_iff single).mpr ⟨isNumber, ?_, ?_⟩ <;> rw [rankEq, clampRank] <;> omega

/-- Zero is rounded to zero. -/
theorem of_eq_zero (rounding : IsRounding number single) (zero : number = 0) :
    single.isFinite ∧ realValue single = 0 := by
  subst zero
  have finite := rounding.isFinite (by norm_num)
  rw [← gridValue_zero] at rounding
  exact ⟨finite, (rounding.realValue_eq (by decide) (by decide)).trans gridValue_zero⟩

/-- A number that is too large is rounded to an infinity. -/
theorem not_isFinite (rounding : IsRounding number single) (large : 2 ^ 128 - 2 ^ 103 < number) :
    ¬single.isFinite := by
  obtain ⟨-, nearest, isNearest, rankEq⟩ := rounding
  intro finite
  obtain ⟨-, -, below⟩ := (isFinite_iff single).mp finite
  have reached : topRank ≤ nearest := by
    by_contra before
    have bound : midpoint nearest ≤ midpoint (topRank - 1) :=
      midpoint_strictMono.monotone (by omega)
    rw [midpoint_largest] at bound
    linarith [isNearest.upper]
  rw [rankEq, clampRank, min_eq_left reached] at below
  omega

end IsRounding

/-- The size of a finite single. -/
theorem abs_realValue_le {single : Float32} (finite : single.isFinite) :
    |realValue single| ≤ 2 ^ 128 - 2 ^ 104 := by
  obtain ⟨-, above, below⟩ := (isFinite_iff single).mp finite
  rw [← gridValue_largest, abs_le, ← gridValue_neg]
  exact ⟨gridValue_le_iff.mpr (by omega), gridValue_le_iff.mpr (by omega)⟩

/-- A whole number of at most 24 bits is a value of the grid. -/
theorem exists_gridValue_natCast {count : Nat} (small : count ≤ 2 ^ 24) :
    ∃ value, gridValue value = count ∧ -topRank ≤ value ∧ value ≤ topRank := by
  rcases Nat.eq_zero_or_pos count with rfl | positive
  · refine ⟨0, ?_, ?_, ?_⟩
    · rw [gridValue_zero, Nat.cast_zero]
    · decide
    · decide
  · have bits := log2_shiftLeft positive (23 - count.log2)
    have nonzero : count <<< (23 - count.log2) ≠ 0 := by
      rw [Nat.shiftLeft_eq]
      positivity
    have normal : 2 ^ 23 ≤ count <<< (23 - count.log2) :=
      (Nat.le_log2 nonzero).mp (by omega)
    have fits : count <<< (23 - count.log2) ≤ 2 ^ 24 := by
      rcases Nat.lt_or_eq_of_le small with below | top
      · have := (Nat.log2_lt (Nat.ne_of_gt positive)).mpr below
        exact ((Nat.log2_lt nonzero).mp (by omega)).le
      · rw [top, Nat.log2_two_pow]
        rfl
    have lowest : -149 ≤ (0 : Int) - (23 - count.log2 : Nat) := by omega
    have scaled := gridValue_scaled fits lowest (.inl normal)
    rw [shiftLeft_mul_zpow, zpow_zero, mul_one] at scaled
    refine ⟨_, scaled, ?_, ?_⟩ <;> rw [topRank] <;> omega

theorem IsRounding.realValue_natCast {count : Nat} {single : Float32}
    (rounding : IsRounding count single) (small : count ≤ 2 ^ 24) : realValue single = count := by
  obtain ⟨value, valueEq, above, below⟩ := exists_gridValue_natCast small
  rw [← valueEq] at rounding ⊢
  exact rounding.realValue_eq above below

theorem IsRounding.isFinite_natCast {count : Nat} {single : Float32}
    (rounding : IsRounding count single) (small : count ≤ 2 ^ 24) : single.isFinite := by
  refine rounding.isFinite ?_
  have bound : (count : ℝ) ≤ 2 ^ 24 := by exact_mod_cast small
  rw [abs_of_nonneg (Nat.cast_nonneg _)]
  norm_num at bound ⊢
  linarith

theorem rank_zero : rank 0.0 = 0 := by decide

theorem realValue_zero : realValue 0.0 = 0 := by
  rw [realValue, rank_zero, gridValue_zero]

theorem realValue_one : realValue 1.0 = 1 := by
  have form : rank 1.0 = (2 ^ 23 : Nat) + ((-23 : Int) + 149) * 2 ^ 23 := by decide +kernel
  rw [realValue, form, gridValue_scaled (by decide) (by decide) (.inl le_rfl)]
  norm_num

/-! ## Operations on singles -/

theorem Rounded.pack {number : ℝ} {value : UnpackedFloat} (rounded : Rounded number value) :
    IsRounding number (.ofModel (.pack value)) where
  isNumber := (isNaN_unpack_pack rounded.canonical).trans rounded.isNumber
  rounded := ⟨_, rounded.nearest, unpackedRank_unpack_pack rounded.canonical⟩

variable {left right : Float32}

theorem isRounding_add (leftFinite : left.isFinite) (rightFinite : right.isFinite) :
    IsRounding (realValue left + realValue right) (left + right) :=
  (rounded_add (canonical_unpack left) (canonical_unpack right) leftFinite rightFinite).pack

theorem isRounding_sub (leftFinite : left.isFinite) (rightFinite : right.isFinite) :
    IsRounding (realValue left - realValue right) (left - right) :=
  (rounded_sub (canonical_unpack left) (canonical_unpack right) leftFinite rightFinite).pack

theorem isRounding_mul (leftFinite : left.isFinite) (rightFinite : right.isFinite) :
    IsRounding (realValue left * realValue right) (left * right) :=
  (rounded_mul (canonical_unpack left) (canonical_unpack right) leftFinite rightFinite).pack

theorem isRounding_sqrt {single : Float32} (finite : single.isFinite) (nonneg : 0 ≤ rank single) :
    IsRounding √(realValue single) single.sqrt :=
  (rounded_sqrt (canonical_unpack single) finite nonneg).pack

theorem isRounding_ofUInt32 (count : UInt32) : IsRounding count.toNat count.toFloat32 := by
  have rounded := rounded_normalize count.toNat 0 .positive
  rw [zpow_zero, mul_one, Int.cast_natCast] at rounded
  exact rounded.pack

theorem isRounding_singleOfCount (count : Nat) : IsRounding count (singleOfCount count) := by
  refine Rounded.pack ?_
  rcases Nat.eq_zero_or_pos count with rfl | positive
  · rw [Nat.cast_zero]
    exact rounded_zero .positive
  · have unfolded : Binary.round Format.binary32 ⟨count, 0⟩ =
        UnpackedFloat.round Format.binary32 .positive count 0 := by
      rw [Binary.round, if_neg (Int.natCast_ne_zero.mpr positive.ne'),
        if_neg (Int.natCast_nonneg count).not_gt]
      rfl
    have rounded := rounded_round .positive positive 0
    rw [zpow_zero, mul_one, signed] at rounded
    rwa [unfolded]

/-- A whole number of at most 24 bits is converted exactly. -/
theorem realValue_ofUInt32 {count : UInt32} (small : count.toNat ≤ 2 ^ 24) :
    realValue count.toFloat32 = count.toNat :=
  (isRounding_ofUInt32 count).realValue_natCast small

theorem isFinite_ofUInt32 {count : UInt32} (small : count.toNat ≤ 2 ^ 24) :
    count.toFloat32.isFinite :=
  (isRounding_ofUInt32 count).isFinite_natCast small

theorem realValue_singleOfCount {count : Nat} (small : count ≤ 2 ^ 24) :
    realValue (singleOfCount count) = count :=
  (isRounding_singleOfCount count).realValue_natCast small

end RoadGrowth.Numeric
