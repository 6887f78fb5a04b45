import RoadGrowth.Proofs.Numeric.Overflow

/-!
# Signs and quotients

A sign change mirrors the rank, and the absolute value takes its size. The quotient of
finite singles is the exact quotient brought to the nearest rank, unless the divisor is
zero.
-/

namespace RoadGrowth.Numeric

open Float.Model (Format UnpackedFloat totalExponent)
open Float.Model.UnpackedFloat

variable {single left right : Float32}

/-! ## Signs -/

theorem rank_bounds (single : Float32) : -topRank ≤ rank single ∧ rank single ≤ topRank := by
  unfold rank
  cases unpacked : single.toModel.unpack with
  | notANumber => exact ⟨by decide, by decide⟩
  | zero | infinity => rename_i sign; cases sign <;> exact ⟨by decide, by decide⟩
  | finite =>
    obtain ⟨above, below⟩ := unpackedRank_finite unpacked
    exact ⟨above.le, below.le⟩

theorem clampRank_of_bounds {value : Int} (above : -topRank ≤ value) (below : value ≤ topRank) :
    clampRank value = value := by
  rw [clampRank, min_eq_right below, max_eq_right above]

theorem rank_neg (single : Float32) : rank (-single) = -rank single := by
  have negated : rank (-single) = clampRank (unpackedRank single.toModel.unpack.neg) :=
    unpackedRank_unpack_pack (canonical_neg (canonical_unpack single))
  obtain ⟨above, below⟩ := rank_bounds single
  rw [negated, unpackedRank_neg]
  exact clampRank_of_bounds (neg_le_neg below) (neg_le.mpr above)

theorem isNaN_neg (single : Float32) : (-single).isNaN = single.isNaN := by
  have packed : (-single).isNaN = single.toModel.unpack.neg.isNaN :=
    isNaN_unpack_pack (canonical_neg (canonical_unpack single))
  rw [packed]
  change _ = single.toModel.unpack.isNaN
  cases single.toModel.unpack <;> rfl

theorem realValue_neg (single : Float32) : realValue (-single) = -realValue single := by
  rw [realValue, rank_neg, gridValue_neg, realValue]

theorem isFinite_neg_iff : (-single).isFinite ↔ single.isFinite := by
  rw [isFinite_iff, isFinite_iff, isNaN_neg, rank_neg, neg_lt_neg_iff, neg_lt]
  exact and_congr_right fun _ => and_comm

theorem canonical_abs {value : UnpackedFloat} (canonical : Canonical value) :
    Canonical value.abs := by
  cases value with
  | finite => exact canonical
  | notANumber | infinity | zero => trivial

theorem unpackedRank_abs {value : UnpackedFloat} (canonical : Canonical value) :
    unpackedRank value.abs = |unpackedRank value| := by
  cases value with
  | notANumber | zero => rfl
  | infinity sign => cases sign <;> rfl
  | finite sign mantissa exponent positive =>
    have size : 0 < unpackedRank (.finite .positive mantissa exponent positive) :=
      unpackedRank_positive canonical
    cases sign with
    | positive => exact (abs_of_pos size).symm
    | negative => exact ((abs_neg _).trans (abs_of_pos size)).symm

theorem rank_abs (single : Float32) : rank single.abs = |rank single| := by
  have canonical := canonical_unpack single
  have packed : rank single.abs = clampRank (unpackedRank single.toModel.unpack.abs) :=
    unpackedRank_unpack_pack (canonical_abs canonical)
  obtain ⟨above, below⟩ := rank_bounds single
  rw [packed, unpackedRank_abs canonical]
  exact clampRank_of_bounds ((by decide : -topRank ≤ 0).trans (abs_nonneg _))
    (abs_le.mpr ⟨above, below⟩)

theorem isNaN_abs (single : Float32) : single.abs.isNaN = single.isNaN := by
  have packed : single.abs.isNaN = single.toModel.unpack.abs.isNaN :=
    isNaN_unpack_pack (canonical_abs (canonical_unpack single))
  rw [packed]
  change _ = single.toModel.unpack.isNaN
  cases single.toModel.unpack <;> rfl

/-! ## Quotients -/

theorem signed_div_signed (leftSign rightSign : Sign) (left right : ℝ) :
    signed leftSign left / signed rightSign right =
      signed (leftSign / rightSign) (left / right) := by
  cases leftSign <;> cases rightSign
  · exact neg_div_neg_eq left right
  · exact neg_div right left
  · exact div_neg left
  · rfl

/-- What the remainder says about a quotient. -/
theorem describes_quotient (number : Nat) {divisor : Nat} (positive : 0 < divisor) :
    Describes (accuracyOfFraction (number % divisor) divisor)
      ((number : ℝ) / divisor - (number / divisor : Nat)) := by
  have divisorReal : (0 : ℝ) < divisor := Nat.cast_pos.mpr positive
  have fraction : (number : ℝ) / divisor - (number / divisor : Nat) =
      ((number % divisor : Nat) : ℝ) / divisor := by
    have split : (number : ℝ) = divisor * (number / divisor : Nat) + (number % divisor : Nat) := by
      exact_mod_cast (Nat.div_add_mod number divisor).symm
    rw [sub_eq_iff_eq_add, div_eq_iff divisorReal.ne', add_mul, div_mul_cancel₀ _ divisorReal.ne']
    linarith
  have rest := Nat.mod_lt number positive
  rw [fraction]
  generalize number % divisor = remainder at rest ⊢
  have restReal : (remainder : ℝ) < divisor := Nat.cast_lt.mpr rest
  unfold accuracyOfFraction
  split
  · rename_i none
    rw [none, Nat.cast_zero, zero_div]
    exact rfl
  · rename_i some
    have someReal : (0 : ℝ) < remainder := Nat.cast_pos.mpr (Nat.pos_of_ne_zero some)
    have complement : 1 - (remainder : ℝ) / divisor = (divisor - remainder) / divisor := by
      rw [sub_div, div_self divisorReal.ne']
    rcases lt_trichotomy (2 * remainder) divisor with below | half | above
    · rw [compare_lt_iff_lt.mpr below]
      have belowReal : (2 : ℝ) * remainder < divisor := by exact_mod_cast below
      rw [Describes, complement]
      exact ⟨div_pos someReal divisorReal, div_lt_div_of_pos_right (by linarith) divisorReal⟩
    · rw [compare_eq_iff_eq.mpr half]
      have halfReal : (2 : ℝ) * remainder = divisor := by exact_mod_cast half
      rw [Describes, complement]
      congr 1
      linarith
    · rw [compare_gt_iff_gt.mpr above]
      have aboveReal : (divisor : ℝ) < 2 * remainder := by exact_mod_cast above
      rw [Describes, complement]
      exact ⟨div_lt_div_of_pos_right (by linarith) divisorReal, (div_lt_one divisorReal).mpr restReal⟩

/-- The quotient of the mantissas, the left one shifted, has enough bits or a small exponent. -/
theorem divCore_eq {leftMantissa rightMantissa : Nat} (leftExponent rightExponent : Int)
    (leftPositive : 0 < leftMantissa) (rightPositive : 0 < rightMantissa) :
    ∃ (shift : Nat) (exponent : Int), leftExponent - rightExponent = exponent + shift ∧
      exponent ≤ max (((leftMantissa <<< shift) / rightMantissa).log2 + exponent - 23) (-149) ∧
      divCore Format.binary32 leftMantissa leftExponent rightMantissa rightExponent =
        ((leftMantissa <<< shift) / rightMantissa, exponent,
          accuracyOfFraction ((leftMantissa <<< shift) % rightMantissa) rightMantissa) := by
  let exponent : Int := min (leftExponent - rightExponent)
    (Format.binary32.targetExponent
      (totalExponent leftMantissa leftExponent - totalExponent rightMantissa rightExponent))
  have exponentEq : exponent = min (leftExponent - rightExponent)
      (max (leftMantissa.log2 + 1 + leftExponent - (rightMantissa.log2 + 1 + rightExponent) - 24)
        (-149)) := rfl
  refine ⟨(leftExponent - rightExponent - exponent).toNat, exponent, by omega, ?_, rfl⟩
  generalize shiftEq : (leftExponent - rightExponent - exponent).toNat = shift
  by_cases low : exponent ≤ -149
  · omega
  · have bits : rightMantissa.log2 + 1 + 23 ≤ (leftMantissa <<< shift).log2 := by
      rw [log2_shiftLeft leftPositive]
      omega
    have shifted : leftMantissa <<< shift ≠ 0 := by
      rw [Nat.shiftLeft_eq]
      positivity
    have divisor : rightMantissa ≤ 2 ^ (rightMantissa.log2 + 1) := Nat.lt_log2_self.le
    have large : 2 ^ 23 ≤ (leftMantissa <<< shift) / rightMantissa := by
      rw [Nat.le_div_iff_mul_le rightPositive]
      calc 2 ^ 23 * rightMantissa ≤ 2 ^ 23 * 2 ^ (rightMantissa.log2 + 1) :=
            Nat.mul_le_mul_left _ divisor
        _ = 2 ^ (rightMantissa.log2 + 1 + 23) := by rw [← Nat.pow_add, Nat.add_comm]
        _ ≤ leftMantissa <<< shift := (Nat.le_log2 shifted).mp bits
    have quotientBits := (Nat.le_log2 (by omega)).mpr large
    omega

theorem rounded_div {left right : UnpackedFloat} (leftCanonical : Canonical left)
    (rightCanonical : Canonical right) (leftFinite : left.isFinite) (rightFinite : right.isFinite)
    (divides : unpackedRank right ≠ 0) :
    Rounded (gridValue (unpackedRank left) / gridValue (unpackedRank right))
      (div Format.binary32 left right) := by
  cases right with
  | notANumber | infinity => cases rightFinite
  | zero => exact absurd rfl divides
  | finite rightSign rightMantissa rightExponent rightPositive =>
    cases left with
    | notANumber | infinity => cases leftFinite
    | zero =>
      change Rounded (gridValue 0 / _) _
      rw [gridValue_zero, zero_div]
      exact rounded_zero _
    | finite leftSign leftMantissa leftExponent leftPositive =>
      obtain ⟨shift, exponent, exponentEq, enough, core⟩ :=
        divCore_eq leftExponent rightExponent leftPositive rightPositive
      have quotient : (leftMantissa : ℝ) * 2 ^ leftExponent / (rightMantissa * 2 ^ rightExponent) =
          ((leftMantissa <<< shift : Nat) : ℝ) / rightMantissa * 2 ^ exponent := by
        rw [mul_div_mul_comm, ← zpow_sub₀ (by norm_num : (2 : ℝ) ≠ 0), exponentEq,
          zpow_add₀ (by norm_num : (2 : ℝ) ≠ 0), zpow_natCast, Nat.shiftLeft_eq]
        push_cast
        ring
      rw [gridValue_unpackedRank leftCanonical, gridValue_unpackedRank rightCanonical,
        signed_div_signed, quotient]
      have rounded := rounded_roundWithAccuracy (leftSign / rightSign)
        (describes_quotient (leftMantissa <<< shift) rightPositive) enough
      simp only [UnpackedFloat.div, core]
      exact rounded

theorem isRounding_div (leftFinite : left.isFinite) (rightFinite : right.isFinite)
    (divides : rank right ≠ 0) :
    IsRounding (realValue left / realValue right) (left / right) :=
  (rounded_div (canonical_unpack left) (canonical_unpack right) leftFinite rightFinite divides).pack

/-- Counts of at most 24 bits have the nearest single to their quotient. -/
theorem isRounding_quotient {part whole : Nat} (inside : part ≤ whole) (positive : 0 < whole)
    (small : whole ≤ 2 ^ 24) :
    IsRounding ((part : ℝ) / whole) (singleOfCount part / singleOfCount whole) := by
  have wholeValue := realValue_singleOfCount small
  have partValue := realValue_singleOfCount (inside.trans small)
  have partFinite := (isRounding_singleOfCount part).isFinite_natCast (inside.trans small)
  have wholeFinite := (isRounding_singleOfCount whole).isFinite_natCast small
  have divides : rank (singleOfCount whole) ≠ 0 := by
    intro zero
    rw [realValue, zero, gridValue_zero] at wholeValue
    exact positive.ne (by exact_mod_cast wholeValue)
  have rounding := isRounding_div partFinite wholeFinite divides
  rwa [partValue, wholeValue] at rounding

/-- A finite single does not divide an infinity into anything finite. -/
theorem not_isFinite_div (isNumber : left.isNaN = false) (infinite : ¬left.isFinite)
    (rightFinite : right.isFinite) : ¬(left / right).isFinite := by
  obtain ⟨sign, unpacked⟩ := unpack_of_not_isFinite isNumber infinite
  change right.toModel.unpack.isFinite at rightFinite
  have quotient : ∃ other, UnpackedFloat.div Format.binary32 (.infinity sign)
      right.toModel.unpack = .infinity other := by
    cases unpackedRight : right.toModel.unpack with
    | notANumber | infinity =>
      rw [unpackedRight] at rightFinite
      cases rightFinite
    | zero | finite => exact ⟨_, rfl⟩
  obtain ⟨other, quotient⟩ := quotient
  change ¬(Float32.ofModel (.pack (UnpackedFloat.div Format.binary32 left.toModel.unpack
    right.toModel.unpack))).isFinite
  rw [unpacked, quotient]
  cases other <;> decide

end RoadGrowth.Numeric
