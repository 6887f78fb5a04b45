import RoadGrowth.Proofs.Numeric.Nearest

/-!
# Arithmetic rounds once

The result of an operation of the float model on finite values is the exact result
brought to the nearest rank, before packing. A sum and a difference are exact over the
smaller exponent and a product over the sum of both. The root of a whole number is
known by its whole part and what remains.
-/

namespace RoadGrowth.Numeric

open Float.Model (Format UnpackedFloat totalExponent)
open Float.Model.UnpackedFloat

/-- A canonical number is its own rounding. -/
theorem rounded_self {value : UnpackedFloat} (canonical : Canonical value)
    (isNumber : value.isNaN = false) : Rounded (gridValue (unpackedRank value)) value :=
  ⟨canonical, isNumber, nearest_gridValue _⟩

theorem rounded_zero (sign : Sign) : Rounded 0 (.zero sign) := by
  have canonical : Canonical (.zero sign) := trivial
  have zero := rounded_self canonical rfl
  change Rounded (gridValue 0) _ at zero
  rwa [gridValue_zero] at zero

/-! ## Sums -/

theorem decreaseExponent_min_left (mantissa : Nat) (exponent other : Int) :
    ((decreaseExponent mantissa exponent (min exponent other)).1 : ℝ) * 2 ^ (min exponent other) =
      mantissa * 2 ^ exponent := by
  have shifted := shiftLeft_mul_zpow mantissa (exponent - min exponent other).toNat exponent
  rwa [Int.toNat_of_nonneg (by omega), sub_sub_cancel] at shifted

theorem cast_apply (sign : Sign) (mantissa : Nat) :
    ((sign.apply mantissa : Int) : ℝ) = signed sign mantissa := by
  cases sign <;> simp [Sign.apply, signed]

theorem signed_mul (sign : Sign) (left right : ℝ) :
    signed sign left * right = signed sign (left * right) := by
  cases sign <;> simp [signed]

variable {left right : UnpackedFloat}

/-- Both values of a sum or a difference over the smaller exponent. -/
theorem gridValue_over_min {sign : Sign} {mantissa : Nat} {exponent : Int} (other : Int)
    {positive : 0 < mantissa} (canonical : Canonical (.finite sign mantissa exponent positive)) :
    gridValue (unpackedRank (.finite sign mantissa exponent positive)) =
      (sign.apply (decreaseExponent mantissa exponent (min exponent other)).1 : Int) *
        2 ^ (min exponent other) := by
  rw [gridValue_unpackedRank canonical, cast_apply, signed_mul, decreaseExponent_min_left]

theorem rounded_add (leftCanonical : Canonical left) (rightCanonical : Canonical right)
    (leftFinite : left.isFinite) (rightFinite : right.isFinite) :
    Rounded (gridValue (unpackedRank left) + gridValue (unpackedRank right))
      (add Format.binary32 left right) := by
  cases left with
  | notANumber => cases leftFinite
  | infinity => cases leftFinite
  | zero leftSign =>
    change Rounded (gridValue 0 + _) _
    rw [gridValue_zero, zero_add]
    cases right with
    | notANumber => cases rightFinite
    | infinity => cases rightFinite
    | zero rightSign =>
      change Rounded (gridValue 0) _
      rw [gridValue_zero]
      cases leftSign <;> cases rightSign <;> exact rounded_zero _
    | finite => exact rounded_self rightCanonical rfl
  | finite leftSign leftMantissa leftExponent leftPositive =>
    cases right with
    | notANumber => cases rightFinite
    | infinity => cases rightFinite
    | zero =>
      change Rounded (_ + gridValue 0) _
      rw [gridValue_zero, add_zero]
      exact rounded_self leftCanonical rfl
    | finite rightSign rightMantissa rightExponent rightPositive =>
      rw [gridValue_over_min rightExponent leftCanonical,
        gridValue_over_min leftExponent rightCanonical, min_comm rightExponent, ← add_mul,
        ← Int.cast_add]
      exact rounded_normalize _ _ _

/-! ## Differences -/

theorem unpackedRank_neg (value : UnpackedFloat) :
    unpackedRank value.neg = -unpackedRank value := by
  cases value with
  | notANumber | zero => rfl
  | infinity sign => cases sign <;> rfl
  | finite sign => cases sign <;> simp [neg, unpackedRank, Sign.apply]

theorem canonical_neg {value : UnpackedFloat} (canonical : Canonical value) :
    Canonical value.neg := by
  cases value with
  | finite => exact canonical
  | notANumber | infinity | zero => trivial

theorem isFinite_neg {value : UnpackedFloat} (finite : value.isFinite) : value.neg.isFinite := by
  cases value with
  | finite | zero => rfl
  | notANumber | infinity => cases finite

theorem sub_eq_add_opposite (left right : UnpackedFloat) :
    sub Format.binary32 left right = add Format.binary32 left right.neg := by
  cases left with
  | notANumber => rfl
  | infinity leftSign => cases right <;> rfl
  | zero leftSign => cases right <;> rfl
  | finite leftSign leftMantissa leftExponent leftPositive =>
    cases right with
    | notANumber | infinity | zero => rfl
    | finite rightSign rightMantissa rightExponent rightPositive =>
      cases rightSign
      · exact congrArg (fun sum => UnpackedFloat.normalize Format.binary32 sum _ _)
          (sub_neg_eq_add _ _)
      · rfl

theorem rounded_sub (leftCanonical : Canonical left) (rightCanonical : Canonical right)
    (leftFinite : left.isFinite) (rightFinite : right.isFinite) :
    Rounded (gridValue (unpackedRank left) - gridValue (unpackedRank right))
      (sub Format.binary32 left right) := by
  have opposite := rounded_add leftCanonical (canonical_neg rightCanonical) leftFinite
    (isFinite_neg rightFinite)
  rwa [unpackedRank_neg, gridValue_neg, ← sub_eq_add_neg, ← sub_eq_add_opposite] at opposite

/-! ## Products -/

theorem signed_mul_signed (leftSign rightSign : Sign) (left right : ℝ) :
    signed leftSign left * signed rightSign right =
      signed (leftSign * rightSign) (left * right) := by
  cases leftSign <;> cases rightSign
  · exact neg_mul_neg left right
  · exact neg_mul left right
  · exact mul_neg left right
  · rfl

/-- A product of canonical mantissas has enough bits, or its exponent is small. -/
theorem product_enough {leftMantissa rightMantissa : Nat} {leftExponent rightExponent : Int}
    {leftSign rightSign : Sign} {leftPositive : 0 < leftMantissa}
    {rightPositive : 0 < rightMantissa}
    (left : Canonical (.finite leftSign leftMantissa leftExponent leftPositive))
    (right : Canonical (.finite rightSign rightMantissa rightExponent rightPositive)) :
    leftExponent + rightExponent ≤
      max ((leftMantissa * rightMantissa).log2 + (leftExponent + rightExponent) - 23) (-149) := by
  obtain ⟨-, -, leftNormal⟩ := left
  obtain ⟨-, -, rightNormal⟩ := right
  have positive : leftMantissa * rightMantissa ≠ 0 := by positivity
  by_cases large : 2 ^ 23 ≤ leftMantissa * rightMantissa
  · have := (Nat.le_log2 positive).mpr large
    omega
  · have leftSmall : ¬2 ^ 23 ≤ leftMantissa := fun full =>
      large (full.trans (Nat.le_mul_of_pos_right leftMantissa rightPositive))
    have rightSmall : ¬2 ^ 23 ≤ rightMantissa := fun full =>
      large (full.trans (Nat.le_mul_of_pos_left rightMantissa leftPositive))
    omega

theorem rounded_mul (leftCanonical : Canonical left) (rightCanonical : Canonical right)
    (leftFinite : left.isFinite) (rightFinite : right.isFinite) :
    Rounded (gridValue (unpackedRank left) * gridValue (unpackedRank right))
      (mul Format.binary32 left right) := by
  cases left with
  | notANumber => cases leftFinite
  | infinity => cases leftFinite
  | zero leftSign =>
    change Rounded (gridValue 0 * _) _
    rw [gridValue_zero, zero_mul]
    cases right with
    | notANumber => cases rightFinite
    | infinity => cases rightFinite
    | zero | finite => exact rounded_zero _
  | finite leftSign leftMantissa leftExponent leftPositive =>
    cases right with
    | notANumber => cases rightFinite
    | infinity => cases rightFinite
    | zero =>
      change Rounded (_ * gridValue 0) _
      rw [gridValue_zero, mul_zero]
      exact rounded_zero _
    | finite rightSign rightMantissa rightExponent rightPositive =>
      have product : (leftMantissa : ℝ) * 2 ^ leftExponent *
          (rightMantissa * 2 ^ rightExponent) =
          ((leftMantissa * rightMantissa : Nat) : ℝ) * 2 ^ (leftExponent + rightExponent) := by
        rw [zpow_add₀ (by norm_num : (2 : ℝ) ≠ 0), Nat.cast_mul]
        ring
      rw [gridValue_unpackedRank leftCanonical, gridValue_unpackedRank rightCanonical,
        signed_mul_signed, product]
      exact rounded_roundWithAccuracy _ (sub_self _) (product_enough leftCanonical rightCanonical)

/-! ## Roots -/

/-- What the remainder says about the root of a whole number. -/
def rootAccuracy (number : Nat) : Accuracy :=
  let rest := number - number.sqrt * number.sqrt
  if rest = 0 then .exact else .inexact (if rest ≤ number.sqrt then .lt else .gt)

theorem describes_sqrt (number : Nat) :
    Describes (rootAccuracy number) (√(number : ℝ) - number.sqrt) := by
  simp only [rootAccuracy]
  have below : number.sqrt * number.sqrt ≤ number := Nat.sqrt_le number
  have above : number < (number.sqrt + 1) * (number.sqrt + 1) := Nat.lt_succ_sqrt number
  generalize number.sqrt = root at *
  have belowReal : (root : ℝ) * root ≤ number := by exact_mod_cast below
  have aboveReal : (number : ℝ) < (root + 1) * (root + 1) := by exact_mod_cast above
  have rootNonneg : (0 : ℝ) ≤ root := Nat.cast_nonneg root
  have lessThanNext : √(number : ℝ) < root + 1 :=
    (Real.sqrt_lt' (by linarith)).mpr (by rwa [sq])
  split_ifs with perfect near
  · have square : number = root * root := by omega
    rw [Describes, square, Nat.cast_mul, Real.sqrt_mul_self rootNonneg, sub_self]
  · have strict : (root : ℝ) * root < number := by exact_mod_cast (by omega : root * root < number)
    have half : (number : ℝ) ≤ root * root + root := by
      exact_mod_cast (by omega : number ≤ root * root + root)
    have belowMiddle : √(number : ℝ) < root + 1 / 2 := by
      rw [Real.sqrt_lt' (by linarith)]
      nlinarith
    exact ⟨sub_pos.mpr ((Real.lt_sqrt rootNonneg).mpr (by rwa [sq])), by linarith⟩
  · have half : (root : ℝ) * root + root + 1 ≤ number := by
      exact_mod_cast (by omega : root * root + root + 1 ≤ number)
    have aboveMiddle : root + 1 / 2 < √(number : ℝ) := by
      rw [Real.lt_sqrt (by linarith)]
      nlinarith
    exact ⟨by linarith, by linarith⟩

/-- Half of the exponent, or less if the root needs more bits. -/
theorem sqrtCore_eq {mantissa : Nat} (exponent : Int) (positive : 0 < mantissa) :
    ∃ (shift : Nat) (half : Int), exponent = 2 * half + shift ∧
      half ≤ max ((mantissa <<< shift).sqrt.log2 + half - 23) (-149) ∧
      sqrtCore Format.binary32 mantissa exponent =
        ((mantissa <<< shift).sqrt, half, rootAccuracy (mantissa <<< shift)) := by
  let half : Int := min (exponent.ediv 2)
    (Format.binary32.targetExponent ((totalExponent mantissa exponent + 1).ediv 2))
  have halfEq : half = min (exponent / 2)
      (max ((mantissa.log2 + 1 + exponent + 1) / 2 - 24) (-149)) := rfl
  refine ⟨(exponent - 2 * half).toNat, half, by omega, ?_, rfl⟩
  generalize shiftEq : (exponent - 2 * half).toNat = shift
  by_cases low : half ≤ -149
  · omega
  · have bits : 46 ≤ (mantissa <<< shift).log2 := by
      rw [log2_shiftLeft positive]
      omega
    have shiftedPositive : mantissa <<< shift ≠ 0 := by
      intro zero
      rw [zero, Nat.log2_zero] at bits
      omega
    have large : 2 ^ 23 * 2 ^ 23 ≤ mantissa <<< shift := by
      rw [← Nat.pow_add]
      exact (Nat.le_log2 shiftedPositive).mp bits
    have root : 2 ^ 23 ≤ (mantissa <<< shift).sqrt := Nat.le_sqrt.mpr large
    have rootBits := (Nat.le_log2 (by omega)).mpr root
    omega

theorem rounded_sqrt {value : UnpackedFloat} (canonical : Canonical value)
    (finite : value.isFinite) (nonneg : 0 ≤ unpackedRank value) :
    Rounded √(gridValue (unpackedRank value)) (sqrt Format.binary32 value) := by
  cases value with
  | notANumber => cases finite
  | infinity => cases finite
  | zero sign =>
    change Rounded √(gridValue 0) _
    rw [gridValue_zero, Real.sqrt_zero]
    exact rounded_zero sign
  | finite sign mantissa exponent positive =>
    cases sign with
    | negative => exact absurd nonneg (unpackedRank_negative canonical).not_ge
    | positive =>
      obtain ⟨shift, half, exponentEq, enough, core⟩ := sqrtCore_eq exponent positive
      have square : gridValue (unpackedRank (.finite .positive mantissa exponent positive)) =
          (mantissa <<< shift : Nat) * (2 ^ half) ^ 2 := by
        rw [gridValue_unpackedRank canonical, signed, ← shiftLeft_mul_zpow mantissa shift exponent,
          exponentEq, add_sub_cancel_right, ← zpow_natCast, ← zpow_mul, mul_comm half]
        rfl
      have root : √(gridValue (unpackedRank (.finite .positive mantissa exponent positive))) =
          √((mantissa <<< shift : Nat) : ℝ) * 2 ^ half := by
        rw [square, Real.sqrt_mul (Nat.cast_nonneg _), Real.sqrt_sq (zpow_pos (by norm_num) _).le]
      have rounded :=
        rounded_roundWithAccuracy .positive (describes_sqrt (mantissa <<< shift)) enough
      rw [root]
      simp only [UnpackedFloat.sqrt, core]
      exact rounded

end RoadGrowth.Numeric
