import RoadGrowth.Proofs.Numeric.Single

/-!
# Rounding goes to the nearest rank

An extended mantissa stands for a number of which it knows the whole part and whether
the rest is nearer to zero or to one. Shifting keeps what is known. So the rounding of
the float model, which shifts, rounds and carries, ends at a rank nearest to the
number that was given. Overflow is left to packing.
-/

namespace RoadGrowth.Numeric

open Float.Model (Format UnpackedFloat totalExponent)
open Float.Model.UnpackedFloat

/-- What an accuracy says about the part of a number behind its whole part. -/
def Describes : Accuracy → ℝ → Prop
  | .exact, rest => rest = 0
  | .inexact .lt, rest => 0 < rest ∧ rest < 1 - rest
  | .inexact .eq, rest => rest = 1 - rest
  | .inexact .gt, rest => 1 - rest < rest ∧ rest < 1

/-- An extended mantissa agrees with a number. -/
def StandsFor (extended : ExtendedMantissa) (number : ℝ) : Prop :=
  Describes extended.accuracy (number - extended.mantissa)

/-- A canonical value at a rank nearest to a number. -/
structure Rounded (number : ℝ) (value : UnpackedFloat) : Prop where
  canonical : Canonical value
  isNumber : value.isNaN = false
  nearest : Nearest number (unpackedRank value)

/-- The number with a sign and a magnitude. -/
def signed : Sign → ℝ → ℝ
  | .negative, magnitude => -magnitude
  | .positive, magnitude => magnitude

/-! ## Shifting -/

theorem standsFor_ofMantissaAndAccuracy {mantissa : Nat} {accuracy : Accuracy} {number : ℝ}
    (describes : Describes accuracy (number - mantissa)) :
    StandsFor (.ofMantissaAndAccuracy mantissa accuracy) number := by
  rcases accuracy with _ | (_ | _ | _) <;> exact describes

theorem StandsFor.shiftRightOne {extended : ExtendedMantissa} {number : ℝ}
    (standsFor : StandsFor extended number) :
    StandsFor extended.shiftRightOne (number / 2) := by
  obtain ⟨mantissa, roundBit, stickyBit⟩ := extended
  have halves : (mantissa : ℝ) = 2 * (mantissa / 2 : Nat) + (mantissa % 2 : Nat) := by
    exact_mod_cast (Nat.div_add_mod mantissa 2).symm
  unfold StandsFor at standsFor ⊢
  rcases Nat.mod_two_eq_zero_or_one mantissa with even | odd
  · rw [even, Nat.cast_zero] at halves
    cases roundBit <;> cases stickyBit <;>
      simp only [ExtendedMantissa.accuracy, ExtendedMantissa.shiftRightOne, even, bne_self_eq_false,
        Bool.or_false, Bool.or_true, Describes] at standsFor ⊢ <;>
      first | linarith | (constructor <;> linarith)
  · rw [odd, Nat.cast_one] at halves
    have notZero : ((1 : Nat) != 0) = true := rfl
    cases roundBit <;> cases stickyBit <;>
      simp only [ExtendedMantissa.accuracy, ExtendedMantissa.shiftRightOne, odd, notZero,
        Bool.or_false, Bool.or_true, Describes] at standsFor ⊢ <;>
      first | linarith | (constructor <;> linarith)

theorem shiftRight_succ (extended : ExtendedMantissa) (count : Nat) :
    extended >>> (count + 1) = (extended >>> count).shiftRightOne := rfl

theorem StandsFor.shiftRight {extended : ExtendedMantissa} {number : ℝ}
    (standsFor : StandsFor extended number) (count : Nat) :
    StandsFor (extended >>> count) (number / 2 ^ count) := by
  induction count with
  | zero =>
    rw [pow_zero, div_one]
    exact standsFor
  | succ count ih =>
    rw [shiftRight_succ, pow_succ, ← div_div]
    exact ih.shiftRightOne

theorem mantissa_shiftRight (extended : ExtendedMantissa) (count : Nat) :
    (extended >>> count).mantissa = extended.mantissa / 2 ^ count := by
  induction count with
  | zero => exact (Nat.div_one _).symm
  | succ count ih =>
    rw [shiftRight_succ, pow_succ, ← Nat.div_div_eq_div_mul, ← ih]
    rfl

theorem mantissa_ofMantissaAndAccuracy (mantissa : Nat) (accuracy : Accuracy) :
    (ExtendedMantissa.ofMantissaAndAccuracy mantissa accuracy).mantissa = mantissa := by
  rcases accuracy with _ | (_ | _ | _) <;> rfl

/-- Rounding a mantissa goes to the nearer whole number, the even one on a tie. -/
theorem StandsFor.roundedMantissa {extended : ExtendedMantissa} {number : ℝ}
    (standsFor : StandsFor extended number) :
    (extended.roundedMantissa = extended.mantissa ∧ (extended.mantissa : ℝ) ≤ number ∧
      number ≤ extended.mantissa + 1 / 2 ∧
      (number = extended.mantissa + 1 / 2 → Even extended.mantissa)) ∨
    (extended.roundedMantissa = extended.mantissa + 1 ∧
      (extended.mantissa : ℝ) + 1 / 2 ≤ number ∧ number < extended.mantissa + 1 ∧
      (number = extended.mantissa + 1 / 2 → Even (extended.mantissa + 1))) := by
  unfold StandsFor at standsFor
  unfold ExtendedMantissa.roundedMantissa
  rcases accuracy : extended.accuracy with _ | (_ | _ | _) <;> rw [accuracy] at standsFor <;>
    simp only [Describes] at standsFor <;> simp only [Accuracy.roundToNearestEven]
  · exact .inl ⟨trivial, by linarith, by linarith, fun tie => by linarith⟩
  · exact .inl ⟨trivial, by linarith, by linarith, fun tie => by linarith⟩
  · rcases Nat.mod_two_eq_zero_or_one extended.mantissa with even | odd
    · rw [even]
      exact .inl ⟨rfl, by linarith, by linarith, fun _ => Nat.even_iff.mpr even⟩
    · rw [odd]
      exact .inr ⟨rfl, by linarith, by linarith, fun _ => Nat.even_iff.mpr (by omega)⟩
  · exact .inr ⟨trivial, by linarith, by linarith, fun tie => by linarith⟩

/-! ## The exponent to round at -/

theorem targetExponent_eq (mantissa : Nat) (exponent : Int) :
    Format.binary32.targetExponent (totalExponent mantissa exponent) =
      max (mantissa.log2 + exponent - 23) (-149) := by
  change max ((mantissa.log2 : Int) + 1 + exponent - (24 : Nat)) (3 - 2 ^ 7 - (24 : Nat)) = _
  omega

/-- At the target exponent a mantissa has 24 bits, or fewer at the smallest exponent. -/
theorem div_target_bounds {mantissa shift : Nat} {exponent : Int}
    (target : exponent + shift = max (mantissa.log2 + exponent - 23) (-149)) :
    mantissa / 2 ^ shift < 2 ^ 24 ∧
      (2 ^ 23 ≤ mantissa / 2 ^ shift ∨ exponent + shift = -149) := by
  constructor
  · have bits : mantissa < 2 ^ (mantissa.log2 + 1) := Nat.lt_log2_self
    have enough : 2 ^ (mantissa.log2 + 1) ≤ 2 ^ (24 + shift) :=
      Nat.pow_le_pow_right (by omega) (by omega)
    rw [Nat.div_lt_iff_lt_mul (Nat.two_pow_pos _), ← Nat.pow_add]
    exact Nat.lt_of_lt_of_le bits enough
  · by_cases lowest : exponent + shift = -149
    · exact .inr lowest
    · left
      have positive : mantissa ≠ 0 := by
        intro zero
        rw [zero, Nat.log2_zero] at target
        omega
      have bits : 2 ^ mantissa.log2 ≤ mantissa := Nat.log2_self_le positive
      have split : 23 + shift = mantissa.log2 := by omega
      rw [Nat.le_div_iff_mul_le (Nat.two_pow_pos _), ← Nat.pow_add, split]
      exact bits

/-- The rank of a mantissa with at most 24 bits at its target exponent. -/
theorem nearest_of_mantissa {mantissa : Nat} {exponent : Int} {number : ℝ}
    {extended : ExtendedMantissa} (standsFor : StandsFor extended number)
    (same : extended.mantissa = mantissa) (fits : mantissa < 2 ^ 24) (lowest : -149 ≤ exponent)
    (normal : 2 ^ 23 ≤ mantissa ∨ exponent = -149) :
    Nearest (number * 2 ^ exponent) (extended.roundedMantissa + (exponent + 149) * 2 ^ 23) := by
  have step : (0 : ℝ) < 2 ^ exponent := zpow_pos (by norm_num) _
  have here := gridValue_scaled (Nat.le_of_lt fits) lowest normal
  have next := gridValue_scaled (Nat.succ_le_of_lt fits) lowest
    (normal.imp_left Nat.le_succ_of_le)
  rw [Nat.cast_succ, Nat.cast_succ] at next
  have middle : midpoint (mantissa + (exponent + 149) * 2 ^ 23 : Int) =
      (mantissa + 1 / 2) * 2 ^ exponent := by
    rw [midpoint, add_right_comm, here, next]
    ring
  have parity : ∀ rounded : Nat, Even rounded →
      Even ((rounded : Int) + (exponent + 149) * 2 ^ 23) := fun rounded even =>
    (Int.even_coe_nat rounded |>.mpr even).add (Even.mul_left (by decide) _)
  rcases standsFor.roundedMantissa with ⟨rounded, above, below, tie⟩ | ⟨rounded, above, below, tie⟩
  · rw [same] at rounded above below tie
    rw [rounded]
    have strict := midpoint_lt_gridValue (mantissa + (exponent + 149) * 2 ^ 23 : Int)
    rw [here] at strict
    have scaledAbove : (mantissa : ℝ) * 2 ^ exponent ≤ number * 2 ^ exponent :=
      mul_le_mul_of_nonneg_right above step.le
    refine ⟨strict.le.trans scaledAbove, ?_, fun lowerTie => ?_, fun upperTie => ?_⟩
    · rw [middle]
      exact mul_le_mul_of_nonneg_right below step.le
    · exact absurd lowerTie (strict.trans_le scaledAbove).ne'
    · rw [middle] at upperTie
      exact parity _ (tie (mul_right_cancel₀ step.ne' upperTie))
  · rw [same] at rounded above below tie
    rw [rounded, Nat.cast_succ]
    have strict := gridValue_lt_midpoint (mantissa + 1 + (exponent + 149) * 2 ^ 23 : Int)
    rw [next] at strict
    have before : (mantissa : Int) + 1 + (exponent + 149) * 2 ^ 23 - 1 =
        mantissa + (exponent + 149) * 2 ^ 23 := by ring
    have scaledBelow : number * 2 ^ exponent < (mantissa + 1) * 2 ^ exponent :=
      mul_lt_mul_of_pos_right below step
    refine ⟨?_, (scaledBelow.trans strict).le, fun lowerTie => ?_, fun upperTie => ?_⟩
    · rw [before, middle]
      exact mul_le_mul_of_nonneg_right above step.le
    · rw [before, middle] at lowerTie
      have even := parity _ (tie (mul_right_cancel₀ step.ne' lowerTie))
      rwa [Nat.cast_succ] at even
    · exact absurd upperTie (scaledBelow.trans strict).ne

/-! ## Rounding -/

/-- The shift to the target exponent, when that is not below the exponent at hand. -/
theorem shiftToTargetExponent_eq {mantissa : Nat} {exponent : Int} (accuracy : Accuracy)
    (enough : exponent ≤ max (mantissa.log2 + exponent - 23) (-149)) :
    ∃ shift : Nat, exponent + shift = max (mantissa.log2 + exponent - 23) (-149) ∧
      shiftToTargetExponent Format.binary32 mantissa exponent accuracy =
        (ExtendedMantissa.ofMantissaAndAccuracy mantissa accuracy >>> shift, exponent + shift) := by
  refine ⟨(max (mantissa.log2 + exponent - 23) (-149) - exponent).toNat, by omega, ?_⟩
  unfold shiftToTargetExponent shiftToExponent
  rw [targetExponent_eq]

/-- The second shift of a rounding keeps the rank and makes the mantissa canonical. -/
theorem carry {rounded : Nat} {exponent : Int} (fits : rounded ≤ 2 ^ 24) (lowest : -149 ≤ exponent)
    (normal : 2 ^ 23 ≤ rounded ∨ exponent = -149) :
    ∃ extended final,
      shiftToTargetExponent Format.binary32 rounded exponent .exact = (extended, final) ∧
      extended.mantissa + (final + 149) * 2 ^ 23 = rounded + (exponent + 149) * 2 ^ 23 ∧
      extended.mantissa < 2 ^ 24 ∧ -149 ≤ final ∧ (2 ^ 23 ≤ extended.mantissa ∨ final = -149) := by
  have enough : exponent ≤ max (rounded.log2 + exponent - 23) (-149) := by
    rcases normal with large | bottom
    · have := (Nat.le_log2 (by omega)).mpr large
      omega
    · omega
  obtain ⟨shift, target, shifted⟩ := shiftToTargetExponent_eq .exact enough
  refine ⟨_, _, shifted, ?_⟩
  rw [mantissa_shiftRight, mantissa_ofMantissaAndAccuracy]
  by_cases full : rounded = 2 ^ 24
  · have bits : rounded.log2 = 24 := by
      rw [full, Nat.log2_two_pow]
    have once : shift = 1 := by omega
    rw [full, once]
    omega
  · have none : shift = 0 := by
      by_cases zero : rounded = 0
      · rw [zero, Nat.log2_zero] at target
        omega
      · have := (Nat.log2_lt zero).mpr (Nat.lt_of_le_of_ne fits full)
        rcases normal with large | bottom
        · omega
        · by_cases small : rounded < 2 ^ 23
          · have := (Nat.log2_lt zero).mpr small
            omega
          · omega
    rw [none, Nat.pow_zero, Nat.div_one]
    omega

/-- Rounding goes to the nearest rank of a number of which whole part and accuracy are known. -/
theorem rounded_roundWithAccuracy {mantissa : Nat} {exponent : Int} {accuracy : Accuracy}
    {magnitude : ℝ} (sign : Sign) (describes : Describes accuracy (magnitude - mantissa))
    (enough : exponent ≤ max (mantissa.log2 + exponent - 23) (-149)) :
    Rounded (signed sign (magnitude * 2 ^ exponent))
      (roundWithAccuracy Format.binary32 sign mantissa exponent accuracy) := by
  obtain ⟨shift, target, shifted⟩ := shiftToTargetExponent_eq accuracy enough
  obtain ⟨fits, normal⟩ := div_target_bounds target
  have lowest : -149 ≤ exponent + shift := by omega
  have standsFor := (standsFor_ofMantissaAndAccuracy describes).shiftRight shift
  have wholePart : (ExtendedMantissa.ofMantissaAndAccuracy mantissa accuracy >>> shift).mantissa =
      mantissa / 2 ^ shift := by
    rw [mantissa_shiftRight, mantissa_ofMantissaAndAccuracy]
  generalize ExtendedMantissa.ofMantissaAndAccuracy mantissa accuracy >>> shift = extended at *
  have nearest := nearest_of_mantissa standsFor wholePart fits lowest normal
  have number : magnitude / 2 ^ shift * 2 ^ (exponent + shift) = magnitude * 2 ^ exponent := by
    rw [zpow_add₀ (by norm_num : (2 : ℝ) ≠ 0), zpow_natCast, mul_comm (2 ^ exponent) (2 ^ shift),
      ← mul_assoc, div_mul_cancel₀ _ (pow_ne_zero shift (by norm_num))]
  rw [number] at nearest
  have roundedFits : extended.roundedMantissa ≤ 2 ^ 24 ∧
      (2 ^ 23 ≤ extended.roundedMantissa ∨ exponent + shift = -149) := by
    rcases standsFor.roundedMantissa with ⟨same, -⟩ | ⟨same, -⟩ <;> rw [same, wholePart] <;> omega
  obtain ⟨final, finalExponent, carried, rankEq, finalFits, finalLowest, finalNormal⟩ :=
    carry roundedFits.1 lowest roundedFits.2
  rw [← rankEq] at nearest
  have result : roundWithAccuracy Format.binary32 sign mantissa exponent accuracy =
      if positive : final.mantissa = 0 then .zero sign
      else .finite sign final.mantissa finalExponent (Nat.pos_of_ne_zero positive) := by
    unfold roundWithAccuracy
    simp only [shifted, carried]
  rw [result]
  have signedNearest : Nearest (signed sign (magnitude * 2 ^ exponent))
      (sign.apply (final.mantissa + (finalExponent + 149) * 2 ^ 23)) := by
    cases sign with
    | negative => exact nearest.neg
    | positive => exact nearest
  by_cases zero : final.mantissa = 0
  · rw [dif_pos zero]
    refine ⟨trivial, rfl, ?_⟩
    have bottom : sign.apply (final.mantissa + (finalExponent + 149) * 2 ^ 23) = 0 := by
      cases sign <;> simp only [Sign.apply] <;> omega
    rwa [bottom] at signedNearest
  · rw [dif_neg zero]
    exact ⟨⟨finalFits, finalLowest, finalNormal⟩, rfl, signedNearest⟩

theorem log2_shiftLeft {mantissa : Nat} (positive : 0 < mantissa) (shift : Nat) :
    (mantissa <<< shift).log2 = mantissa.log2 + shift := by
  have bounds := (Nat.log2_eq_iff (Nat.ne_of_gt positive)).mp (rfl : mantissa.log2 = mantissa.log2)
  rw [Nat.shiftLeft_eq]
  refine (Nat.log2_eq_iff (Nat.mul_ne_zero (Nat.ne_of_gt positive)
    (Nat.ne_of_gt (Nat.two_pow_pos shift)))).mpr ⟨?_, ?_⟩
  · rw [Nat.pow_add]
    exact Nat.mul_le_mul_right _ bounds.1
  · rw [Nat.add_right_comm, Nat.pow_add _ _ shift]
    exact Nat.mul_lt_mul_of_pos_right bounds.2 (Nat.two_pow_pos shift)

theorem shiftLeft_mul_zpow (mantissa shift : Nat) (exponent : Int) :
    ((mantissa <<< shift : Nat) : ℝ) * 2 ^ (exponent - shift) = mantissa * 2 ^ exponent := by
  rw [Nat.shiftLeft_eq, zpow_sub₀ (by norm_num : (2 : ℝ) ≠ 0), zpow_natCast]
  push_cast
  rw [mul_assoc, mul_div_cancel₀ _ (pow_ne_zero shift (by norm_num))]

theorem rounded_round {mantissa : Nat} (sign : Sign) (positive : 0 < mantissa) (exponent : Int) :
    Rounded (signed sign (mantissa * 2 ^ exponent))
      (UnpackedFloat.round Format.binary32 sign mantissa exponent) := by
  have unfolded : UnpackedFloat.round Format.binary32 sign mantissa exponent =
      roundWithAccuracy Format.binary32 sign
        (mantissa <<< (exponent - max (mantissa.log2 + exponent - 23) (-149)).toNat)
        (exponent - (exponent - max (mantissa.log2 + exponent - 23) (-149)).toNat) .exact := by
    unfold UnpackedFloat.round decreaseExponent
    rw [targetExponent_eq]
  rw [unfolded, ← shiftLeft_mul_zpow mantissa
    (exponent - max (mantissa.log2 + exponent - 23) (-149)).toNat exponent]
  refine rounded_roundWithAccuracy sign (sub_self _) ?_
  rw [log2_shiftLeft positive]
  omega

theorem rounded_normalize (mantissa exponent : Int) (zeroSign : Sign) :
    Rounded (mantissa * 2 ^ exponent)
      (UnpackedFloat.normalize Format.binary32 mantissa exponent zeroSign) := by
  unfold UnpackedFloat.normalize
  rcases lt_trichotomy mantissa 0 with below | zero | above
  · rw [compare_lt_iff_lt.mpr below]
    have magnitude : signed .negative ((-mantissa).toNat * 2 ^ exponent) =
        mantissa * 2 ^ exponent := by
      have cast : (((-mantissa).toNat : Int) : ℝ) = -mantissa := by
        rw [Int.toNat_of_nonneg (by omega), Int.cast_neg]
      rw [signed, ← Int.cast_natCast, cast]
      ring
    rw [← magnitude]
    exact rounded_round .negative (by omega) exponent
  · rw [zero, compare_eq_iff_eq.mpr rfl, Int.cast_zero, zero_mul]
    refine ⟨trivial, rfl, ?_⟩
    have zeroNearest := nearest_gridValue 0
    rwa [gridValue_zero] at zeroNearest
  · rw [compare_gt_iff_gt.mpr above]
    have magnitude : signed .positive (mantissa.toNat * 2 ^ exponent) =
        mantissa * 2 ^ exponent := by
      rw [signed, ← Int.cast_natCast, Int.toNat_of_nonneg (by omega)]
    rw [← magnitude]
    exact rounded_round .positive (by omega) exponent

/-- The value of a canonical number in the float model. -/
theorem gridValue_unpackedRank {sign : Sign} {mantissa : Nat} {exponent : Int}
    {positive : 0 < mantissa} (canonical : Canonical (.finite sign mantissa exponent positive)) :
    gridValue (unpackedRank (.finite sign mantissa exponent positive)) =
      signed sign (mantissa * 2 ^ exponent) := by
  obtain ⟨fits, lowest, normal⟩ := canonical
  have magnitude := gridValue_scaled (Nat.le_of_lt fits) lowest normal
  cases sign with
  | negative => exact (gridValue_neg _).trans (congrArg Neg.neg magnitude)
  | positive => exact magnitude

end RoadGrowth.Numeric
