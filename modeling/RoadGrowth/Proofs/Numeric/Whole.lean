import RoadGrowth.Proofs.Numeric.Nearest

/-!
# Whole parts

Conversion to a whole number cuts off what is behind the point and stays within 32
bits; NaN and what is negative become zero.
-/

namespace RoadGrowth.Numeric

open Float.Model (Format UnpackedFloat)
open Float.Model.UnpackedFloat

/-- The whole part of a positive number of the float model. -/
theorem roundToInt_positive (mantissa : Nat) (exponent : Int) :
    roundToInt .positive mantissa exponent =
      (mantissa <<< exponent.toNat / 2 ^ (-exponent).toNat : Nat) := by
  have rest : (0 - (exponent - ((exponent - 0).toNat : Int))).toNat = (-exponent).toNat := by omega
  change ((ExtendedMantissa.ofMantissaAndAccuracy (mantissa <<< (exponent - 0).toNat) .exact >>>
    (0 - (exponent - ((exponent - 0).toNat : Int))).toNat).mantissa : Int) = _
  rw [mantissa_shiftRight, mantissa_ofMantissaAndAccuracy, rest, sub_zero]

theorem le_roundToInt_positive {count mantissa : Nat} {exponent : Int} :
    (count : Int) ≤ roundToInt .positive mantissa exponent ↔
      (count : ℝ) ≤ mantissa * 2 ^ exponent := by
  have scale : (0 : ℝ) < 2 ^ (-exponent).toNat := by positivity
  have value : (mantissa : ℝ) * 2 ^ exponent * 2 ^ (-exponent).toNat =
      (mantissa <<< exponent.toNat : Nat) := by
    rw [Nat.shiftLeft_eq, mul_assoc, ← zpow_natCast, ← zpow_add₀ (by norm_num : (2 : ℝ) ≠ 0)]
    have sum : exponent + ((-exponent).toNat : Int) = (exponent.toNat : Int) := by omega
    rw [sum, zpow_natCast]
    push_cast
    rfl
  rw [roundToInt_positive, Int.ofNat_le, Nat.le_div_iff_mul_le (Nat.two_pow_pos _),
    ← mul_le_mul_iff_left₀ scale, value]
  exact_mod_cast Iff.rfl

theorem toNat_ofNatClamp (count : Nat) :
    (UInt32.ofNatClamp count).toNat = min count (2 ^ 32 - 1) := by
  unfold UInt32.ofNatClamp
  split
  · rename_i small
    rw [UInt32.toNat_ofNatLT]
    have : count < 2 ^ 32 := small
    omega
  · rename_i large
    have : ¬count < 2 ^ 32 := large
    have last : UInt32.size - 1 = 2 ^ 32 - 1 := rfl
    rw [UInt32.toNat_ofNatLT, last]
    omega

theorem le_toUInt32_iff {count : Nat} (single : Float32) (positive : 0 < count)
    (small : count < 2 ^ 32) :
    count ≤ single.toUInt32.toNat ↔ (count : Int) ≤ single.toModel.unpack.toInt 0 (2 ^ 32 - 1) := by
  change count ≤ (UInt32.ofNatClamp (single.toModel.unpack.toInt 0 (2 ^ 32 - 1)).toNat).toNat ↔ _
  rw [toNat_ofNatClamp]
  omega

/-- A positive count of 32 bits is reached by the whole part of a number if it is by the number. -/
theorem le_toUInt32 {count : Nat} {single : Float32} (positive : 0 < count)
    (small : count < 2 ^ 32) :
    count ≤ single.toUInt32.toNat ↔ single.isNaN = false ∧ (count : ℝ) ≤ realValue single := by
  have canonical := canonical_unpack single
  have countPositive : (0 : ℝ) < count := by exact_mod_cast positive
  rw [le_toUInt32_iff single positive small]
  change _ ↔ single.toModel.unpack.isNaN = false ∧
    _ ≤ gridValue (unpackedRank single.toModel.unpack)
  cases unpacked : single.toModel.unpack with
  | notANumber =>
    simp only [toInt, UnpackedFloat.isNaN, Bool.true_eq_false, false_and, iff_false]
    omega
  | zero sign =>
    change (count : Int) ≤ 0 ↔ false = false ∧ (count : ℝ) ≤ gridValue 0
    rw [gridValue_zero]
    refine ⟨fun none => by omega, fun none => ?_⟩
    linarith [none.2]
  | infinity sign =>
    cases sign with
    | negative =>
      have negative : gridValue (-topRank) < 0 := by
        rw [← gridValue_zero, gridValue_lt_iff]
        decide
      change (count : Int) ≤ 0 ↔ false = false ∧ (count : ℝ) ≤ gridValue (-topRank)
      refine ⟨fun none => by omega, fun none => ?_⟩
      linarith [none.2]
    | positive =>
      change (count : Int) ≤ 2 ^ 32 - 1 ↔ false = false ∧ (count : ℝ) ≤ gridValue topRank
      rw [gridValue_topRank]
      have reached : (count : ℝ) ≤ 2 ^ 128 := by
        exact_mod_cast small.le.trans (by norm_num : (2 : Nat) ^ 32 ≤ 2 ^ 128)
      exact ⟨fun _ => ⟨rfl, reached⟩, fun _ => by omega⟩
  | finite sign mantissa exponent mantissaPositive =>
    rw [unpacked] at canonical
    rw [gridValue_unpackedRank canonical]
    have scaled : (0 : ℝ) < mantissa * 2 ^ exponent :=
      mul_pos (by exact_mod_cast mantissaPositive) (zpow_pos (by norm_num) _)
    cases sign with
    | negative =>
      refine ⟨fun reached => ?_, fun reached => ?_⟩
      · have nonpositive : toInt 0 (2 ^ 32 - 1) (.finite .negative mantissa exponent
            mantissaPositive) ≤ 0 := Int.neg_nonpos_of_nonneg (Int.natCast_nonneg _)
        omega
      · have below := reached.2
        rw [signed] at below
        linarith
    | positive =>
      refine ⟨fun reached => ⟨rfl, le_roundToInt_positive.mp reached⟩, fun reached => ?_⟩
      exact le_roundToInt_positive.mpr reached.2

end RoadGrowth.Numeric
