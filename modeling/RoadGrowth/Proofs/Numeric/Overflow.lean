import RoadGrowth.Proofs.Numeric.Results

/-!
# Infinite operands

What is said of infinite operands is only what keeps a chain of operations apart from
NaN: a square, a sum of numbers that are not negative and its root are infinite if a
part of them is, and are themselves not negative.
-/

namespace RoadGrowth.Numeric

open Float.Model (Format UnpackedFloat)
open Float.Model.UnpackedFloat

variable {single left right : Float32}

theorem lt_topRank_of_isFinite (finite : single.isFinite) : rank single < topRank :=
  ((isFinite_iff single).mp finite).2.2

/-- A number that is not finite is an infinity. -/
theorem unpack_of_not_isFinite (isNumber : single.isNaN = false) (infinite : ¬single.isFinite) :
    ∃ sign, single.toModel.unpack = .infinity sign := by
  change single.toModel.unpack.isNaN = false at isNumber
  change ¬single.toModel.unpack.isFinite at infinite
  cases unpacked : single.toModel.unpack with
  | infinity sign => exact ⟨sign, rfl⟩
  | notANumber =>
    rw [unpacked] at isNumber
    cases isNumber
  | zero => exact absurd (by rw [unpacked]; rfl) infinite
  | finite => exact absurd (by rw [unpacked]; rfl) infinite

theorem unpack_of_nonneg (isNumber : single.isNaN = false) (nonneg : 0 ≤ rank single)
    (infinite : ¬single.isFinite) : single.toModel.unpack = .infinity .positive := by
  obtain ⟨sign, unpacked⟩ := unpack_of_not_isFinite isNumber infinite
  cases sign with
  | positive => exact unpacked
  | negative =>
    rw [rank, unpacked] at nonneg
    exact absurd nonneg (by decide)

/-- Positive infinity. -/
structure IsInfinite (single : Float32) : Prop where
  isNumber : single.isNaN = false
  rank_eq : rank single = topRank

theorem isInfinite_pack : IsInfinite (.ofModel (.pack (.infinity .positive))) :=
  ⟨rfl, rfl⟩

/-- The square of a number is the rounded square, or infinite because the number is. -/
theorem square_cases (isNumber : single.isNaN = false) :
    single.isFinite ∧ IsRounding (realValue single * realValue single) (single * single) ∨
      IsInfinite (single * single) := by
  by_cases finite : single.isFinite
  · exact .inl ⟨finite, isRounding_mul finite finite⟩
  · obtain ⟨sign, unpacked⟩ := unpack_of_not_isFinite isNumber finite
    have product : single * single = .ofModel (.pack (.infinity .positive)) := by
      change Float32.ofModel (.pack (mul Format.binary32 single.toModel.unpack
        single.toModel.unpack)) = _
      rw [unpacked]
      cases sign <;> rfl
    rw [product]
    exact .inr isInfinite_pack

theorem add_infinity {value : UnpackedFloat} (finite : value.isFinite) (sign : Sign) :
    add Format.binary32 value (.infinity sign) = .infinity sign ∧
      add Format.binary32 (.infinity sign) value = .infinity sign := by
  cases value with
  | notANumber | infinity => cases finite
  | zero | finite => exact ⟨rfl, rfl⟩

/-- A sum of numbers that are not negative is the rounded sum, or infinite because one is. -/
theorem sum_cases (leftNumber : left.isNaN = false) (rightNumber : right.isNaN = false)
    (leftNonneg : 0 ≤ rank left) (rightNonneg : 0 ≤ rank right) :
    left.isFinite ∧ right.isFinite ∧ IsRounding (realValue left + realValue right) (left + right) ∨
      IsInfinite (left + right) := by
  have sum : left + right = .ofModel (.pack (add Format.binary32 left.toModel.unpack
    right.toModel.unpack)) := rfl
  by_cases leftFinite : left.isFinite <;> by_cases rightFinite : right.isFinite
  · exact .inl ⟨leftFinite, rightFinite, isRounding_add leftFinite rightFinite⟩
  · rw [sum, unpack_of_nonneg rightNumber rightNonneg rightFinite, (add_infinity leftFinite _).1]
    exact .inr isInfinite_pack
  · rw [sum, unpack_of_nonneg leftNumber leftNonneg leftFinite, (add_infinity rightFinite _).2]
    exact .inr isInfinite_pack
  · rw [sum, unpack_of_nonneg leftNumber leftNonneg leftFinite,
      unpack_of_nonneg rightNumber rightNonneg rightFinite]
    exact .inr isInfinite_pack

/-- The root of a number that is not negative is the rounded root, or infinite with it. -/
theorem root_cases (isNumber : single.isNaN = false) (nonneg : 0 ≤ rank single) :
    single.isFinite ∧ IsRounding √(realValue single) single.sqrt ∨ IsInfinite single.sqrt := by
  by_cases finite : single.isFinite
  · exact .inl ⟨finite, isRounding_sqrt finite nonneg⟩
  · right
    change IsInfinite (.ofModel (.pack (UnpackedFloat.sqrt Format.binary32 single.toModel.unpack)))
    rw [unpack_of_nonneg isNumber nonneg finite]
    exact isInfinite_pack

/-- A square is a number and not negative. -/
theorem square_isNumber (isNumber : single.isNaN = false) :
    (single * single).isNaN = false ∧ 0 ≤ rank (single * single) := by
  rcases square_cases isNumber with ⟨-, rounding⟩ | infinite
  · exact ⟨rounding.isNumber, rounding.rank_nonneg (mul_self_nonneg _)⟩
  · exact ⟨infinite.isNumber, by rw [infinite.rank_eq]; decide⟩

theorem sum_isNumber (leftNumber : left.isNaN = false)
    (rightNumber : right.isNaN = false) (leftNonneg : 0 ≤ rank left)
    (rightNonneg : 0 ≤ rank right) :
    (left + right).isNaN = false ∧ 0 ≤ rank (left + right) := by
  rcases sum_cases leftNumber rightNumber leftNonneg rightNonneg with ⟨-, -, rounding⟩ | infinite
  · exact ⟨rounding.isNumber, rounding.rank_nonneg (add_nonneg
      (gridValue_nonneg_iff.mpr leftNonneg) (gridValue_nonneg_iff.mpr rightNonneg))⟩
  · exact ⟨infinite.isNumber, by rw [infinite.rank_eq]; decide⟩

theorem root_isNumber (isNumber : single.isNaN = false)
    (nonneg : 0 ≤ rank single) : single.sqrt.isNaN = false ∧ 0 ≤ rank single.sqrt := by
  rcases root_cases isNumber nonneg with ⟨-, rounding⟩ | infinite
  · exact ⟨rounding.isNumber, rounding.rank_nonneg (Real.sqrt_nonneg _)⟩
  · exact ⟨infinite.isNumber, by rw [infinite.rank_eq]; decide⟩

/-- A root is not negative, or NaN. -/
theorem rank_sqrt_nonneg (single : Float32) : 0 ≤ rank single.sqrt := by
  by_cases known : single.isNaN = false ∧ 0 ≤ rank single
  · exact (root_isNumber known.1 known.2).2
  have root : single.sqrt =
      .ofModel (.pack (UnpackedFloat.sqrt Format.binary32 single.toModel.unpack)) := rfl
  have canonical := canonical_unpack single
  change ¬(single.toModel.unpack.isNaN = false ∧ 0 ≤ unpackedRank single.toModel.unpack) at known
  rw [root]
  cases unpacked : single.toModel.unpack with
  | notANumber => decide
  | infinity sign => cases sign <;> decide
  | zero sign => cases sign <;> decide
  | finite sign mantissa exponent positive =>
    rw [unpacked] at known canonical
    cases sign with
    | negative =>
      have undefined : UnpackedFloat.sqrt Format.binary32
          (.finite .negative mantissa exponent positive) = .notANumber := rfl
      rw [undefined]
      decide
    | positive => exact absurd ⟨rfl, (unpackedRank_positive canonical).le⟩ known

end RoadGrowth.Numeric
