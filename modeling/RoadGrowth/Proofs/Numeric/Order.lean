import RoadGrowth.Proofs.Numeric.Single

/-!
# Comparisons

Singles compare as their ranks do, and NaN compares with nothing. The two zeros
have one rank.
-/

namespace RoadGrowth.Numeric

open Float.Model (UnpackedFloat)
open Float.Model.UnpackedFloat

/-- Canonical values of one sign compare by exponent first. -/
theorem compare_then_eq {leftMantissa rightMantissa : Nat} {leftExponent rightExponent : Int}
    {leftPositive : 0 < leftMantissa} {rightPositive : 0 < rightMantissa} {sign : Sign}
    (left : Canonical (.finite sign leftMantissa leftExponent leftPositive))
    (right : Canonical (.finite sign rightMantissa rightExponent rightPositive)) :
    (compare leftExponent rightExponent).then (compare leftMantissa rightMantissa) =
      compare (leftMantissa + (leftExponent + 149) * 2 ^ 23 : Int)
        (rightMantissa + (rightExponent + 149) * 2 ^ 23) := by
  obtain ⟨leftFits, leftLowest, leftNormal⟩ := left
  obtain ⟨rightFits, rightLowest, rightNormal⟩ := right
  rcases lt_trichotomy leftExponent rightExponent with below | same | above
  · rw [compare_lt_iff_lt.mpr below]
    refine (compare_lt_iff_lt.mpr ?_).symm
    omega
  · subst same
    rw [compare_eq_iff_eq.mpr rfl]
    rcases lt_trichotomy leftMantissa rightMantissa with below | same | above
    · rw [compare_lt_iff_lt.mpr below]
      refine (compare_lt_iff_lt.mpr ?_).symm
      omega
    · rw [compare_eq_iff_eq.mpr same]
      refine (compare_eq_iff_eq.mpr ?_).symm
      omega
    · rw [compare_gt_iff_gt.mpr above]
      refine (compare_gt_iff_gt.mpr ?_).symm
      omega
  · rw [compare_gt_iff_gt.mpr above]
    refine (compare_gt_iff_gt.mpr ?_).symm
    omega

theorem swap_compare_neg (left right : Int) :
    (compare left right).swap = compare (-left) (-right) := by
  rcases lt_trichotomy left right with below | same | above
  · rw [compare_lt_iff_lt.mpr below, compare_gt_iff_gt.mpr (by omega : -left > -right)]
    rfl
  · rw [compare_eq_iff_eq.mpr same, compare_eq_iff_eq.mpr (by omega : -left = -right)]
    rfl
  · rw [compare_gt_iff_gt.mpr above, compare_lt_iff_lt.mpr (by omega : -left < -right)]
    rfl

/-- How the ranks of numbers compare, and nothing for NaN. -/
def rankOrder (left right : Float32) : Option Ordering :=
  if left.isNaN || right.isNaN then none else some (compare (rank left) (rank right))

theorem compare_unpack (left right : Float32) :
    left.toModel.unpack.compare right.toModel.unpack = rankOrder left right := by
  have leftCanonical := canonical_unpack left
  have rightCanonical := canonical_unpack right
  unfold rankOrder rank
  change _ = if left.toModel.unpack.isNaN || right.toModel.unpack.isNaN then _ else _
  cases leftUnpacked : left.toModel.unpack with
  | notANumber => cases right.toModel.unpack <;> rfl
  | zero leftSign =>
    cases rightUnpacked : right.toModel.unpack with
    | notANumber => rfl
    | zero rightSign => rfl
    | infinity rightSign => cases rightSign <;> rfl
    | finite rightSign mantissa exponent positive =>
      rw [rightUnpacked] at rightCanonical
      cases rightSign
      · exact congrArg some (compare_gt_iff_gt.mpr (unpackedRank_negative rightCanonical)).symm
      · exact congrArg some (compare_lt_iff_lt.mpr (unpackedRank_positive rightCanonical)).symm
  | infinity leftSign =>
    cases rightUnpacked : right.toModel.unpack with
    | notANumber => cases leftSign <;> rfl
    | zero rightSign => cases leftSign <;> rfl
    | infinity rightSign => cases leftSign <;> cases rightSign <;> rfl
    | finite rightSign mantissa exponent positive =>
      obtain ⟨above, below⟩ := unpackedRank_finite rightUnpacked
      cases leftSign
      · exact congrArg some (compare_lt_iff_lt.mpr above).symm
      · exact congrArg some (compare_gt_iff_gt.mpr below).symm
  | finite leftSign mantissa exponent positive =>
    rw [leftUnpacked] at leftCanonical
    cases rightUnpacked : right.toModel.unpack with
    | notANumber => cases leftSign <;> rfl
    | zero rightSign =>
      cases leftSign
      · exact congrArg some (compare_lt_iff_lt.mpr (unpackedRank_negative leftCanonical)).symm
      · exact congrArg some (compare_gt_iff_gt.mpr (unpackedRank_positive leftCanonical)).symm
    | infinity rightSign =>
      obtain ⟨above, below⟩ := unpackedRank_finite leftUnpacked
      cases rightSign
      · exact congrArg some (compare_gt_iff_gt.mpr above).symm
      · exact congrArg some (compare_lt_iff_lt.mpr below).symm
    | finite rightSign otherMantissa otherExponent otherPositive =>
      rw [rightUnpacked] at rightCanonical
      cases leftSign <;> cases rightSign
      · refine congrArg some ?_
        rw [compare_then_eq leftCanonical rightCanonical, swap_compare_neg]
        rfl
      · have apart := (unpackedRank_negative leftCanonical).trans
          (unpackedRank_positive rightCanonical)
        exact congrArg some (compare_lt_iff_lt.mpr apart).symm
      · have apart := (unpackedRank_negative rightCanonical).trans
          (unpackedRank_positive leftCanonical)
        exact congrArg some (compare_gt_iff_gt.mpr apart).symm
      · exact congrArg some (compare_then_eq leftCanonical rightCanonical)

variable {left right : Float32}

theorem rankOrder_eq_some {order : Ordering} : rankOrder left right = some order ↔
    left.isNaN = false ∧ right.isNaN = false ∧ compare (rank left) (rank right) = order := by
  unfold rankOrder
  cases left.isNaN <;> cases right.isNaN <;> simp

theorem lt_iff : left < right ↔
    left.isNaN = false ∧ right.isNaN = false ∧ rank left < rank right := by
  rw [← compare_lt_iff_lt, ← rankOrder_eq_some, ← compare_unpack, ← beq_iff_eq]
  exact decide_eq_true_iff

theorem le_iff : left ≤ right ↔
    left.isNaN = false ∧ right.isNaN = false ∧ rank left ≤ rank right := by
  have unfolded : left ≤ right ↔ (rankOrder left right).any Ordering.isLE := by
    rw [← compare_unpack]
    exact decide_eq_true_iff
  rw [unfolded, ← compare_le_iff_le, rankOrder]
  cases left.isNaN <;> cases right.isNaN <;> simp [Ordering.isLE_iff_ne_gt]

theorem beq_iff : (left == right) = true ↔
    left.isNaN = false ∧ right.isNaN = false ∧ rank left = rank right := by
  rw [← compare_eq_iff_eq (a := rank left), ← rankOrder_eq_some, ← compare_unpack]
  exact beq_iff_eq (a := left.toModel.unpack.compare right.toModel.unpack)

/-- Of two numbers the one that is not at most the other exceeds it. -/
theorem lt_of_not_le (leftNumber : left.isNaN = false) (rightNumber : right.isNaN = false)
    (above : ¬left ≤ right) : right < left := by
  refine lt_iff.mpr ⟨rightNumber, leftNumber, ?_⟩
  by_contra notBelow
  exact above (le_iff.mpr ⟨leftNumber, rightNumber, not_lt.mp notBelow⟩)

/-- A number between finite singles is finite. -/
theorem isFinite_of_between {single : Float32} (leftFinite : left.isFinite)
    (rightFinite : right.isFinite) (above : left ≤ single) (below : single ≤ right) :
    single.isFinite := by
  obtain ⟨-, isNumber, aboveRank⟩ := le_iff.mp above
  obtain ⟨-, -, belowRank⟩ := le_iff.mp below
  exact (isFinite_iff single).mpr
    ⟨isNumber, ((isFinite_iff left).mp leftFinite).2.1.trans_le aboveRank,
      belowRank.trans_lt ((isFinite_iff right).mp rightFinite).2.2⟩

end RoadGrowth.Numeric
