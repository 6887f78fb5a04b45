import RoadGrowth.Proofs.Numeric.Undefined

/-!
# Fractions

A fraction is a finite single between zero and one. Products of fractions are fractions,
and so are what a fraction leaves of one, the quotient of a part and a larger whole, which
may be infinite, and a place on the way from one fraction to another. The last holds though
the way is rounded: it is not longer than what is left of one, and rounding that adds less
than half the spacing behind one.
-/

namespace RoadGrowth.Numeric

variable {left right single bound : Float32} {number : ℝ}

/-! ## Roundings up to one -/

namespace IsRounding

variable (rounding : IsRounding number single)

include rounding

theorem realValue_le (bounded : number ≤ realValue bound) : realValue single ≤ realValue bound :=
  gridValue_le_iff.mpr (rounding.rank_le bounded (rank_bounds bound).1)

theorem le_realValue (bounded : realValue bound ≤ number) : realValue bound ≤ realValue single :=
  gridValue_le_iff.mpr (rounding.le_rank bounded (rank_bounds bound).2)

theorem isFinite_of_abs_le_one (small : |number| ≤ 1) : single.isFinite :=
  rounding.isFinite (small.trans_lt (by norm_num))

/-- The midpoint in front of a positive single is at most the number. -/
theorem midpoint_le (positive : 0 < rank single) : midpoint (rank single - 1) ≤ number := by
  obtain ⟨-, nearest, isNearest, rankEq⟩ := rounding
  have ordered : rank single ≤ nearest := by
    rw [rankEq, clampRank, topRank] at positive ⊢
    omega
  exact (midpoint_strictMono.monotone (by omega)).trans isNearest.lower

/-- Up to one, rounding adds less than half the spacing behind one. -/
theorem lt_add (nonneg : 0 ≤ number) (le_one : number ≤ 1) :
    realValue single < number + 2 ^ (-24 : ℤ) := by
  by_cases positive : 0 < rank single
  · have small : realValue single ≤ 1 := by
      rw [← realValue_one] at le_one ⊢
      exact rounding.realValue_le le_one
    have half := rounding.midpoint_le positive
    have spacing := gridValue_succ_le (by omega : 0 ≤ rank single - 1)
    have share := gridValue_le_succ (by omega : 0 ≤ rank single - 1)
    rw [midpoint, sub_add_cancel] at half
    rw [sub_add_cancel] at spacing share
    rw [realValue] at small ⊢
    norm_num at spacing share ⊢
    linarith
  · have nonpositive : realValue single ≤ 0 := by
      rw [← gridValue_zero]
      exact gridValue_le_iff.mpr (not_lt.mp positive)
    have gap : (0 : ℝ) < 2 ^ (-24 : ℤ) := by positivity
    linarith

/-- A number that exceeds one by less than half the spacing is rounded to one at most. -/
theorem le_one (close : number < 1 + 2 ^ (-24 : ℤ)) : realValue single ≤ 1 := by
  have next : gridValue (rank 1.0 + 1) = 1 + 2 ^ (-23 : ℤ) := by
    have form : rank 1.0 + 1 = (2 ^ 23 + 1 : Nat) + ((-23 : Int) + 149) * 2 ^ 23 := by
      decide
    rw [gridValue_of_eq form ⟨by decide, by decide, by decide⟩]
    norm_num
  by_contra above
  have ranks : rank 1.0 < rank single := by
    rw [← gridValue_lt_iff]
    exact realValue_one.le.trans_lt (not_le.mp above)
  have positive : 0 < rank single := (by decide : 0 < rank 1.0).trans ranks
  have half : midpoint (rank 1.0) ≤ number :=
    (midpoint_strictMono.monotone (by omega)).trans (rounding.midpoint_le positive)
  have one : gridValue (rank 1.0) = 1 := realValue_one
  rw [midpoint, next, one] at half
  norm_num at half close
  linarith

end IsRounding

/-! ## Fractions -/

/-- A finite single between zero and one. -/
structure IsFraction (single : Float32) : Prop where
  isFinite : single.isFinite
  nonneg : 0 ≤ realValue single
  le_one : realValue single ≤ 1

theorem IsRounding.isFraction (rounding : IsRounding number single) (nonneg : 0 ≤ number)
    (le_one : number ≤ 1) : IsFraction single where
  isFinite := rounding.isFinite_of_abs_le_one (by rwa [abs_of_nonneg nonneg])
  nonneg := gridValue_nonneg_iff.mpr (rounding.rank_nonneg nonneg)
  le_one := by
    rw [← realValue_one] at le_one ⊢
    exact rounding.realValue_le le_one

namespace IsFraction

theorem isNumber (fraction : IsFraction single) : single.isNaN = false :=
  ((isFinite_iff single).mp fraction.isFinite).1

theorem of_rank_eq_zero (isNumber : single.isNaN = false) (zero : rank single = 0) :
    IsFraction single := by
  have value : realValue single = 0 := by rw [realValue, zero, gridValue_zero]
  refine ⟨(isFinite_iff single).mpr ⟨isNumber, ?_, ?_⟩, value.ge, value.le.trans zero_le_one⟩
  · rw [zero]
    decide
  · rw [zero]
    decide

/-- A fraction compares with zero and one. -/
theorem bounds (fraction : IsFraction single) : 0.0 ≤ single ∧ single ≤ 1.0 := by
  refine ⟨le_iff.mpr ⟨by decide, fraction.isNumber, rank_zero.le.trans ?_⟩,
    le_iff.mpr ⟨fraction.isNumber, by decide, ?_⟩⟩
  · exact gridValue_nonneg_iff.mp fraction.nonneg
  · exact gridValue_le_iff.mp (fraction.le_one.trans realValue_one.ge)

theorem of_bounds (above : 0.0 ≤ single) (below : single ≤ 1.0) : IsFraction single where
  isFinite := isFinite_of_between (by decide) (by decide) above below
  nonneg := gridValue_nonneg_iff.mpr (rank_zero.ge.trans (le_iff.mp above).2.2)
  le_one := by
    rw [← realValue_one]
    exact gridValue_le_iff.mpr (le_iff.mp below).2.2

theorem mul (first : IsFraction left) (second : IsFraction right) : IsFraction (left * right) :=
  (isRounding_mul first.isFinite second.isFinite).isFraction
    (mul_nonneg first.nonneg second.nonneg) (mul_le_one₀ first.le_one second.nonneg second.le_one)

/-- A product of fractions that are not too small does not vanish. -/
theorem two_zpow_le_mul {leftExponent rightExponent : Int} (first : IsFraction left)
    (second : IsFraction right) (leftLarge : 2 ^ leftExponent ≤ realValue left)
    (rightLarge : 2 ^ rightExponent ≤ realValue right) (lowest : -126 ≤ leftExponent + rightExponent)
    (highest : leftExponent + rightExponent ≤ 128) :
    2 ^ (leftExponent + rightExponent) ≤ realValue (left * right) := by
  refine (isRounding_mul first.isFinite second.isFinite).two_zpow_le ?_ lowest highest
  rw [zpow_add₀ two_ne_zero]
  exact mul_le_mul leftLarge rightLarge (by positivity) first.nonneg

/-- What a fraction leaves of one is a fraction. -/
theorem complement (fraction : IsFraction single) : IsFraction (1.0 - single) := by
  have rounding := isRounding_sub (by decide : (1.0 : Float32).isFinite) fraction.isFinite
  rw [realValue_one] at rounding
  exact rounding.isFraction (sub_nonneg.mpr fraction.le_one) (sub_le_self 1 fraction.nonneg)

/-- What a fraction leaves of one does not vanish if the fraction is short of one. -/
theorem le_complement (fraction : IsFraction single)
    (short : realValue single ≤ 1 - 2 ^ (-24 : ℤ)) :
    2 ^ (-24 : ℤ) ≤ realValue (1.0 - single) := by
  have rounding := isRounding_sub (by decide : (1.0 : Float32).isFinite) fraction.isFinite
  rw [realValue_one] at rounding
  exact rounding.two_zpow_le (by linarith) (by decide) (by decide)

/-- A part of a whole is finite, also of an infinite one. -/
theorem isFinite_of_part (nonneg : 0 ≤ rank left) (below : left < right) : left.isFinite := by
  obtain ⟨leftNumber, -, ranks⟩ := lt_iff.mp below
  exact (isFinite_iff left).mpr ⟨leftNumber, (by decide : -topRank < 0).trans_le nonneg,
    ranks.trans_le (rank_bounds right).2⟩

/-- A part of a whole is a fraction of it, also of an infinite one. -/
theorem div (nonneg : 0 ≤ rank left) (below : left < right) : IsFraction (left / right) := by
  have leftFinite := isFinite_of_part nonneg below
  obtain ⟨-, rightNumber, ranks⟩ := lt_iff.mp below
  by_cases rightFinite : right.isFinite
  · have leftValue : 0 ≤ realValue left := gridValue_nonneg_iff.mpr nonneg
    have values : realValue left < realValue right := gridValue_lt_iff.mpr ranks
    exact (isRounding_div leftFinite rightFinite (nonneg.trans_lt ranks).ne').isFraction
      (div_nonneg leftValue (leftValue.trans values.le))
      ((div_le_one₀ (leftValue.trans_lt values)).mpr values.le)
  · have infinite := isInf_of_not_isFinite rightNumber rightFinite
    obtain ⟨isNumber, zero⟩ := div_of_isInf leftFinite infinite
    exact of_rank_eq_zero isNumber zero

/-- A part is short of the whole by a share that rounding keeps. -/
theorem div_le (nonneg : 0 ≤ rank left) (below : left < right) :
    realValue (left / right) ≤ 1 - 2 ^ (-24 : ℤ) := by
  have leftFinite := isFinite_of_part nonneg below
  obtain ⟨-, rightNumber, ranks⟩ := lt_iff.mp below
  by_cases rightFinite : right.isFinite
  · have rightPositive : 0 < realValue right := by
      rw [realValue, ← gridValue_zero, gridValue_lt_iff]
      exact nonneg.trans_lt ranks
    have short : realValue left ≤ realValue right * (1 - 2 ^ (-24 : ℤ)) := by
      have before := gridValue_le_succ (by omega : 0 ≤ rank right - 1)
      rw [sub_add_cancel] at before
      exact (gridValue_le_iff.mpr (Int.le_sub_one_of_lt ranks)).trans before
    rw [mul_comm, ← div_le_iff₀ rightPositive] at short
    have form : (1 : ℝ) - 2 ^ (-24 : ℤ) =
        gridValue ((2 ^ 24 - 1 : Nat) + (-24 + 149) * 2 ^ 23) := by
      rw [gridValue_scaled (by decide) (by decide) (.inl (by decide))]
      norm_num
    rw [form] at short ⊢
    have rounding := isRounding_div leftFinite rightFinite (nonneg.trans_lt ranks).ne'
    exact gridValue_le_iff.mpr (rounding.rank_le short (by decide))
  · have zero := (div_of_isInf leftFinite (isInf_of_not_isFinite rightNumber rightFinite)).2
    rw [realValue, zero, gridValue_zero]
    norm_num

end IsFraction

/-! ## Between fractions -/

/-- A step that leads from a fraction below zero nowhere, and not beyond what it leaves of one. -/
structure IsStep (start step : Float32) : Prop where
  isFinite : step.isFinite
  above : -realValue start ≤ realValue step
  below : realValue step ≤ realValue (1.0 - start)

variable {start finish step share : Float32}

/-- The whole way from one fraction to another. -/
theorem IsFraction.isStep (first : IsFraction start) (second : IsFraction finish) :
    IsStep start (finish - start) := by
  have way := isRounding_sub second.isFinite first.isFinite
  have rest := isRounding_sub (by decide : (1.0 : Float32).isFinite) first.isFinite
  have above : -realValue start ≤ realValue finish - realValue start := by
    linarith [second.nonneg]
  have below := sub_le_sub_right second.le_one (realValue start)
  refine ⟨way.isFinite_of_abs_le_one (abs_le.mpr ⟨?_, ?_⟩), ?_, ?_⟩
  · exact (neg_le_neg first.le_one).trans above
  · exact below.trans (sub_le_self 1 first.nonneg)
  · rw [← realValue_neg] at above ⊢
    exact way.le_realValue above
  · rw [← realValue_one] at below
    exact gridValue_le_iff.mpr (way.mono rest below)

/-- A part of a step. -/
theorem IsStep.mul (isStep : IsStep start step) (first : IsFraction start)
    (part : IsFraction share) : IsStep start (step * share) := by
  have product := isRounding_mul isStep.isFinite part.isFinite
  have above : -realValue start ≤ realValue step * realValue share := by
    have scaled := mul_le_mul_of_nonneg_right isStep.above part.nonneg
    have smaller := mul_le_of_le_one_right first.nonneg part.le_one
    linarith
  have below : realValue step * realValue share ≤ realValue (1.0 - start) :=
    (mul_le_mul_of_nonneg_right isStep.below part.nonneg).trans
      (mul_le_of_le_one_right first.complement.nonneg part.le_one)
  refine ⟨product.isFinite_of_abs_le_one (abs_le.mpr ⟨?_, ?_⟩), ?_, product.realValue_le below⟩
  · exact (neg_le_neg first.le_one).trans above
  · exact below.trans first.complement.le_one
  · rw [← realValue_neg] at above ⊢
    exact product.le_realValue above

theorem IsStep.add (isStep : IsStep start step) (first : IsFraction start) :
    IsFraction (start + step) := by
  have sum := isRounding_add first.isFinite isStep.isFinite
  have nonneg : 0 ≤ realValue start + realValue step := by linarith [isStep.above]
  have close : realValue start + realValue step < 1 + 2 ^ (-24 : ℤ) := by
    have rest := isRounding_sub (by decide : (1.0 : Float32).isFinite) first.isFinite
    rw [realValue_one] at rest
    have added := rest.lt_add (sub_nonneg.mpr first.le_one) (sub_le_self 1 first.nonneg)
    have below := isStep.below
    norm_num at added ⊢
    linarith
  refine ⟨sum.isFinite ?_, gridValue_nonneg_iff.mpr (sum.rank_nonneg nonneg), sum.le_one close⟩
  rw [abs_of_nonneg nonneg]
  norm_num at close ⊢
  linarith

/-- A place on the way from one fraction to another is a fraction. -/
theorem IsFraction.between (first : IsFraction start) (second : IsFraction finish)
    (part : IsFraction share) : IsFraction (start + (finish - start) * share) :=
  ((first.isStep second).mul first part).add first

end RoadGrowth.Numeric
