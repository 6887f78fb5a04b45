import RoadGrowth.Proofs.Numeric.Extremes

/-!
# Operations that keep the order

To add a finite single, to subtract one and to multiply by a positive one keep the order of
numbers: the exact operation does, rounding does, and an infinity is kept as it is. So do
chains of such operations, and what is known of a result at one number bounds the results
at all numbers on one side of it.
-/

namespace RoadGrowth.Numeric

/-- An operation keeps the order of numbers, those that are infinite included. -/
def Increasing (operation : Float32 → Float32) : Prop :=
  ∀ ⦃left right : Float32⦄, left ≤ right → operation left ≤ operation right

variable {operation other : Float32 → Float32} {single bound last image : Float32}

theorem Increasing.comp (outer : Increasing other) (inner : Increasing operation) :
    Increasing fun single => other (operation single) :=
  fun _ _ ordered => outer (inner ordered)

/-- Numbers in front of a bound are at most the single before it. -/
theorem le_of_adjacent (isNumber : single.isNaN = false) (boundNumber : bound.isNaN = false)
    (lastNumber : last.isNaN = false) (adjacent : rank bound = rank last + 1)
    (before : ¬bound ≤ single) : single ≤ last := by
  have ranks := (lt_iff.mp (lt_of_not_le boundNumber isNumber before)).2.2
  exact le_iff.mpr ⟨isNumber, lastNumber, by omega⟩

/-- What does not reach a bound does not reach its image if the single before the bound does not,
and NaN is kept. -/
theorem Increasing.not_le (increasing : Increasing operation)
    (undefined : operation Float32.nan = Float32.nan) (boundNumber : bound.isNaN = false)
    (lastNumber : last.isNaN = false) (adjacent : rank bound = rank last + 1)
    (atLast : ¬image ≤ operation last) (before : ¬bound ≤ single) : ¬image ≤ operation single := by
  intro above
  by_cases isNumber : single.isNaN = false
  · exact atLast (Numeric.le_trans above
      (increasing (le_of_adjacent isNumber boundNumber lastNumber adjacent before)))
  · rw [isNaN_iff.mp (Bool.eq_true_of_not_eq_false isNumber), undefined] at above
    exact absurd (le_iff.mp above).2.1 (by decide)

/-- A number that is not finite has the rank of an infinity. -/
theorem rank_of_not_isFinite (isNumber : single.isNaN = false) (infinite : ¬single.isFinite) :
    rank single = topRank ∨ rank single = -topRank := by
  obtain ⟨above, below⟩ := rank_bounds single
  by_contra inside
  rw [not_or] at inside
  exact infinite ((isFinite_iff single).mpr ⟨isNumber, by omega, by omega⟩)

/-- A rounded operation keeps the order if the exact one does and infinities are kept. -/
theorem increasing_of_isRounding (exact : ℝ → ℝ) (mono : Monotone exact)
    (rounds : ∀ {single : Float32}, single.isFinite →
      IsRounding (exact (realValue single)) (operation single))
    (keeps : ∀ {single : Float32}, single.isInf → operation single = single) :
    Increasing operation := by
  intro left right ordered
  obtain ⟨leftNumber, rightNumber, ranks⟩ := le_iff.mp ordered
  have isNumber : ∀ {single : Float32}, single.isNaN = false →
      (operation single).isNaN = false := by
    intro single isNumber
    by_cases finite : single.isFinite
    · exact (rounds finite).isNumber
    · rwa [keeps (isInf_of_not_isFinite isNumber finite)]
  refine le_iff.mpr ⟨isNumber leftNumber, isNumber rightNumber, ?_⟩
  obtain ⟨leftAbove, leftBelow⟩ := rank_bounds (operation left)
  obtain ⟨rightAbove, rightBelow⟩ := rank_bounds (operation right)
  -- An infinity at either end settles the comparison by the bounds of ranks.
  by_cases leftFinite : left.isFinite
  · by_cases rightFinite : right.isFinite
    · exact (rounds leftFinite).mono (rounds rightFinite) (mono (gridValue_le_iff.mpr ranks))
    · have kept := keeps (isInf_of_not_isFinite rightNumber rightFinite)
      have above := ((isFinite_iff left).mp leftFinite).2.1
      rcases rank_of_not_isFinite rightNumber rightFinite with top | bottom
      · rw [kept, top]
        exact leftBelow
      · omega
  · have kept := keeps (isInf_of_not_isFinite leftNumber leftFinite)
    rcases rank_of_not_isFinite leftNumber leftFinite with top | bottom
    · have rightInfinite : ¬right.isFinite := fun rightFinite => by
        have below := ((isFinite_iff right).mp rightFinite).2.2
        omega
      rw [kept, keeps (isInf_of_not_isFinite rightNumber rightInfinite)]
      exact ranks
    · rw [kept, bottom]
      exact rightAbove

theorem increasing_add (finite : single.isFinite) : Increasing (· + single) :=
  increasing_of_isRounding (· + realValue single)
    (fun _ _ ordered => add_le_add_left ordered _)
    (fun leftFinite => isRounding_add leftFinite finite) fun infinite => add_of_isInf infinite finite

theorem increasing_sub (finite : single.isFinite) : Increasing (· - single) :=
  increasing_of_isRounding (· - realValue single)
    (fun _ _ ordered => sub_le_sub_right ordered _)
    (fun leftFinite => isRounding_sub leftFinite finite) fun infinite => sub_of_isInf infinite finite

theorem increasing_mul (finite : single.isFinite) (positive : 0 < rank single) :
    Increasing (· * single) :=
  increasing_of_isRounding (· * realValue single)
    (fun _ _ ordered => mul_le_mul_of_nonneg_right ordered (gridValue_nonneg_iff.mpr positive.le))
    (fun leftFinite => isRounding_mul leftFinite finite)
    fun infinite => mul_of_isInf infinite finite positive

end RoadGrowth.Numeric
