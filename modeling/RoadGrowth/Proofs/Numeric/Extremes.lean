import Mathlib.Data.List.Basic
import RoadGrowth.Proofs.Numeric.Undefined

/-!
# The least and the greatest of many

Between numbers `least` and `greatest` are the meet and the join of the order. So a bound
holds of the least of a list exactly if it holds of every entry, and the same with the
greatest. A fold that starts from an infinity adds no bound of its own, as soon as the
list has an entry.
-/

namespace RoadGrowth.Numeric

variable {single left right start bound : Float32} {singles : List Float32}

protected theorem lt_of_lt_of_le (first : single < left) (second : left ≤ right) :
    single < right := by
  obtain ⟨singleNumber, -, below⟩ := lt_iff.mp first
  obtain ⟨-, rightNumber, ordered⟩ := le_iff.mp second
  exact lt_iff.mpr ⟨singleNumber, rightNumber, below.trans_le ordered⟩

/-! ## Two numbers -/

theorem greatest_eq_or (left right : Float32) :
    greatest left right = left ∨ greatest left right = right := by
  unfold greatest
  split_ifs
  · exact .inr rfl
  · exact .inr rfl
  · exact .inl rfl

theorem left_le_greatest (right : Float32) (isNumber : left.isNaN = false) :
    left ≤ greatest left right := by
  unfold greatest
  rw [isNumber, if_neg Bool.false_ne_true]
  split_ifs with larger
  · exact Numeric.le_of_lt larger
  · exact le_self isNumber

theorem le_least_iff (leftNumber : left.isNaN = false) (rightNumber : right.isNaN = false) :
    bound ≤ least left right ↔ bound ≤ left ∧ bound ≤ right := by
  constructor
  · intro below
    exact ⟨Numeric.le_trans below (least_le_left right leftNumber),
      Numeric.le_trans below (least_le_right left rightNumber)⟩
  · rintro ⟨belowLeft, belowRight⟩
    rcases least_eq_or left right with same | same
    · rwa [same]
    · rwa [same]

theorem lt_least_iff (leftNumber : left.isNaN = false) (rightNumber : right.isNaN = false) :
    bound < least left right ↔ bound < left ∧ bound < right := by
  constructor
  · intro below
    exact ⟨Numeric.lt_of_lt_of_le below (least_le_left right leftNumber),
      lt_of_lt_least rightNumber below⟩
  · rintro ⟨belowLeft, belowRight⟩
    rcases least_eq_or left right with same | same
    · rwa [same]
    · rwa [same]

/-- The smaller of a number and a single that may be NaN. -/
theorem le_least_iff_of_left (isNumber : left.isNaN = false) :
    bound ≤ least left right ↔ bound ≤ left ∧ (right.isNaN = true ∨ bound ≤ right) := by
  by_cases undefined : right.isNaN = true
  · have kept : least left right = left := by
      rw [least, isNumber, if_neg Bool.false_ne_true, isNaN_iff.mp undefined, if_neg (not_nan_lt _)]
    rw [kept, and_iff_left (.inl undefined)]
  · rw [le_least_iff isNumber (Bool.eq_false_of_not_eq_true undefined), or_iff_right undefined]

theorem greatest_le_iff (leftNumber : left.isNaN = false) (rightNumber : right.isNaN = false) :
    greatest left right ≤ bound ↔ left ≤ bound ∧ right ≤ bound := by
  constructor
  · intro above
    exact ⟨Numeric.le_trans (left_le_greatest right leftNumber) above,
      Numeric.le_trans (le_greatest left rightNumber) above⟩
  · rintro ⟨aboveLeft, aboveRight⟩
    rcases greatest_eq_or left right with same | same
    · rwa [same]
    · rwa [same]

/-! ## Lists of numbers -/

theorem isNaN_of_eq_or (picked : single = left ∨ single = right) (leftNumber : left.isNaN = false)
    (rightNumber : right.isNaN = false) : single.isNaN = false := by
  rcases picked with same | same
  · rwa [same]
  · rwa [same]

/-- What holds of one of two exactly if it holds of both holds at the end of a fold exactly if it
holds at the start and of every entry. -/
theorem foldl_iff (property : Float32 → Prop) {step : Float32 → Float32 → Float32}
    (picks : ∀ left right, step left right = left ∨ step left right = right)
    (both : ∀ {left right : Float32}, left.isNaN = false → right.isNaN = false →
      (property (step left right) ↔ property left ∧ property right))
    (startNumber : start.isNaN = false) (numbers : ∀ single ∈ singles, single.isNaN = false) :
    property (singles.foldl step start) ↔
      property start ∧ ∀ single ∈ singles, property single := by
  induction singles generalizing start with
  | nil => simp
  | cons single rest ih =>
    obtain ⟨singleNumber, restNumbers⟩ := List.forall_mem_cons.mp numbers
    have stepNumber := isNaN_of_eq_or (picks start single) startNumber singleNumber
    rw [List.foldl_cons, ih stepNumber restNumbers, both startNumber singleNumber,
      List.forall_mem_cons, and_assoc]

theorem isNaN_foldl {step : Float32 → Float32 → Float32}
    (picks : ∀ left right, step left right = left ∨ step left right = right)
    (startNumber : start.isNaN = false) (numbers : ∀ single ∈ singles, single.isNaN = false) :
    (singles.foldl step start).isNaN = false := by
  refine (foldl_iff (fun single => single.isNaN = false) picks ?_ startNumber numbers).mpr
    ⟨startNumber, numbers⟩
  intro left right leftNumber rightNumber
  exact iff_of_true (isNaN_of_eq_or (picks left right) leftNumber rightNumber)
    ⟨leftNumber, rightNumber⟩

/-- A fold that starts from a number passes over every NaN. -/
theorem le_foldl_least_iff_of_start (startNumber : start.isNaN = false) :
    bound ≤ singles.foldl least start ↔
      bound ≤ start ∧ ∀ single ∈ singles, single.isNaN = true ∨ bound ≤ single := by
  induction singles generalizing start with
  | nil => simp
  | cons single rest ih =>
    have stepNumber := (le_iff.mp (least_le_left single startNumber)).1
    rw [List.foldl_cons, ih stepNumber, le_least_iff_of_left startNumber, List.forall_mem_cons,
      and_assoc]

theorem le_infinity (isNumber : single.isNaN = false) : single ≤ 1.0 / 0.0 := by
  have top : rank (1.0 / 0.0) = topRank := by decide
  exact le_iff.mpr ⟨isNumber, by decide, (rank_bounds single).2.trans top.ge⟩

theorem neg_infinity_le (isNumber : single.isNaN = false) : -1.0 / 0.0 ≤ single := by
  have bottom : rank (-1.0 / 0.0) = -topRank := by decide
  exact le_iff.mpr ⟨by decide, isNumber, bottom.le.trans (rank_bounds single).1⟩

section

variable (some : singles ≠ []) (numbers : ∀ single ∈ singles, single.isNaN = false)

include some numbers

theorem le_foldl_least_iff :
    bound ≤ singles.foldl least (1.0 / 0.0) ↔ ∀ single ∈ singles, bound ≤ single := by
  rw [foldl_iff (bound ≤ ·) least_eq_or le_least_iff (by decide) numbers,
    and_iff_right_iff_imp]
  intro below
  obtain ⟨first, member⟩ := List.exists_mem_of_ne_nil singles some
  exact le_infinity (le_iff.mp (below first member)).1

theorem lt_foldl_least_iff :
    bound < singles.foldl least (1.0 / 0.0) ↔ ∀ single ∈ singles, bound < single := by
  rw [foldl_iff (bound < ·) least_eq_or lt_least_iff (by decide) numbers,
    and_iff_right_iff_imp]
  intro below
  obtain ⟨first, member⟩ := List.exists_mem_of_ne_nil singles some
  exact Numeric.lt_of_lt_of_le (below first member) (le_infinity (numbers first member))

theorem foldl_greatest_le_iff :
    singles.foldl greatest (-1.0 / 0.0) ≤ bound ↔ ∀ single ∈ singles, single ≤ bound := by
  rw [foldl_iff (· ≤ bound) greatest_eq_or greatest_le_iff (by decide) numbers,
    and_iff_right_iff_imp]
  intro above
  obtain ⟨first, member⟩ := List.exists_mem_of_ne_nil singles some
  exact neg_infinity_le (le_iff.mp (above first member)).2.1

theorem foldl_least_le : ∀ single ∈ singles, singles.foldl least (1.0 / 0.0) ≤ single :=
  (le_foldl_least_iff some numbers).mp
    (le_self (isNaN_foldl least_eq_or (by decide) numbers))

theorem le_foldl_greatest : ∀ single ∈ singles, single ≤ singles.foldl greatest (-1.0 / 0.0) :=
  (foldl_greatest_le_iff some numbers).mp
    (le_self (isNaN_foldl greatest_eq_or (by decide) numbers))

end

end RoadGrowth.Numeric
