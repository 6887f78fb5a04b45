import RoadGrowth.Numeric.Rounding
import RoadGrowth.Proofs.Numeric.Division

/-!
# Undefined operands

NaN goes through every operation and compares with nothing. Only `least` and `greatest`
pass it over, so a NaN that is brought between two bounds becomes the lower one. An
infinity is kept by a finite difference, and a finite single that it divides becomes
zero.
-/

namespace RoadGrowth.Numeric

open Float.Model (Format UnpackedFloat)
open Float.Model.UnpackedFloat

variable {single left right lower upper : Float32}

/-! ## NaN -/

/-- There is one NaN. -/
theorem isNaN_iff : single.isNaN ↔ single = Float32.nan := by
  rw [Float32.isNaN_eq_decide_eq_nan, decide_eq_true_iff]

@[simp] theorem nan_sub (right : Float32) : Float32.nan - right = Float32.nan := by
  have undefined : sub Format.binary32 .notANumber right.toModel.unpack = .notANumber := by
    cases right.toModel.unpack <;> rfl
  exact congrArg (fun value => Float32.ofModel (.pack value)) undefined

@[simp] theorem nan_mul (right : Float32) : Float32.nan * right = Float32.nan := by
  have undefined : mul Format.binary32 .notANumber right.toModel.unpack = .notANumber := by
    cases right.toModel.unpack <;> rfl
  exact congrArg (fun value => Float32.ofModel (.pack value)) undefined

@[simp] theorem add_nan (left : Float32) : left + Float32.nan = Float32.nan := by
  have undefined : add Format.binary32 left.toModel.unpack .notANumber = .notANumber := by
    cases left.toModel.unpack <;> rfl
  exact congrArg (fun value => Float32.ofModel (.pack value)) undefined

@[simp] theorem not_lt_nan (left : Float32) : ¬left < Float32.nan :=
  fun below => absurd (lt_iff.mp below).2.1 (by decide)

@[simp] theorem not_nan_lt (right : Float32) : ¬Float32.nan < right :=
  fun below => absurd (lt_iff.mp below).1 (by decide)

/-! ## Bounds -/

theorem le_self (isNumber : single.isNaN = false) : single ≤ single :=
  le_iff.mpr ⟨isNumber, isNumber, le_rfl⟩

protected theorem le_trans (first : single ≤ left) (second : left ≤ right) : single ≤ right := by
  obtain ⟨singleNumber, -, firstRanks⟩ := le_iff.mp first
  obtain ⟨-, rightNumber, secondRanks⟩ := le_iff.mp second
  exact le_iff.mpr ⟨singleNumber, rightNumber, firstRanks.trans secondRanks⟩

protected theorem le_of_lt (below : left < right) : left ≤ right := by
  obtain ⟨leftNumber, rightNumber, ranks⟩ := lt_iff.mp below
  exact le_iff.mpr ⟨leftNumber, rightNumber, ranks.le⟩

theorem not_lt_of_le (ordered : left ≤ right) : ¬right < left := fun below =>
  (lt_iff.mp below).2.2.not_ge (le_iff.mp ordered).2.2

theorem le_of_not_lt (leftNumber : left.isNaN = false) (rightNumber : right.isNaN = false)
    (notBelow : ¬right < left) : left ≤ right :=
  le_iff.mpr ⟨leftNumber, rightNumber,
    not_lt.mp fun ranks => notBelow (lt_iff.mpr ⟨rightNumber, leftNumber, ranks⟩)⟩

theorem le_greatest (single : Float32) (isNumber : lower.isNaN = false) :
    lower ≤ greatest single lower := by
  unfold greatest
  split_ifs with undefined below
  · exact le_self isNumber
  · exact le_self isNumber
  · exact le_of_not_lt isNumber (Bool.eq_false_of_not_eq_true undefined) below

/-- A single brought between two bounds lies between them, even if it was NaN. -/
theorem least_greatest_bounds (single : Float32) (ordered : lower ≤ upper) :
    lower ≤ least (greatest single lower) upper ∧ least (greatest single lower) upper ≤ upper := by
  obtain ⟨lowerNumber, upperNumber, -⟩ := le_iff.mp ordered
  have raised := le_greatest single lowerNumber
  unfold least
  split_ifs with undefined beyond
  · exact ⟨ordered, le_self upperNumber⟩
  · exact ⟨ordered, le_self upperNumber⟩
  · exact ⟨raised, le_of_not_lt (le_iff.mp raised).2.1 upperNumber beyond⟩

theorem greatest_of_le (ordered : lower ≤ single) : greatest single lower = single := by
  rw [greatest, (le_iff.mp ordered).2.1, if_neg Bool.false_ne_true, if_neg (not_lt_of_le ordered)]

/-- What is not at least the bound is below it or NaN. -/
theorem greatest_of_not_le (isNumber : lower.isNaN = false) (before : ¬lower ≤ single) :
    greatest single lower = lower := by
  unfold greatest
  split_ifs with undefined below
  · rfl
  · rfl
  · exact absurd (le_of_not_lt isNumber (Bool.eq_false_of_not_eq_true undefined) below) before

theorem least_of_le (ordered : single ≤ upper) : least single upper = single := by
  rw [least, (le_iff.mp ordered).1, if_neg Bool.false_ne_true, if_neg (not_lt_of_le ordered)]

/-! A single brought between two bounds is the lower one if it was before it or NaN, itself if it
was between them, and the upper one if it was behind it. -/

theorem least_greatest_of_not_le (ordered : lower ≤ upper) (before : ¬lower ≤ single) :
    least (greatest single lower) upper = lower := by
  rw [greatest_of_not_le (le_iff.mp ordered).1 before, least_of_le ordered]

theorem least_greatest_of_between (above : lower ≤ single) (below : single ≤ upper) :
    least (greatest single lower) upper = single := by
  rw [greatest_of_le above, least_of_le below]

theorem least_greatest_of_le (ordered : lower ≤ upper) (reached : upper ≤ single)
    (nonzero : rank upper ≠ 0) : least (greatest single lower) upper = upper := by
  obtain ⟨upperNumber, isNumber, ranks⟩ := le_iff.mp reached
  rw [greatest_of_le (Numeric.le_trans ordered reached), least, isNumber,
    if_neg Bool.false_ne_true]
  split_ifs with behind
  · rfl
  · -- Only zero has two singles.
    have same := (le_iff.mp (le_of_not_lt isNumber upperNumber behind)).2.2.antisymm ranks
    exact eq_of_rank_eq same (same.trans_ne nonzero)

theorem least_greatest_nan (ordered : lower ≤ upper) :
    least (greatest Float32.nan lower) upper = lower :=
  least_greatest_of_not_le ordered fun above => absurd (le_iff.mp above).2.1 (by decide)

theorem least_eq_or (left right : Float32) :
    least left right = left ∨ least left right = right := by
  unfold least
  split_ifs
  · exact .inr rfl
  · exact .inr rfl
  · exact .inl rfl

theorem least_le_left (right : Float32) (isNumber : left.isNaN = false) :
    least left right ≤ left := by
  unfold least
  rw [isNumber, if_neg Bool.false_ne_true]
  split_ifs with smaller
  · exact Numeric.le_of_lt smaller
  · exact le_self isNumber

theorem least_le_right (left : Float32) (isNumber : right.isNaN = false) :
    least left right ≤ right := by
  unfold least
  split_ifs with undefined smaller
  · exact le_self isNumber
  · exact le_self isNumber
  · exact le_of_not_lt (Bool.eq_false_of_not_eq_true undefined) isNumber smaller

/-- What lies below the smaller of two singles lies below the second, if that is a number. -/
theorem lt_of_lt_least (isNumber : right.isNaN = false) (below : single < least left right) :
    single < right := by
  obtain ⟨singleNumber, -, ranks⟩ := lt_iff.mp below
  have ordered := (le_iff.mp (least_le_right left isNumber)).2.2
  exact lt_iff.mpr ⟨singleNumber, isNumber, ranks.trans_le ordered⟩

/-! ## Infinities -/

theorem unpack_of_isInf (infinite : single.isInf) :
    ∃ sign, single.toModel.unpack = .infinity sign := by
  change single.toModel.unpack.isInf at infinite
  cases unpacked : single.toModel.unpack with
  | infinity sign => exact ⟨sign, rfl⟩
  | notANumber | zero | finite =>
    rw [unpacked] at infinite
    cases infinite

theorem isInf_of_not_isFinite (isNumber : single.isNaN = false) (infinite : ¬single.isFinite) :
    single.isInf := by
  obtain ⟨sign, unpacked⟩ := unpack_of_not_isFinite isNumber infinite
  change single.toModel.unpack.isInf
  rw [unpacked]
  rfl

/-- An infinity is positive or negative. -/
theorem lt_or_lt_of_isInf (infinite : single.isInf) : 0.0 < single ∨ single < 0.0 := by
  obtain ⟨sign, unpacked⟩ := unpack_of_isInf infinite
  have isNumber : single.isNaN = false := by
    change single.toModel.unpack.isNaN = false
    rw [unpacked]
    rfl
  rw [lt_iff, lt_iff, rank_zero, rank, unpacked]
  cases sign with
  | positive => exact .inl ⟨rfl, isNumber, by decide⟩
  | negative => exact .inr ⟨isNumber, rfl, by decide⟩

theorem eq_of_unpack_infinity {sign : Sign} (unpacked : single.toModel.unpack = .infinity sign) :
    .ofModel (.pack (.infinity sign)) = single :=
  unpack_injective ((unpack_packedInfinity sign).trans unpacked.symm)

/-- An infinity is kept where a finite single is added. -/
theorem add_of_isInf (infinite : left.isInf) (finite : right.isFinite) : left + right = left := by
  obtain ⟨sign, unpacked⟩ := unpack_of_isInf infinite
  have kept : add Format.binary32 left.toModel.unpack right.toModel.unpack = .infinity sign := by
    rw [unpacked]
    exact (add_infinity finite sign).2
  exact (congrArg (fun value => Float32.ofModel (.pack value)) kept).trans
    (eq_of_unpack_infinity unpacked)

theorem sub_of_isInf (infinite : left.isInf) (finite : right.isFinite) : left - right = left := by
  obtain ⟨sign, unpacked⟩ := unpack_of_isInf infinite
  have kept : sub Format.binary32 left.toModel.unpack right.toModel.unpack = .infinity sign := by
    rw [unpacked]
    change right.toModel.unpack.isFinite at finite
    cases unpackedRight : right.toModel.unpack with
    | notANumber | infinity =>
      rw [unpackedRight] at finite
      cases finite
    | zero | finite => rfl
  exact (congrArg (fun value => Float32.ofModel (.pack value)) kept).trans
    (eq_of_unpack_infinity unpacked)

/-- What a positive finite single unpacks to. -/
theorem unpack_of_pos (finite : single.isFinite) (positive : 0 < rank single) :
    ∃ mantissa exponent nonzero,
      single.toModel.unpack = .finite .positive mantissa exponent nonzero := by
  change single.toModel.unpack.isFinite at finite
  cases unpacked : single.toModel.unpack with
  | notANumber | infinity =>
    rw [unpacked] at finite
    cases finite
  | zero =>
    rw [rank, unpacked] at positive
    exact absurd positive (lt_irrefl 0)
  | finite sign mantissa exponent nonzero =>
    cases sign with
    | positive => exact ⟨mantissa, exponent, nonzero, rfl⟩
    | negative =>
      have canonical := canonical_unpack single
      rw [unpacked] at canonical
      rw [rank, unpacked] at positive
      exact absurd positive (unpackedRank_negative canonical).not_gt

/-- An infinity is kept where it is multiplied by a positive finite single. -/
theorem mul_of_isInf (infinite : left.isInf) (finite : right.isFinite) (positive : 0 < rank right) :
    left * right = left := by
  obtain ⟨sign, unpacked⟩ := unpack_of_isInf infinite
  obtain ⟨mantissa, exponent, nonzero, unpackedRight⟩ := unpack_of_pos finite positive
  have kept : mul Format.binary32 left.toModel.unpack right.toModel.unpack = .infinity sign := by
    rw [unpacked, unpackedRight]
    cases sign <;> rfl
  exact (congrArg (fun value => Float32.ofModel (.pack value)) kept).trans
    (eq_of_unpack_infinity unpacked)

theorem isInf_sub (infinite : left.isInf) (rightFinite : right.isFinite) :
    (left - right).isInf := by
  rwa [sub_of_isInf infinite rightFinite]

/-- A finite single divided by an infinity is zero. -/
theorem div_of_isInf (leftFinite : left.isFinite) (infinite : right.isInf) :
    (left / right).isNaN = false ∧ rank (left / right) = 0 := by
  obtain ⟨sign, unpacked⟩ := unpack_of_isInf infinite
  have vanishes : ∃ other, UnpackedFloat.div Format.binary32 left.toModel.unpack
      right.toModel.unpack = .zero other := by
    change left.toModel.unpack.isFinite at leftFinite
    rw [unpacked]
    cases unpackedLeft : left.toModel.unpack with
    | notANumber | infinity =>
      rw [unpackedLeft] at leftFinite
      cases leftFinite
    | zero | finite => exact ⟨_, rfl⟩
  obtain ⟨other, vanishes⟩ := vanishes
  have quotient : left / right = .ofModel (.pack (.zero other)) :=
    congrArg (fun value => Float32.ofModel (.pack value)) vanishes
  rw [quotient]
  cases other <;> exact ⟨rfl, rfl⟩

end RoadGrowth.Numeric
