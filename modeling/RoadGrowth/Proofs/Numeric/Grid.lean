import Mathlib

/-!
# The grid of singles

The values a single can take are numbered by consecutive whole ranks, zero having
rank zero. The grid goes on past the largest finite single; the rank right behind
it stands for infinity. Rounding to nearest is then one statement about ranks: the
number lies between the midpoints around the rank, and an even rank owns both.
Nothing here mentions bits.
-/

namespace RoadGrowth.Numeric

/-- How often the spacing of the grid has doubled up to a rank. -/
def gridShift (rank : Nat) : Nat := rank / 2 ^ 23 - 1

/-- The value of a rank, counted in smallest positive singles. -/
def gridUnits (rank : Nat) : Nat := (rank - gridShift rank * 2 ^ 23) * 2 ^ gridShift rank

/-- `gridUnits` continued to negative ranks as an odd function. -/
def signedUnits : Int → Int
  | .ofNat rank => gridUnits rank
  | .negSucc rank => -gridUnits (rank + 1)

/-- The value of a rank. -/
noncomputable def gridValue (rank : Int) : ℝ := signedUnits rank * 2 ^ (-149 : ℤ)

/-- The number half way from a rank to the next one. -/
noncomputable def midpoint (rank : Int) : ℝ := (gridValue rank + gridValue (rank + 1)) / 2

/-- A rank whose value is nearest to a number, the even one of two equally near. -/
structure Nearest (number : ℝ) (rank : Int) : Prop where
  lower : midpoint (rank - 1) ≤ number
  upper : number ≤ midpoint rank
  even_of_lower : number = midpoint (rank - 1) → Even rank
  even_of_upper : number = midpoint rank → Even rank

/-! ## Spacing -/

@[simp] theorem gridUnits_zero : gridUnits 0 = 0 := rfl

/-- A rank written as a significand of 24 bits and a shift. -/
theorem gridUnits_add {significand shift : Nat} (normal : 2 ^ 23 ≤ significand ∨ shift = 0)
    (fits : significand ≤ 2 ^ 24) :
    gridUnits (significand + shift * 2 ^ 23) = significand * 2 ^ shift := by
  by_cases full : significand = 2 ^ 24
  · have shifted : gridShift (significand + shift * 2 ^ 23) = shift + 1 := by
      unfold gridShift
      omega
    have rest : significand + shift * 2 ^ 23 - (shift + 1) * 2 ^ 23 = 2 ^ 23 := by omega
    rw [gridUnits, shifted, rest, full, pow_succ]
    ring
  · have shifted : gridShift (significand + shift * 2 ^ 23) = shift := by
      unfold gridShift
      omega
    rw [gridUnits, shifted, Nat.add_sub_cancel]

/-- Every rank has such a form. -/
theorem exists_significand (rank : Nat) :
    ∃ significand, rank = significand + gridShift rank * 2 ^ 23 ∧
      (2 ^ 23 ≤ significand ∨ gridShift rank = 0) ∧ significand < 2 ^ 24 := by
  refine ⟨rank - gridShift rank * 2 ^ 23, ?_, ?_, ?_⟩ <;> unfold gridShift <;> omega

theorem gridUnits_succ (rank : Nat) :
    gridUnits (rank + 1) = gridUnits rank + 2 ^ gridShift rank := by
  obtain ⟨significand, form, normal, fits⟩ := exists_significand rank
  have here := gridUnits_add normal (Nat.le_of_lt fits)
  have normalNext : 2 ^ 23 ≤ significand + 1 ∨ gridShift rank = 0 :=
    normal.imp_left Nat.le_succ_of_le
  have next := gridUnits_add normalNext fits
  have formNext : rank + 1 = significand + 1 + gridShift rank * 2 ^ 23 := by omega
  rw [← form] at here
  rw [← formNext] at next
  rw [here, next]
  ring

theorem two_pow_gridShift_le (rank : Nat) :
    2 ^ 23 * 2 ^ gridShift rank ≤ gridUnits rank + 2 ^ 23 := by
  obtain ⟨significand, form, normal, fits⟩ := exists_significand rank
  have here := gridUnits_add normal (Nat.le_of_lt fits)
  rw [← form] at here
  rw [here]
  rcases normal with large | none
  · exact Nat.le_add_right_of_le (Nat.mul_le_mul_right _ large)
  · simp [none]

@[simp] theorem signedUnits_natCast (rank : Nat) : signedUnits rank = gridUnits rank := rfl

@[simp] theorem signedUnits_neg (rank : Int) : signedUnits (-rank) = -signedUnits rank := by
  cases rank with
  | ofNat rank =>
    cases rank with
    | zero => rfl
    | succ rank => rfl
  | negSucc rank => exact (Int.neg_neg _).symm

theorem signedUnits_strictMono : StrictMono signedUnits := by
  refine strictMono_int_of_lt_succ fun rank => ?_
  cases rank with
  | ofNat rank =>
    have positive : 0 < 2 ^ gridShift rank := Nat.two_pow_pos _
    have step := gridUnits_succ rank
    change (gridUnits rank : Int) < gridUnits (rank + 1)
    omega
  | negSucc rank =>
    have positive : 0 < 2 ^ gridShift rank := Nat.two_pow_pos _
    have step := gridUnits_succ rank
    have next : Int.negSucc rank + 1 = -rank := by omega
    rw [next, signedUnits_neg, signedUnits_natCast]
    change -(gridUnits (rank + 1) : Int) < -gridUnits rank
    omega

/-! ## Values of ranks -/

theorem gridValue_strictMono : StrictMono gridValue := by
  intro low high below
  have units : (signedUnits low : ℝ) < signedUnits high := by
    exact_mod_cast signedUnits_strictMono below
  exact mul_lt_mul_of_pos_right units (by positivity)

@[simp] theorem gridValue_zero : gridValue 0 = 0 := by
  simp [gridValue, signedUnits]

@[simp] theorem gridValue_neg (rank : Int) : gridValue (-rank) = -gridValue rank := by
  simp [gridValue]

theorem gridValue_le_iff {low high : Int} : gridValue low ≤ gridValue high ↔ low ≤ high :=
  gridValue_strictMono.le_iff_le

theorem gridValue_lt_iff {low high : Int} : gridValue low < gridValue high ↔ low < high :=
  gridValue_strictMono.lt_iff_lt

theorem gridValue_nonneg_iff {rank : Int} : 0 ≤ gridValue rank ↔ 0 ≤ rank := by
  rw [← gridValue_zero, gridValue_le_iff]

/-- The value of a rank written as a significand and an exponent. -/
theorem gridValue_significand {significand shift : Nat}
    (normal : 2 ^ 23 ≤ significand ∨ shift = 0) (fits : significand ≤ 2 ^ 24) :
    gridValue (significand + shift * 2 ^ 23 : Nat) =
      significand * (2 : ℝ) ^ ((shift : ℤ) - 149) := by
  rw [gridValue, signedUnits_natCast, gridUnits_add normal fits, sub_eq_add_neg,
    zpow_add₀ (by norm_num : (2 : ℝ) ≠ 0), zpow_natCast]
  push_cast
  ring

/-- The same with the exponent in place of the shift. -/
theorem gridValue_scaled {mantissa : Nat} {exponent : Int} (fits : mantissa ≤ 2 ^ 24)
    (lowest : -149 ≤ exponent) (normal : 2 ^ 23 ≤ mantissa ∨ exponent = -149) :
    gridValue (mantissa + (exponent + 149) * 2 ^ 23) = mantissa * 2 ^ exponent := by
  obtain ⟨shift, shiftEq⟩ := Int.eq_ofNat_of_zero_le (by omega : 0 ≤ exponent + 149)
  have exponentEq : exponent = (shift : ℤ) - 149 := by omega
  rw [shiftEq, exponentEq, ← gridValue_significand (by omega) fits]
  congr 1

/-- The value of a rank given by the mantissa and the exponent of a normal single. -/
theorem gridValue_of_eq {units : Int} {mantissa : Nat} {exponent : Int}
    (scaled : units = mantissa + (exponent + 149) * 2 ^ 23)
    (bounds : 2 ^ 23 ≤ mantissa ∧ mantissa ≤ 2 ^ 24 ∧ -149 ≤ exponent) :
    gridValue units = mantissa * 2 ^ exponent := by
  obtain ⟨normal, fits, lowest⟩ := bounds
  rw [scaled, gridValue_scaled fits lowest (.inl normal)]

theorem gridValue_two_zpow {exponent : Int} (lowest : -126 ≤ exponent) :
    gridValue ((exponent + 127) * 2 ^ 23) = 2 ^ exponent := by
  have form : (exponent + 127) * 2 ^ 23 = (2 ^ 23 : Nat) + (exponent - 23 + 149) * 2 ^ 23 := by
    push_cast
    ring
  rw [gridValue_of_eq form ⟨le_rfl, by decide, by omega⟩, zpow_sub₀ two_ne_zero]
  norm_num
  ring

/-- The spacing behind a rank: one smallest single, or a share of the value. -/
theorem gridValue_succ_le {rank : Int} (nonneg : 0 ≤ rank) :
    gridValue (rank + 1) ≤ gridValue rank * (1 + 2 ^ (-23 : ℤ)) + 2 ^ (-149 : ℤ) := by
  obtain ⟨rank, rfl⟩ := Int.eq_ofNat_of_zero_le nonneg
  have step : (gridUnits (rank + 1) : ℝ) = gridUnits rank + 2 ^ gridShift rank := by
    exact_mod_cast gridUnits_succ rank
  have share : (2 : ℝ) ^ 23 * 2 ^ gridShift rank ≤ gridUnits rank + 2 ^ 23 := by
    exact_mod_cast two_pow_gridShift_le rank
  have units : (gridUnits (rank + 1) : ℝ) ≤ gridUnits rank * (1 + 2 ^ (-23 : ℤ)) + 1 := by
    norm_num at share ⊢
    linarith
  have scaled := mul_le_mul_of_nonneg_right units (by positivity : (0 : ℝ) ≤ 2 ^ (-149 : ℤ))
  change (gridUnits (rank + 1) : ℝ) * _ ≤ (gridUnits rank : ℝ) * _ * _ + _
  linarith

/-- The spacing in front of a rank is at least a share of the value. -/
theorem gridValue_le_succ {rank : Int} (nonneg : 0 ≤ rank) :
    gridValue rank ≤ gridValue (rank + 1) * (1 - 2 ^ (-24 : ℤ)) := by
  obtain ⟨rank, rfl⟩ := Int.eq_ofNat_of_zero_le nonneg
  obtain ⟨significand, form, normal, fits⟩ := exists_significand rank
  have here := gridUnits_add normal fits.le
  rw [← form] at here
  have share : gridUnits rank + 2 ^ gridShift rank ≤ 2 ^ 24 * 2 ^ gridShift rank := by
    rw [here, ← Nat.succ_mul]
    exact Nat.mul_le_mul_right _ fits
  have shareReal : (gridUnits rank : ℝ) + 2 ^ gridShift rank ≤ 2 ^ 24 * 2 ^ gridShift rank := by
    exact_mod_cast share
  have step : (gridUnits (rank + 1) : ℝ) = gridUnits rank + 2 ^ gridShift rank := by
    exact_mod_cast gridUnits_succ rank
  have units : (gridUnits rank : ℝ) ≤ gridUnits (rank + 1) * (1 - 2 ^ (-24 : ℤ)) := by
    norm_num at shareReal ⊢
    linarith
  have scaled := mul_le_mul_of_nonneg_right units (by positivity : (0 : ℝ) ≤ 2 ^ (-149 : ℤ))
  change (gridUnits rank : ℝ) * _ ≤ (gridUnits (rank + 1) : ℝ) * _ * _
  linarith

/-! ## Midpoints -/

theorem midpoint_lt_gridValue (rank : Int) : midpoint (rank - 1) < gridValue rank := by
  have below : gridValue (rank - 1) < gridValue rank := gridValue_strictMono (by omega)
  rw [midpoint, sub_add_cancel]
  linarith

theorem gridValue_lt_midpoint (rank : Int) : gridValue rank < midpoint rank := by
  have above : gridValue rank < gridValue (rank + 1) := gridValue_strictMono (by omega)
  rw [midpoint]
  linarith

theorem midpoint_strictMono : StrictMono midpoint := by
  intro low high below
  have first : gridValue low < gridValue high := gridValue_strictMono below
  have second : gridValue (low + 1) < gridValue (high + 1) := gridValue_strictMono (by omega)
  rw [midpoint, midpoint]
  linarith

theorem midpoint_neg (rank : Int) : midpoint (-rank - 1) = -midpoint rank := by
  have first : -rank - 1 = -(rank + 1) := by ring
  have second : -rank - 1 + 1 = -rank := by ring
  rw [midpoint, midpoint, second, first, gridValue_neg, gridValue_neg]
  ring

namespace Nearest

variable {number left right : ℝ} {rank leftRank rightRank : Int}

/-- Rounding keeps the order of numbers. -/
theorem mono (leftNearest : Nearest left leftRank) (rightNearest : Nearest right rightRank)
    (ordered : left ≤ right) : leftRank ≤ rightRank := by
  by_contra reversed
  have apart : rightRank ≤ leftRank - 1 := by omega
  have squeezed : midpoint (leftRank - 1) ≤ midpoint rightRank :=
    (leftNearest.lower.trans ordered).trans rightNearest.upper
  have same : rightRank = leftRank - 1 :=
    le_antisymm apart (midpoint_strictMono.le_iff_le.mp squeezed)
  -- Both numbers are the one midpoint between the ranks, which only one of them owns.
  subst same
  have leftTie : left = midpoint (leftRank - 1) :=
    le_antisymm (ordered.trans rightNearest.upper) leftNearest.lower
  have rightTie : right = midpoint (leftRank - 1) :=
    le_antisymm rightNearest.upper (leftNearest.lower.trans ordered)
  obtain ⟨half, halfEq⟩ := leftNearest.even_of_lower leftTie
  obtain ⟨other, otherEq⟩ := rightNearest.even_of_upper rightTie
  omega

theorem unique (first : Nearest number leftRank) (second : Nearest number rightRank) :
    leftRank = rightRank :=
  le_antisymm (first.mono second le_rfl) (second.mono first le_rfl)

theorem neg (nearest : Nearest number rank) : Nearest (-number) (-rank) where
  lower := by
    rw [midpoint_neg]
    exact neg_le_neg nearest.upper
  upper := by
    have flipped := midpoint_neg (rank - 1)
    rw [neg_sub, sub_sub_cancel_left] at flipped
    rw [flipped]
    exact neg_le_neg nearest.lower
  even_of_lower tie := by
    rw [midpoint_neg, neg_inj] at tie
    exact (nearest.even_of_upper tie).neg
  even_of_upper tie := by
    have flipped := midpoint_neg (rank - 1)
    rw [neg_sub, sub_sub_cancel_left] at flipped
    rw [flipped, neg_inj] at tie
    exact (nearest.even_of_lower tie).neg

end Nearest

/-- A value of the grid is rounded to itself. -/
theorem nearest_gridValue (rank : Int) : Nearest (gridValue rank) rank where
  lower := (midpoint_lt_gridValue rank).le
  upper := (gridValue_lt_midpoint rank).le
  even_of_lower tie := absurd tie (midpoint_lt_gridValue rank).ne'
  even_of_upper tie := absurd tie (gridValue_lt_midpoint rank).ne

namespace Nearest

variable {number : ℝ} {rank : Int}

/-- A number is not far above the value it is rounded to. -/
theorem le_of_nonneg (nearest : Nearest number rank) (nonneg : 0 ≤ rank) :
    number ≤ gridValue rank * (1 + 2 ^ (-24 : ℤ)) + 2 ^ (-150 : ℤ) := by
  have spacing := gridValue_succ_le nonneg
  have below := nearest.upper
  rw [midpoint] at below
  norm_num at spacing ⊢
  linarith

/-- A number is not far below the value it is rounded to. -/
theorem ge_of_pos (nearest : Nearest number rank) (positive : 0 < rank) :
    gridValue rank * (1 - 2 ^ (-24 : ℤ)) - 2 ^ (-150 : ℤ) ≤ number := by
  have spacing := gridValue_succ_le (by omega : 0 ≤ rank - 1)
  have above := nearest.lower
  have smaller : gridValue (rank - 1) < gridValue rank := gridValue_strictMono (by omega)
  rw [midpoint, sub_add_cancel] at above
  rw [sub_add_cancel] at spacing
  norm_num at spacing ⊢
  linarith

/-- The size of a number and of the value it is rounded to are close. -/
theorem abs_number_le (nearest : Nearest number rank) :
    |number| ≤ |gridValue rank| * (1 + 2 ^ (-24 : ℤ)) + 2 ^ (-150 : ℤ) := by
  have above : ∀ {number : ℝ} {rank : Int}, Nearest number rank → 0 ≤ rank →
      |number| ≤ |gridValue rank| * (1 + 2 ^ (-24 : ℤ)) + 2 ^ (-150 : ℤ) := by
    intro number rank nearest nonneg
    have valueNonneg : 0 ≤ gridValue rank := gridValue_nonneg_iff.mpr nonneg
    have close := nearest.le_of_nonneg nonneg
    have smallest : midpoint 0 = 2 ^ (-150 : ℤ) := by
      norm_num [midpoint, gridValue, signedUnits, gridUnits, gridShift]
    have lowest : -2 ^ (-150 : ℤ) ≤ number := by
      have first : midpoint (-0 - 1) ≤ midpoint (rank - 1) :=
        midpoint_strictMono.monotone (by omega)
      rw [midpoint_neg, smallest] at first
      exact first.trans nearest.lower
    rw [abs_of_nonneg valueNonneg]
    refine abs_le.mpr ⟨?_, close⟩
    have share : 0 ≤ gridValue rank * (1 + 2 ^ (-24 : ℤ)) := mul_nonneg valueNonneg (by norm_num)
    linarith
  rcases le_total 0 rank with nonneg | nonpositive
  · exact above nearest nonneg
  · have mirrored := above nearest.neg (by omega)
    rwa [abs_neg, gridValue_neg, abs_neg] at mirrored

end Nearest

end RoadGrowth.Numeric
