import RoadGrowth.Numeric.Shortest
import RoadGrowth.Proofs.Numeric.Digits
import RoadGrowth.Proofs.Numeric.Single

/-!
# The search for the shortest decimal ends

Above a positive single lies half of the distance to the next one in its interval. Nine
decimal digits are a grid finer than that, so the search has a hit on it at the latest,
and a hit is never zero.
-/

namespace RoadGrowth.Numeric

namespace RoundingInterval

/-- A mantissa and an exponent that a positive finite single may have. -/
structure Valid (interval : RoundingInterval) : Prop where
  positive : 0 < interval.mantissa
  fits : interval.mantissa < 2 ^ 24
  lowest : -149 ≤ interval.exponent

variable {interval : RoundingInterval} {grid : Int} {count : Nat} {tie : Tie}

/-! ## Grids -/

theorem gridFactor_pos (interval : RoundingInterval) (grid : Int) :
    0 < (interval.gridFactor grid).1 ∧ 0 < (interval.gridFactor grid).2 := by
  simp only [gridFactor, Nat.shiftLeft_eq, Nat.pow_eq]
  constructor <;> positivity

/-- The factor of a grid is the quotient of a quarter and the unit of the grid. -/
theorem gridFactor_mul (interval : RoundingInterval) (grid : Int) :
    ((interval.gridFactor grid).1 : ℝ) * 10 ^ grid =
      (interval.gridFactor grid).2 * 2 ^ (interval.exponent - 2) := by
  have tens : ((10 : ℝ) ^ (-grid).toNat) * 10 ^ grid = 10 ^ grid.toNat := by
    rw [← zpow_natCast, ← zpow_natCast, ← zpow_add₀ (by norm_num : (10 : ℝ) ≠ 0)]
    congr 1
    omega
  have twos : ((2 : ℝ) ^ (2 - interval.exponent).toNat) * 2 ^ (interval.exponent - 2) =
      2 ^ (interval.exponent - 2).toNat := by
    rw [← zpow_natCast, ← zpow_natCast, ← zpow_add₀ (by norm_num : (2 : ℝ) ≠ 0)]
    congr 1
    omega
  simp only [gridFactor, Nat.shiftLeft_eq, Nat.pow_eq]
  push_cast
  calc _ = ((10 : ℝ) ^ (-grid).toNat * 10 ^ grid) * 2 ^ (interval.exponent - 2).toNat := by ring
    _ = 10 ^ grid.toNat * (2 ^ (2 - interval.exponent).toNat * 2 ^ (interval.exponent - 2)) := by
      rw [tens, twos]
    _ = _ := by ring

/-- A hit is never zero: the interval of a positive single lies above zero. -/
theorem pos_of_admits (valid : interval.Valid) (admitted : interval.admits grid count) :
    0 < count := by
  have positive := valid.positive
  obtain ⟨scalePos, -⟩ := interval.gridFactor_pos grid
  rcases Nat.eq_zero_or_pos count with rfl | found
  · have lower : 0 < interval.quarters.1 := by
      simp only [quarters]
      split <;> omega
    have scaled := Nat.mul_pos lower scalePos
    simp only [admits, Nat.zero_mul] at admitted
    split at admitted <;> simp only [Bool.and_eq_true, decide_eq_true_eq] at admitted <;> omega
  · exact found

theorem pos_of_onGrid? (valid : interval.Valid) (found : interval.onGrid? tie grid = some count) :
    0 < count := by
  simp only [onGrid?] at found
  split at found
  · rename_i below _
    cases found
    have positive := pos_of_admits valid below
    unfold roundQuotient
    dsimp only
    split
    · exact positive
    · split
      · omega
      · cases tie <;> simp only <;> omega
  · rename_i below _
    cases found
    exact pos_of_admits valid below
  · cases found
    exact Nat.succ_pos _
  · cases found

/-- On a grid finer than half of the distance to the next single there is a hit. -/
theorem onGrid?_of_fine (tie : Tie)
    (fine : (interval.gridFactor grid).2 < 2 * (interval.gridFactor grid).1) :
    ∃ count, interval.onGrid? tie grid = some count := by
  obtain ⟨scalePos, unitPos⟩ := interval.gridFactor_pos grid
  have above : interval.admits grid (4 * interval.mantissa * (interval.gridFactor grid).1 /
      (interval.gridFactor grid).2 + 1) := by
    simp only [admits]
    generalize (interval.gridFactor grid).1 = scale at *
    generalize (interval.gridFactor grid).2 = unit at *
    have upper : interval.quarters.2.2 = 4 * interval.mantissa + 2 := rfl
    have lower : interval.quarters.1 * scale ≤ 4 * interval.mantissa * scale :=
      Nat.mul_le_mul_right _ (Nat.sub_le _ _)
    have beyond := Nat.lt_mul_div_succ (4 * interval.mantissa * scale) unitPos
    have within := Nat.mul_div_le (4 * interval.mantissa * scale) unit
    rw [Nat.mul_comm unit] at beyond
    rw [upper, Nat.add_mul]
    generalize 4 * interval.mantissa * scale / unit = below at *
    rw [Nat.mul_comm unit] at within
    rw [Nat.add_mul, Nat.one_mul] at *
    split <;> simp only [Bool.and_eq_true, decide_eq_true_eq] <;> omega
  simp only [onGrid?]
  split
  · exact ⟨_, rfl⟩
  · exact ⟨_, rfl⟩
  · exact ⟨_, rfl⟩
  · rename_i none
    change interval.admits grid (4 * interval.mantissa * _ / _ + 1) = false at none
    rw [above] at none
    cases none

/-! ## Search -/

/-- The finest grid is finer than a quarter of any single. -/
theorem unit_le_scale (valid : interval.Valid) :
    (interval.gridFactor (-60)).2 ≤ (interval.gridFactor (-60)).1 := by
  have factor := interval.gridFactor_mul (-60)
  have small : (10 : ℝ) ^ (-60 : Int) ≤ 2 ^ (interval.exponent - 2) :=
    le_trans (by norm_num) (zpow_le_zpow_right₀ one_le_two (by linarith [valid.lowest] :
      (-151 : Int) ≤ interval.exponent - 2))
  have bound := mul_le_mul_of_nonneg_left small (Nat.cast_nonneg (interval.gridFactor (-60)).2)
  rw [← factor] at bound
  have scaled := le_of_mul_le_mul_right bound (zpow_pos (by norm_num) _)
  exact_mod_cast scaled

/-- The leading digit of the value is at the position of the order, which is that of a whole
number: the value in units of the finest grid. -/
theorem pow_order_le (valid : interval.Valid) :
    (10 : ℝ) ^ interval.order ≤ 4 * interval.mantissa * 2 ^ (interval.exponent - 2) := by
  obtain ⟨-, unitPos⟩ := interval.gridFactor_pos (-60)
  have factor := interval.gridFactor_mul (-60)
  have finest := unit_le_scale valid
  have positive := valid.positive
  simp only [order]
  generalize (interval.gridFactor (-60)).1 = scale at *
  generalize (interval.gridFactor (-60)).2 = unit at *
  have unitReal : (0 : ℝ) < unit := Nat.cast_pos.mpr unitPos
  have value : (4 * interval.mantissa * scale : Nat) * (10 : ℝ) ^ (-60 : Int) =
      unit * (4 * interval.mantissa * 2 ^ (interval.exponent - 2)) := by
    push_cast
    linear_combination (4 * interval.mantissa : ℝ) * factor
  have large : unit ≤ 4 * interval.mantissa * scale :=
    finest.trans (Nat.le_mul_of_pos_left _ (by omega))
  generalize 4 * interval.mantissa * scale = total at *
  have quotient : 0 < total / unit := Nat.div_pos large unitPos
  obtain ⟨places, length⟩ : ∃ places, (digits (total / unit)).length = places + 1 :=
    ⟨_, (Nat.succ_pred_eq_of_pos Nat.length_toDigits_pos).symm⟩
  have leading : (10 : ℝ) ^ places ≤ (total / unit : Nat) := by
    exact_mod_cast pow_le_of_length_digits quotient length
  have whole : ((total / unit : Nat) : ℝ) * unit ≤ total := by
    exact_mod_cast Nat.div_mul_le_self total unit
  have exponent : ((places + 1 : Nat) : Int) - 61 = places + (-60 : Int) := by
    push_cast
    ring
  rw [length, exponent, zpow_add₀ (by norm_num : (10 : ℝ) ≠ 0), zpow_natCast]
  refine le_of_mul_le_mul_left ?_ unitReal
  rw [← value]
  calc unit * ((10 : ℝ) ^ places * 10 ^ (-60 : Int))
      ≤ unit * (((total / unit : Nat) : ℝ) * 10 ^ (-60 : Int)) := by gcongr
    _ = ((total / unit : Nat) : ℝ) * unit * 10 ^ (-60 : Int) := by ring
    _ ≤ total * 10 ^ (-60 : Int) := by gcongr

theorem trimmed_ne_zero (fuel : Nat) {decimal : Decimal} (nonzero : decimal.significand ≠ 0) :
    (Decimal.trimmed fuel decimal).significand ≠ 0 := by
  induction fuel generalizing decimal with
  | zero => exact nonzero
  | succ fuel ih =>
    unfold Decimal.trimmed
    split
    · rename_i divides
      refine ih ?_
      dsimp only
      omega
    · exact nonzero

/-- A search ends at the first grid with a hit. -/
theorem search_eq {fuel steps : Nat} (enough : steps < fuel)
    (hit : ∃ count, interval.onGrid? tie (grid - steps) = some count) :
    ∃ (found : Int) (count : Nat), interval.onGrid? tie found = some count ∧
      interval.search tie fuel grid = Decimal.trimmed 60 ⟨count, found⟩ := by
  induction fuel generalizing grid steps with
  | zero => omega
  | succ fuel ih =>
    unfold search
    cases here : interval.onGrid? tie grid with
    | some count => exact ⟨grid, count, here, rfl⟩
    | none =>
      cases steps with
      | zero =>
        obtain ⟨count, found⟩ := hit
        rw [Nat.cast_zero, sub_zero, here] at found
        cases found
      | succ steps =>
        refine ih (by omega : steps < fuel) ?_
        rwa [sub_sub, Int.add_comm 1, ← Nat.cast_succ]

/-- Nine digits are always enough. -/
theorem fine_of_order (valid : interval.Valid) :
    (interval.gridFactor (interval.order - 8)).2 <
      2 * (interval.gridFactor (interval.order - 8)).1 := by
  have leading := pow_order_le valid
  have fits : (interval.mantissa : ℝ) < 16777216 := by
    exact_mod_cast (show interval.mantissa < 16777216 from valid.fits)
  have factor := interval.gridFactor_mul (interval.order - 8)
  obtain ⟨scalePos, unitPos⟩ := interval.gridFactor_pos (interval.order - 8)
  generalize (interval.gridFactor (interval.order - 8)).1 = scale at *
  generalize (interval.gridFactor (interval.order - 8)).2 = unit at *
  have quarter : (0 : ℝ) < 2 ^ (interval.exponent - 2) := zpow_pos two_pos _
  have unitReal : (0 : ℝ) < unit := Nat.cast_pos.mpr unitPos
  have grain : (10 : ℝ) ^ (interval.order - 8) < 2 * 2 ^ (interval.exponent - 2) := by
    rw [zpow_sub₀ (by norm_num : (10 : ℝ) ≠ 0), div_lt_iff₀ (by norm_num)]
    calc (10 : ℝ) ^ interval.order ≤ 4 * interval.mantissa * 2 ^ (interval.exponent - 2) := leading
      _ < 4 * 16777216 * 2 ^ (interval.exponent - 2) := by gcongr
      _ < 2 * 2 ^ (interval.exponent - 2) * 10 ^ (8 : Int) := by
        norm_num
        linarith
  have compared : (unit : ℝ) < 2 * scale := by
    have grainPos : (0 : ℝ) < 10 ^ (interval.order - 8) := zpow_pos (by norm_num) _
    refine lt_of_mul_lt_mul_right ?_ grainPos.le
    rw [mul_assoc 2, factor]
    nlinarith
  exact_mod_cast compared

/-- The shortest decimal is a hit of some grid, without the zeros at its end. -/
theorem shortest_eq (valid : interval.Valid) (tie : Tie) :
    ∃ (grid : Int) (count : Nat), interval.onGrid? tie grid = some count ∧
      interval.shortest tie = Decimal.trimmed 60 ⟨count, grid⟩ :=
  search_eq (by decide : 8 < 12) (onGrid?_of_fine tie (fine_of_order valid))

theorem shortest_ne_zero (valid : interval.Valid) (tie : Tie) :
    (interval.shortest tie).significand ≠ 0 := by
  obtain ⟨grid, count, found, same⟩ := shortest_eq valid tie
  rw [same]
  exact trimmed_ne_zero 60 (Nat.ne_of_gt (pos_of_onGrid? valid found))

end RoundingInterval

/-- The shortest decimal is zero only as `0`, without an exponent. -/
theorem shortestDecimal_exponent (tie : Tie) (value : Float32)
    (zero : (shortestDecimal tie value).significand = 0) :
    (shortestDecimal tie value).exponent = 0 := by
  unfold shortestDecimal at *
  split
  · rename_i sign mantissa exponent positive unpacked
    obtain ⟨fits, lowest, -⟩ := unpack_finite_bounds unpacked
    rw [unpacked] at zero
    exact absurd zero (RoundingInterval.shortest_ne_zero ⟨positive, fits, lowest⟩ tie)
  · rfl

end RoadGrowth.Numeric
