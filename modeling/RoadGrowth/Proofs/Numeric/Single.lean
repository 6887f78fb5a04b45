import RoadGrowth.Proofs.Numeric.Grid

/-!
# Singles on the grid

Every single that is a number has a rank on the grid, infinity the rank behind the
largest finite single. The rank is read off the unpacked form, in which significand
and exponent are canonical. Packing a canonical value keeps its rank, up to the
ranks of the two infinities.
-/

namespace RoadGrowth.Numeric

open Float.Model (Format UnpackedFloat)
open Float.Model.UnpackedFloat

/-- The rank of positive infinity. -/
def topRank : Int := 255 * 2 ^ 23

theorem gridValue_topRank : gridValue topRank = 2 ^ 128 := by
  have top : topRank = (2 ^ 23 : Nat) + ((105 : Int) + 149) * 2 ^ 23 := rfl
  rw [top, gridValue_scaled (by decide) (by decide) (.inl le_rfl)]
  norm_num

/-- The value of the largest finite single. -/
theorem gridValue_largest : gridValue (topRank - 1) = 2 ^ 128 - 2 ^ 104 := by
  have largest : topRank - 1 = (2 ^ 24 - 1 : Nat) + ((104 : Int) + 149) * 2 ^ 23 := rfl
  rw [largest, gridValue_scaled (by decide) (by decide) (.inl (by decide))]
  norm_num

/-- A rank brought between those of the infinities. -/
def clampRank (rank : Int) : Int := max (-topRank) (min topRank rank)

/-- The rank of an unpacked number; zero for NaN. -/
def unpackedRank : UnpackedFloat → Int
  | .notANumber => 0
  | .infinity sign => sign.apply topRank
  | .zero _ => 0
  | .finite sign mantissa exponent _ => sign.apply (mantissa + (exponent + 149) * 2 ^ 23)

/-- The significand has 24 bits, or fewer at the smallest exponent. -/
def Canonical : UnpackedFloat → Prop
  | .finite _ mantissa exponent _ =>
    mantissa < 2 ^ 24 ∧ -149 ≤ exponent ∧ (2 ^ 23 ≤ mantissa ∨ exponent = -149)
  | _ => True

/-- The rank of a single. -/
def rank (single : Float32) : Int := unpackedRank single.toModel.unpack

/-- The number that a single stands for; the next grid value behind the largest for infinity. -/
noncomputable def realValue (single : Float32) : ℝ := gridValue (rank single)

/-! ## Packing -/

/-- The significand of a normal number from its stored part. -/
theorem toNat_implicit_append (stored : BitVec 23) :
    (1#1 ++ stored).toNat = 2 ^ 23 + stored.toNat := by
  rw [BitVec.toNat_append, ← Nat.shiftLeft_add_eq_or_of_lt stored.isLt]
  rfl

theorem unpack_packedInfinity (sign : Sign) :
    unpack Format.binary32 (packedInfinity Format.binary32 sign) = .infinity sign := by
  cases sign <;> rfl

theorem pack_finite (sign : Sign) (mantissa : Nat) (exponent : Int) (positive : 0 < mantissa) :
    pack Format.binary32 (.finite sign mantissa exponent positive) =
      if 2 ^ 8 ≤ (exponent + 150).toNat + 1 then packedInfinity Format.binary32 sign
      else if mantissa.log2 + 1 = 24 then
        packComponents Format.binary32 sign (BitVec.ofNat 8 (exponent + 150).toNat)
          (BitVec.ofNat 23 mantissa)
      else packComponents Format.binary32 sign 0#8 (BitVec.ofNat 23 mantissa) := by
  have bias : exponent + 150 = exponent + 127 + 23 := by omega
  rw [bias]
  rfl

theorem unpack_normal (sign : Sign) {exponent : BitVec 8} (stored : BitVec 23)
    (notTop : exponent ≠ -1#8) (notBottom : exponent ≠ 0#8) :
    unpack Format.binary32 (packComponents Format.binary32 sign exponent stored) =
      .finite sign (2 ^ 23 + stored.toNat) (exponent.toNat - 150) (by omega) := by
  simp only [unpack, unpackMantissa_packComponents, unpackExponent_packComponents,
    unpackSign_packComponents, Sign.ofBitVec_toBitVec, if_neg notTop, if_neg notBottom]
  rw [UnpackedFloat.finite.injEq]
  exact ⟨rfl, toNat_implicit_append stored, rfl⟩

theorem unpack_subnormal (sign : Sign) {stored : BitVec 23} (notZero : stored ≠ 0#23) :
    unpack Format.binary32 (packComponents Format.binary32 sign 0#8 stored) =
      .finite sign stored.toNat (-149)
        (by simpa [BitVec.toNat_pos, BitVec.pos_iff_ne_zero] using notZero) := by
  simp only [unpack, unpackMantissa_packComponents, unpackExponent_packComponents,
    unpackSign_packComponents, Sign.ofBitVec_toBitVec, dif_neg notZero]
  rfl

/-- A canonical value whose exponent the format has comes back unchanged. -/
theorem unpack_pack_finite {sign : Sign} {mantissa : Nat} {exponent : Int}
    (positive : 0 < mantissa) (canonical : Canonical (.finite sign mantissa exponent positive))
    (small : exponent < 105) :
    unpack Format.binary32 (pack Format.binary32 (.finite sign mantissa exponent positive)) =
      .finite sign mantissa exponent positive := by
  obtain ⟨fits, lowest, normal⟩ := canonical
  have notInfinite : ¬2 ^ 8 ≤ (exponent + 150).toNat + 1 := by omega
  by_cases full : 2 ^ 23 ≤ mantissa
  · have bits : mantissa.log2 + 1 = 24 := by
      rw [(Nat.log2_eq_iff (by omega : mantissa ≠ 0)).mpr ⟨full, fits⟩]
    have exponentToNat :
        (BitVec.ofNat 8 (exponent + 150).toNat).toNat = (exponent + 150).toNat := by
      rw [BitVec.toNat_ofNat]
      omega
    have notTop : BitVec.ofNat 8 (exponent + 150).toNat ≠ -1#8 := by
      intro same
      have values := congrArg BitVec.toNat same
      rw [exponentToNat] at values
      change (exponent + 150).toNat = 255 at values
      omega
    have notBottom : BitVec.ofNat 8 (exponent + 150).toNat ≠ 0#8 := by
      intro same
      have values := congrArg BitVec.toNat same
      rw [exponentToNat] at values
      change (exponent + 150).toNat = 0 at values
      omega
    have restored : 2 ^ 23 + (BitVec.ofNat 23 mantissa).toNat = mantissa := by
      rw [BitVec.toNat_ofNat]
      omega
    rw [pack_finite, if_neg notInfinite, if_pos bits, unpack_normal _ _ notTop notBottom]
    simp only [restored, exponentToNat, UnpackedFloat.finite.injEq, true_and]
    omega
  · have bits : ¬mantissa.log2 + 1 = 24 := by
      have := (Nat.log2_lt (by omega : mantissa ≠ 0)).mpr (Nat.lt_of_not_le full)
      omega
    have restored : (BitVec.ofNat 23 mantissa).toNat = mantissa := by
      rw [BitVec.toNat_ofNat]
      omega
    have notZero : BitVec.ofNat 23 mantissa ≠ 0#23 := by
      intro same
      have values := congrArg BitVec.toNat same
      rw [restored] at values
      change mantissa = 0 at values
      omega
    rw [pack_finite, if_neg notInfinite, if_neg bits, unpack_subnormal _ notZero]
    simp only [restored, UnpackedFloat.finite.injEq, true_and]
    omega

/-- The number a packed canonical value stands for. -/
theorem unpackedRank_unpack_pack {value : UnpackedFloat} (canonical : Canonical value) :
    unpackedRank (unpack Format.binary32 (pack Format.binary32 value)) =
      clampRank (unpackedRank value) := by
  cases value with
  | notANumber => rfl
  | infinity sign => cases sign <;> rfl
  | zero sign => cases sign <;> rfl
  | finite sign mantissa exponent positive =>
    obtain ⟨fits, lowest, normal⟩ := id canonical
    by_cases small : exponent < 105
    · rw [unpack_pack_finite positive canonical small]
      cases sign <;> simp only [unpackedRank, Sign.apply, clampRank, topRank] <;> omega
    · have infinite : 2 ^ 8 ≤ (exponent + 150).toNat + 1 := by omega
      rw [pack_finite, if_pos infinite, unpack_packedInfinity]
      cases sign <;> simp only [unpackedRank, Sign.apply, clampRank, topRank] <;> omega

theorem isNaN_unpack_pack {value : UnpackedFloat} (canonical : Canonical value) :
    (unpack Format.binary32 (pack Format.binary32 value)).isNaN = value.isNaN := by
  cases value with
  | notANumber => rfl
  | infinity sign => cases sign <;> rfl
  | zero sign => cases sign <;> rfl
  | finite sign mantissa exponent positive =>
    by_cases small : exponent < 105
    · rw [unpack_pack_finite positive canonical small]
    · have infinite : 2 ^ 8 ≤ (exponent + 150).toNat + 1 := by omega
      rw [pack_finite, if_pos infinite, unpack_packedInfinity]
      rfl

/-- A packed value has a sign, an exponent and a stored part. -/
theorem exists_packComponents (bits : BitVec Format.binary32.numBits) :
    ∃ (sign : Sign) (exponent : BitVec 8) (stored : BitVec 23),
      packComponents Format.binary32 sign exponent stored = bits := by
  have sign : ∀ bit : BitVec 1, (Sign.ofBitVec bit).toBitVec = bit := by decide
  refine ⟨Sign.ofBitVec (unpackSign bits), unpackExponent bits, unpackMantissa bits, ?_⟩
  rw [packComponents, sign]
  change BitVec 32 at bits
  change bits.extractLsb' 31 1 ++ bits.extractLsb' 23 8 ++ bits.extractLsb' 0 23 = bits
  have upper : bits.extractLsb' 31 1 ++ bits.extractLsb' 23 8 = bits.extractLsb' 23 9 :=
    BitVec.extractLsb'_append_extractLsb'_eq_extractLsb' rfl
  have whole : bits.extractLsb' 23 9 ++ bits.extractLsb' 0 23 = bits.extractLsb' 0 32 :=
    BitVec.extractLsb'_append_extractLsb'_eq_extractLsb' rfl
  rw [upper, whole]
  exact BitVec.extractLsb'_eq_self

/-- Valid bits come back unchanged. -/
theorem pack_unpack {bits : BitVec Format.binary32.numBits} (valid : Format.binary32.Valid bits) :
    pack Format.binary32 (unpack Format.binary32 bits) = bits := by
  obtain ⟨sign, exponent, stored, rfl⟩ := exists_packComponents bits
  have fits : stored.toNat < 2 ^ 23 := stored.isLt
  by_cases top : exponent = -1#8
  · subst top
    by_cases empty : stored = 0#23
    · subst empty
      exact congrArg (pack _) (unpack_packedInfinity sign)
    · rw [valid.eq_packedNaN (by simp) (by simpa using empty)]
      rfl
  by_cases bottom : exponent = 0#8
  · subst bottom
    by_cases none : stored = 0#23
    · subst none
      cases sign <;> rfl
    · have short : ¬stored.toNat.log2 + 1 = 24 := by
        have nonzero : stored.toNat ≠ 0 := fun same => none (BitVec.eq_of_toNat_eq same)
        have := (Nat.log2_lt nonzero).mpr fits
        omega
      rw [unpack_subnormal sign none, pack_finite, if_neg (by decide), if_neg short,
        BitVec.ofNat_toNat, BitVec.setWidth_eq]
  · have notTop : exponent.toNat ≠ 255 := fun same => top (BitVec.eq_of_toNat_eq same)
    have inRange := exponent.isLt
    have biased : ((exponent.toNat : Int) - 150 + 150).toNat = exponent.toNat := by omega
    have full : (2 ^ 23 + stored.toNat).log2 = 23 :=
      (Nat.log2_eq_iff (by omega)).mpr ⟨by omega, by omega⟩
    have restored : BitVec.ofNat 23 (2 ^ 23 + stored.toNat) = stored := by
      apply BitVec.eq_of_toNat_eq
      rw [BitVec.toNat_ofNat]
      omega
    rw [unpack_normal sign stored top bottom, pack_finite, biased, if_neg (by omega), full,
      if_pos rfl, restored, BitVec.ofNat_toNat, BitVec.setWidth_eq]

/-! ## Unpacked singles -/

/-- What a single unpacks to: the significand is canonical and the exponent is in range. -/
theorem unpack_finite_bounds {bits : BitVec Format.binary32.numBits} {sign : Sign}
    {mantissa : Nat} {exponent : Int} {positive : 0 < mantissa}
    (unpacked : unpack Format.binary32 bits = .finite sign mantissa exponent positive) :
    mantissa < 2 ^ 24 ∧ -149 ≤ exponent ∧ (2 ^ 23 ≤ mantissa ∨ exponent = -149) ∧
      exponent < 105 := by
  have storedLt : (unpackMantissa bits).toNat < 2 ^ 23 :=
    (unpackMantissa bits).isLt
  have biasedLt : (unpackExponent bits).toNat < 2 ^ 8 :=
    (unpackExponent bits).isLt
  simp only [unpack] at unpacked
  split_ifs at unpacked with top empty bottom none
  · rw [UnpackedFloat.finite.injEq] at unpacked
    obtain ⟨-, rfl, exponentEq⟩ := unpacked
    rw [bottom] at exponentEq
    change (0 : Int) - (127 + 23) + 1 = exponent at exponentEq
    omega
  · rw [UnpackedFloat.finite.injEq] at unpacked
    obtain ⟨-, mantissaEq, exponentEq⟩ := unpacked
    have notTop : (unpackExponent bits).toNat ≠ 255 := fun same =>
      top (BitVec.eq_of_toNat_eq same)
    have notBottom : (unpackExponent bits).toNat ≠ 0 := fun same =>
      bottom (BitVec.eq_of_toNat_eq same)
    have significand := toNat_implicit_append (unpackMantissa bits)
    change ((unpackExponent bits).toNat : Int) - (127 + 23) = exponent
      at exponentEq
    omega

/-- The ranks of finite singles lie between those of the infinities. -/
theorem unpackedRank_finite {bits : BitVec Format.binary32.numBits} {sign : Sign}
    {mantissa : Nat} {exponent : Int} {positive : 0 < mantissa}
    (unpacked : unpack Format.binary32 bits = .finite sign mantissa exponent positive) :
    -topRank < unpackedRank (.finite sign mantissa exponent positive) ∧
      unpackedRank (.finite sign mantissa exponent positive) < topRank := by
  obtain ⟨fits, lowest, normal, highest⟩ := unpack_finite_bounds unpacked
  cases sign <;> simp only [unpackedRank, Sign.apply, topRank] <;> omega

theorem unpackedRank_positive {mantissa : Nat} {exponent : Int} {positive : 0 < mantissa}
    (canonical : Canonical (.finite .positive mantissa exponent positive)) :
    0 < unpackedRank (.finite .positive mantissa exponent positive) := by
  obtain ⟨fits, lowest, normal⟩ := canonical
  simp only [unpackedRank, Sign.apply]
  omega

theorem unpackedRank_negative {mantissa : Nat} {exponent : Int} {positive : 0 < mantissa}
    (canonical : Canonical (.finite .negative mantissa exponent positive)) :
    unpackedRank (.finite .negative mantissa exponent positive) < 0 := by
  have opposite : 0 < unpackedRank (.finite .positive mantissa exponent positive) :=
    unpackedRank_positive canonical
  exact Int.neg_neg_of_pos opposite

theorem canonical_unpack (single : Float32) : Canonical single.toModel.unpack := by
  cases unpacked : single.toModel.unpack with
  | finite sign mantissa exponent positive =>
    obtain ⟨fits, lowest, normal, -⟩ := unpack_finite_bounds unpacked
    exact ⟨fits, lowest, normal⟩
  | notANumber => trivial
  | infinity sign => trivial
  | zero sign => trivial

/-- A single is finite exactly if it is a number whose rank lies between those of the infinities. -/
theorem isFinite_iff (single : Float32) :
    single.isFinite ↔ single.isNaN = false ∧ -topRank < rank single ∧ rank single < topRank := by
  change single.toModel.unpack.isFinite ↔ single.toModel.unpack.isNaN = false ∧
    -topRank < unpackedRank single.toModel.unpack ∧ unpackedRank single.toModel.unpack < topRank
  cases unpacked : single.toModel.unpack with
  | finite sign mantissa exponent positive =>
    exact ⟨fun _ => ⟨rfl, unpackedRank_finite unpacked⟩, fun _ => rfl⟩
  | notANumber => simp [UnpackedFloat.isFinite, UnpackedFloat.isNaN]
  | infinity sign =>
    cases sign <;> simp [UnpackedFloat.isFinite, UnpackedFloat.isNaN, unpackedRank, Sign.apply]
  | zero sign => simp [UnpackedFloat.isFinite, UnpackedFloat.isNaN, unpackedRank, topRank]

/-- Singles that unpack alike are the same. -/
theorem unpack_injective {left right : Float32}
    (same : left.toModel.unpack = right.toModel.unpack) : left = right := by
  obtain ⟨⟨leftWord, leftValid⟩⟩ := left
  obtain ⟨⟨rightWord, rightValid⟩⟩ := right
  have bits : leftWord.toBitVec = rightWord.toBitVec := by
    rw [← pack_unpack leftValid, ← pack_unpack rightValid]
    exact congrArg (pack _) same
  obtain rfl := UInt32.eq_of_toBitVec_eq bits
  rfl

/-- Except for the two zeros a number is known by its rank. -/
theorem eq_of_rank_eq {left right : Float32} (same : rank left = rank right)
    (nonzero : rank left ≠ 0) : left = right := by
  have leftCanonical := canonical_unpack left
  have rightCanonical := canonical_unpack right
  have rightNonzero : rank right ≠ 0 := same ▸ nonzero
  apply unpack_injective
  unfold rank at same nonzero rightNonzero
  cases leftUnpacked : left.toModel.unpack with
  | notANumber | zero =>
    rw [leftUnpacked] at nonzero
    exact absurd rfl nonzero
  | infinity leftSign =>
    rw [leftUnpacked] at same
    cases rightUnpacked : right.toModel.unpack with
    | notANumber | zero =>
      rw [rightUnpacked] at rightNonzero
      exact absurd rfl rightNonzero
    | infinity rightSign =>
      rw [rightUnpacked] at same
      cases leftSign <;> cases rightSign
      · rfl
      · exact absurd same (by decide)
      · exact absurd same (by decide)
      · rfl
    | finite =>
      obtain ⟨above, below⟩ := unpackedRank_finite rightUnpacked
      rw [rightUnpacked] at same
      cases leftSign
      · exact absurd same above.ne
      · exact absurd same below.ne'
  | finite leftSign leftMantissa leftExponent leftPositive =>
    rw [leftUnpacked] at same leftCanonical
    cases rightUnpacked : right.toModel.unpack with
    | notANumber | zero =>
      rw [rightUnpacked] at rightNonzero
      exact absurd rfl rightNonzero
    | infinity rightSign =>
      obtain ⟨above, below⟩ := unpackedRank_finite leftUnpacked
      rw [rightUnpacked] at same
      cases rightSign
      · exact absurd same above.ne'
      · exact absurd same below.ne
    | finite rightSign rightMantissa rightExponent rightPositive =>
      rw [rightUnpacked] at same rightCanonical
      obtain ⟨leftFits, leftLowest, leftNormal⟩ := leftCanonical
      obtain ⟨rightFits, rightLowest, rightNormal⟩ := rightCanonical
      simp only [unpackedRank] at same
      rw [UnpackedFloat.finite.injEq]
      cases leftSign <;> cases rightSign <;> simp only [Sign.apply] at same
      · exact ⟨rfl, by omega, by omega⟩
      · omega
      · omega
      · exact ⟨rfl, by omega, by omega⟩

end RoadGrowth.Numeric
