import RoadGrowth.Proofs.Graph.Buckets
import RoadGrowth.Proofs.Numeric.Fraction
import RoadGrowth.Proofs.Numeric.Increasing
import RoadGrowth.Proofs.Terrain.Land

/-!
# Points beside the map

A point is brought onto the map by bringing each coordinate between the first and the last
one of its axis. Every rounded step of a measurement keeps the order, so a coordinate
beside the map is measured beyond the one it is brought to: in front of the map and for
NaN both belong to the start of the first cell, behind the map both belong to the end of
the last one. So the cell of a point, the offset into it and all that is looked up with
them are those of the point on the map.
-/

namespace RoadGrowth

open Numeric

/-- A zero that is multiplied by a positive number keeps its sign. -/
theorem Numeric.zero_mul_of_pos {single : Float32} (finite : single.isFinite)
    (positive : 0 < rank single) : 0.0 * single = 0.0 := by
  obtain ⟨mantissa, exponent, nonzero, unpacked⟩ := unpack_of_pos finite positive
  have zero : Float.Model.UnpackedFloat.mul .binary32 (0.0 : Float32).toModel.unpack
      single.toModel.unpack = .zero .positive := by
    rw [unpacked]
    rfl
  exact (congrArg (fun value => Float32.ofModel (.pack value)) zero).trans (by decide)

namespace Terrain

variable {coordinate : Float32} {count : UInt32}

/-! ## Cell numbers -/

/-- The cell number of a measured coordinate, computed in words. -/
def cellWord (count : UInt32) (coordinate : Float32) : UInt32 :=
  min coordinate.toUInt32 (count - 1)

theorem toNat_cellWord (positive : 0 < count.toNat) (coordinate : Float32) :
    (cellWord count coordinate).toNat = cellNumber count.toNat positive coordinate := by
  rw [cellWord, UInt32.toNat_min, UInt32.toNat_sub_of_le count 1 positive]
  rfl

/-- A measured coordinate that does not reach zero, NaN included, has the first cell. -/
theorem cellNumber_of_not_le (positive : 0 < count.toNat) (before : ¬0.0 ≤ coordinate) :
    cellNumber count.toNat positive coordinate = ⟨0, positive⟩ := by
  by_contra notFirst
  have later : 0 < (cellNumber count.toNat positive coordinate).val :=
    Nat.pos_of_ne_zero fun first => notFirst (Fin.ext first)
  obtain ⟨isNumber, reached⟩ :=
    (le_cellNumber_iff positive (UInt32.toNat_lt _) coordinate later).mp le_rfl
  have nonneg := gridValue_nonneg_iff.mp ((Nat.cast_nonneg _).trans reached)
  exact before (le_iff.mpr ⟨by decide, isNumber, rank_zero.le.trans nonneg⟩)

/-- A measured coordinate that reaches the number of cells has the last cell. -/
theorem cellNumber_of_le (positive : 0 < count.toNat) (small : count.toNat ≤ 2 ^ 24)
    (behind : count.toFloat32 ≤ coordinate) :
    cellNumber count.toNat positive coordinate =
      ⟨count.toNat - 1, Nat.sub_lt positive Nat.one_pos⟩ := by
  obtain ⟨-, isNumber, ranks⟩ := le_iff.mp behind
  refine le_antisymm (Fin.le_def.mpr (Nat.le_sub_one_of_lt (Fin.isLt _))) ?_
  rcases Nat.eq_zero_or_pos (count.toNat - 1) with only | later
  · exact Fin.le_def.mpr (only.trans_le (Nat.zero_le _))
  · refine (le_cellNumber_iff positive (UInt32.toNat_lt _) _ later).mpr ⟨isNumber, ?_⟩
    calc ((count.toNat - 1 : Nat) : ℝ) ≤ count.toNat := Nat.cast_le.mpr (Nat.sub_le _ _)
      _ = realValue count.toFloat32 := (realValue_ofUInt32 small).symm
      _ ≤ realValue coordinate := gridValue_le_iff.mpr ranks

/-! ## Places on an axis -/

/-- The cell of a measured coordinate and how far the coordinate is into it. -/
def axisPlace (count : Nat) (positive : 0 < count) (coordinate : Float32) : Fin count × Float32 :=
  let number := cellNumber count positive coordinate
  (number, least (greatest (coordinate - (UInt32.ofNat number).toFloat32) 0.0) 1.0)

/-- The start of the first cell. -/
def axisStart (count : Nat) (positive : 0 < count) : Fin count × Float32 := (⟨0, positive⟩, 0.0)

/-- The end of the last cell. -/
def axisEnd (count : Nat) (positive : 0 < count) : Fin count × Float32 :=
  (⟨count - 1, Nat.sub_lt positive Nat.one_pos⟩, 1.0)

theorem isFraction_axisPlace (count : Nat) (positive : 0 < count) (coordinate : Float32) :
    IsFraction (axisPlace count positive coordinate).2 :=
  have bounds := least_greatest_bounds _ (by decide : (0.0 : Float32) ≤ 1.0)
  .of_bounds bounds.1 bounds.2

section

variable (positive : 0 < count.toNat)

theorem axisPlace_eq_start (first : cellNumber count.toNat positive coordinate = ⟨0, positive⟩)
    (offset : least (greatest (coordinate - 0.0) 0.0) 1.0 = 0.0) :
    axisPlace count.toNat positive coordinate = axisStart count.toNat positive := by
  have start : (UInt32.ofNat 0).toFloat32 = 0.0 := by decide
  rw [axisPlace, first]
  simp only [start, offset, axisStart]

theorem axisPlace_zero :
    axisPlace count.toNat positive 0.0 = axisStart count.toNat positive := by
  have zero : (0.0 : Float32).toUInt32.toNat = 0 := by decide
  refine axisPlace_eq_start positive (Fin.ext ?_) (by decide)
  exact (congrArg (min · _) zero).trans (Nat.zero_min _)

theorem axisPlace_of_not_le (before : ¬0.0 ≤ coordinate) :
    axisPlace count.toNat positive coordinate = axisStart count.toNat positive := by
  refine axisPlace_eq_start positive (cellNumber_of_not_le positive before) ?_
  refine least_greatest_of_not_le (by decide) ?_
  -- The bits are those of the single before zero.
  exact (increasing_sub (by decide : (0.0 : Float32).isFinite)).not_le (nan_sub _) (by decide)
    (by decide : (Float32.ofBits 0x80000001).isNaN = false) (by decide) (by decide) before

end

/-- Counts that differ by one are one apart as singles. -/
theorem one_le_sub_pred {start : UInt32} (small : count.toNat ≤ 2 ^ 24)
    (before : start.toNat + 1 = count.toNat) : 1.0 ≤ count.toFloat32 - start.toFloat32 := by
  have startSmall : start.toNat ≤ 2 ^ 24 := by omega
  have whole := isRounding_sub (isFinite_ofUInt32 small) (isFinite_ofUInt32 startSmall)
  have one : (count.toNat : ℝ) - start.toNat = 1 := by
    rw [← before, Nat.cast_succ, add_sub_cancel_left]
  rw [realValue_ofUInt32 small, realValue_ofUInt32 startSmall, one, ← realValue_one] at whole
  exact le_iff.mpr ⟨by decide, whole.isNumber, gridValue_le_iff.mp (whole.le_realValue le_rfl)⟩

theorem axisPlace_of_le (positive : 0 < count.toNat) (small : count.toNat ≤ 2 ^ 24)
    (behind : count.toFloat32 ≤ coordinate) :
    axisPlace count.toNat positive coordinate = axisEnd count.toNat positive := by
  have last := cellNumber_of_le positive small behind
  have before : (UInt32.ofNat (count.toNat - 1)).toNat + 1 = count.toNat := by
    rw [UInt32.toNat_ofNat_of_lt' ((Nat.sub_le _ _).trans_lt (UInt32.toNat_lt _))]
    exact Nat.sub_add_cancel positive
  have startSmall : (UInt32.ofNat (count.toNat - 1)).toNat ≤ 2 ^ 24 := by omega
  refine Prod.ext last (least_greatest_of_le (by decide) ?_ (by decide))
  rw [last]
  exact Numeric.le_trans (one_le_sub_pred small before)
    (increasing_sub (isFinite_ofUInt32 startSmall) behind)

/-! ## Measuring coordinates -/

theorem rank_count_pos (positive : 0 < count.toNat) (small : count.toNat ≤ 2 ^ 24) :
    0 < rank count.toFloat32 := by
  rw [← gridValue_lt_iff, gridValue_zero]
  exact (Nat.cast_pos.mpr positive).trans_eq (realValue_ofUInt32 small).symm

/-- The last coordinate on the map is measured as the number of cells. -/
theorem count_le_measured_last (small : count.toNat ≤ 2 ^ 24) :
    count.toFloat32 ≤ measured 1.0 count := by
  obtain ⟨-, -, scaled, -⟩ := measured_steps (by decide : (1.0 : Float32).isFinite) small
  have share : ((1.0 : Float32) + 1.0) * 0.5 = 1.0 := by decide
  rw [share, realValue_one, one_mul] at scaled
  refine le_iff.mpr ⟨(isRounding_ofUInt32 count).isNumber, scaled.isNumber, ?_⟩
  rw [← gridValue_le_iff]
  exact ((realValue_ofUInt32 small).trans (scaled.realValue_natCast small).symm).le

section

variable (positive : 0 < count.toNat) (small : count.toNat ≤ 2 ^ 24)

include positive small

theorem increasing_measured : Increasing (measured · count) :=
  (increasing_mul (isFinite_ofUInt32 small) (rank_count_pos positive small)).comp
    ((increasing_mul (by decide) (by decide)).comp (increasing_add (by decide)))

/-- The first coordinate on the map is measured as the positive zero. -/
theorem measured_first : measured (-1.0) count = 0.0 := by
  have share : ((-1.0 : Float32) + 1.0) * 0.5 = 0.0 := by decide
  rw [measured, share, zero_mul_of_pos (isFinite_ofUInt32 small) (rank_count_pos positive small)]

/-- The single before the first coordinate on the map is measured as a negative number: its share of
the axis is negative, and not nearer to zero after multiplication. -/
theorem not_le_measured_before : ¬0.0 ≤ measured (Float32.ofBits 0xbf800001) count := by
  obtain ⟨-, -, scaled, -⟩ :=
    measured_steps (by decide : (Float32.ofBits 0xbf800001).isFinite) small
  have negative : rank ((Float32.ofBits 0xbf800001 + 1.0) * 0.5) < 0 := by decide
  generalize (Float32.ofBits 0xbf800001 + 1.0) * 0.5 = share at scaled negative
  have nonpositive : realValue share ≤ 0 := by
    rw [← gridValue_zero]
    exact gridValue_le_iff.mpr negative.le
  have farther := gridValue_le_iff.mp (scaled.realValue_le
    (mul_le_of_one_le_right nonpositive (Nat.one_le_cast.mpr positive)))
  intro above
  have nonneg := (le_iff.mp above).2.2
  rw [rank_zero] at nonneg
  omega

theorem axisPlace_measured_of_not_le (before : ¬-1.0 ≤ coordinate) :
    axisPlace count.toNat positive (measured coordinate count) =
      axisStart count.toNat positive := by
  have undefined : measured Float32.nan count = Float32.nan := by
    have shifted : Float32.nan + 1.0 = Float32.nan := by decide
    rw [measured, shifted, nan_mul, nan_mul]
  apply axisPlace_of_not_le
  exact (increasing_measured positive small).not_le undefined (by decide) (by decide) (by decide)
    (not_le_measured_before positive small) before

theorem axisPlace_measured_of_le (behind : 1.0 ≤ coordinate) :
    axisPlace count.toNat positive (measured coordinate count) = axisEnd count.toNat positive :=
  axisPlace_of_le positive small (Numeric.le_trans (count_le_measured_last small)
    (increasing_measured positive small behind))

/-- A coordinate and the one on the map that it is brought to have the same place. -/
theorem axisPlace_nearest (coordinate : Float32) :
    axisPlace count.toNat positive (measured (least (greatest coordinate (-1.0)) 1.0) count) =
      axisPlace count.toNat positive (measured coordinate count) := by
  have ordered : (-1.0 : Float32) ≤ 1.0 := by decide
  -- Beside the map both coordinates have the place of the edge, on it they are the same one.
  by_cases above : -1.0 ≤ coordinate
  · by_cases behind : 1.0 ≤ coordinate
    · rw [least_greatest_of_le ordered behind (by decide),
        axisPlace_measured_of_le positive small behind,
        axisPlace_measured_of_le positive small (by decide)]
    · have below := lt_of_not_le (by decide) (le_iff.mp above).2.1 behind
      rw [least_greatest_of_between above (Numeric.le_of_lt below)]
  · rw [least_greatest_of_not_le ordered above, measured_first positive small,
      axisPlace_measured_of_not_le positive small above, axisPlace_zero]

end

/-! ## Points -/

/-- How far a point is into the cell that answers for it. -/
def offsetOf (terrain : Terrain) (position : Point) : Point :=
  ⟨(axisPlace terrain.columns terrain.columns_pos (terrain.gridPoint position).x).2,
    (axisPlace terrain.rows terrain.rows_pos (terrain.gridPoint position).y).2⟩

/-- The heights of four corners, blended at an offset from the first one. -/
def blended (near right above opposite : Float32) (offset : Point) : Float32 :=
  let lower := near + (right - near) * offset.x
  let upper := above + (opposite - above) * offset.x
  lower + (upper - lower) * offset.y

/-- An elevation is decided by the cell and the offset into it. -/
theorem elevation_eq (terrain : Terrain) (position : Point) :
    let height across along := (terrain.corner (terrain.cellOf position) across along).elevation
    terrain.elevation position =
      blended (height 0 0) (height 1 0) (height 0 1) (height 1 1) (terrain.offsetOf position) := rfl

theorem isFraction_blended {near right above opposite : Float32} {offset : Point}
    (first : IsFraction near) (second : IsFraction right) (third : IsFraction above)
    (fourth : IsFraction opposite) (x : IsFraction offset.x) (y : IsFraction offset.y) :
    IsFraction (blended near right above opposite offset) :=
  (first.between second x).between (third.between fourth x) y

theorem isFraction_elevation (terrain : Terrain) (position : Point)
    (heights : ∀ across along,
      IsFraction (terrain.corner (terrain.cellOf position) across along).elevation) :
    IsFraction (terrain.elevation position) := by
  rw [elevation_eq]
  exact isFraction_blended (heights 0 0) (heights 1 0) (heights 0 1) (heights 1 1)
    (isFraction_axisPlace _ _ _) (isFraction_axisPlace _ _ _)

/-- A point and the one on the map that it is brought to have the same cell and the same offset. -/
theorem cellOf_nearest (terrain : Terrain) (columnsSmall : terrain.columns ≤ 2 ^ 24)
    (rowsSmall : terrain.rows ≤ 2 ^ 24) (position : Point) :
    let nearest := position.clamp mapBounds.lower mapBounds.upper
    terrain.cellOf nearest = terrain.cellOf position ∧
      terrain.offsetOf nearest = terrain.offsetOf position := by
  have across := axisPlace_nearest terrain.columns_pos columnsSmall position.x
  have along := axisPlace_nearest terrain.rows_pos rowsSmall position.y
  obtain ⟨column, offsetX⟩ := Prod.ext_iff.mp across
  obtain ⟨row, offsetY⟩ := Prod.ext_iff.mp along
  exact ⟨Prod.ext column row, congrArg₂ Point.mk offsetX offsetY⟩

/-- With fewer vertices than words every corner of a cell is looked up in its place. -/
theorem getElem?_vertexWord (terrain : Terrain)
    (few : terrain.settings.divisions.vertexCount < UInt32.size) (cell : terrain.Cell)
    (across along : Fin 2) :
    terrain.samples[(terrain.settings.divisions.vertexWord (.ofNat (cell.1 + across))
      (.ofNat (cell.2 + along))).toNat]? = some (terrain.corner cell across along) := by
  have inColumns : cell.1 + across.val ≤ terrain.columns := by omega
  have inRows : cell.2 + along.val ≤ terrain.rows := by omega
  rw [Extent.toNat_vertexWord few inColumns inRows,
    Vector.getElem?_eq_getElem (Extent.corner_lt _ cell across along)]
  rfl

/-- There are fewer cells than vertices. -/
theorem cellCount_le (terrain : Terrain) :
    terrain.cellCount ≤ terrain.settings.divisions.vertexCount :=
  Nat.mul_le_mul (Nat.le_succ _) (Nat.le_succ _)

end Terrain

namespace CellIndex

/-- To add a node at a position and to look at the cells around it stays within the buckets: every
range check passes and every place in words is that of the cell. -/
structure Answers (index : CellIndex) (position : Point) : Prop where
  own : index.terrain.cellOf position ∈ index.block position
  checked : ∀ cell ∈ index.block position, index.inCell cell.1 cell.2 = .ok (index.bucket cell)
  placed : ∀ cell ∈ index.block position,
    index.buckets[(Terrain.placeWord cell).toNat]? = some (index.bucket cell)
  added : ∀ node,
    (index.insert node position).buckets[
        (Terrain.placeWord (index.terrain.cellOf position)).toNat]? =
      some ((index.bucket (index.terrain.cellOf position)).push node)

theorem answers (index : CellIndex) (few : index.terrain.cellCount < 2 ^ 32) (position : Point) :
    index.Answers position where
  own := mem_block.mpr ⟨⟨Nat.le_succ _, Nat.le_succ _⟩, Nat.le_succ _, Nat.le_succ _⟩
  checked cell _ := index.inCell_of_cell cell
  placed cell _ := by
    rw [Terrain.toNat_placeWord few, Vector.getElem?_eq_getElem (Terrain.cellIndex cell).isLt]
    rfl
  added node := by
    rw [Terrain.toNat_placeWord few]
    exact Vector.getElem?_set_self (Terrain.cellIndex _).isLt

end CellIndex

namespace Terrain

/-- Queries have an answer at every point, also at one that is infinite or NaN: the cell number
computed in words is that of a cell, the range checks of the cell, of its four corners and of the
buckets around the point pass, and no place in words is beyond its vertices or buckets. The map goes
on beyond its edge as it is there, since a point and the one on the map that it is brought to have
the same cell, are both on land or not, and have the same elevation, which is between zero and one
if the four heights are. -/
theorem queries_extend_edge (terrain : Terrain)
    (few : terrain.settings.divisions.vertexCount < UInt32.size)
    (columnsSmall : terrain.columns ≤ 2 ^ 24) (rowsSmall : terrain.rows ≤ 2 ^ 24)
    (position : Point) :
    let divisions := terrain.settings.divisions
    let cell := terrain.cellOf position
    let nearest := position.clamp mapBounds.lower mapBounds.upper
    ((cellWord divisions.columns (terrain.gridPoint position).x).toNat = cell.1 ∧
      (cellWord divisions.rows (terrain.gridPoint position).y).toNat = cell.2 ∧
      cell.1 ≤ terrain.columns - 1 ∧ cell.2 ≤ terrain.rows - 1) ∧
    terrain.cell cell.1 cell.2 = .ok (terrain.cellSample cell) ∧
    (∀ across along : Fin 2,
      terrain.vertex (cell.1 + across) (cell.2 + along) =
          .ok (terrain.corner cell across along) ∧
        terrain.samples[(divisions.vertexWord (.ofNat (cell.1 + across))
          (.ofNat (cell.2 + along))).toNat]? = some (terrain.corner cell across along)) ∧
    (∀ index : CellIndex, index.terrain = terrain → index.Answers position) ∧
    (terrain.cellOf nearest = cell ∧ terrain.isLand nearest = terrain.isLand position ∧
      terrain.elevation nearest = terrain.elevation position) ∧
    ((∀ across along : Fin 2, 0.0 ≤ (terrain.corner cell across along).elevation ∧
        (terrain.corner cell across along).elevation ≤ 1.0) →
      (terrain.elevation nearest == terrain.elevation position) = true ∧
        0.0 ≤ terrain.elevation position ∧ terrain.elevation position ≤ 1.0) := by
  intro divisions cell nearest
  obtain ⟨sameCell, sameOffset⟩ := terrain.cellOf_nearest columnsSmall rowsSmall position
  have sameElevation : terrain.elevation nearest = terrain.elevation position := by
    rw [elevation_eq, elevation_eq, sameCell, sameOffset]
  refine ⟨?numbers, dif_pos ⟨cell.1.isLt, cell.2.isLt⟩, ?corners, ?buckets,
    ⟨sameCell, congrArg terrain.cellIsLand sameCell, sameElevation⟩, ?fractions⟩
  case numbers =>
    exact ⟨toNat_cellWord terrain.columns_pos _, toNat_cellWord terrain.rows_pos _,
      Nat.le_sub_one_of_lt cell.1.isLt, Nat.le_sub_one_of_lt cell.2.isLt⟩
  case corners =>
    intro across along
    exact ⟨terrain.vertex_corner cell across along,
      terrain.getElem?_vertexWord few cell across along⟩
  case buckets =>
    rintro index rfl
    exact index.answers (index.terrain.cellCount_le.trans_lt few) position
  case fractions =>
    intro heights
    have fraction := terrain.isFraction_elevation position fun across along =>
      .of_bounds (heights across along).1 (heights across along).2
    rw [sameElevation]
    exact ⟨beq_iff.mpr ⟨fraction.isNumber, fraction.isNumber, rfl⟩, fraction.bounds⟩

/-- Two cells side by side whose vertices rise one by one: far to the right with an undefined row
the elevation is that of the last vertex of the first row, and far above to the left it is that of
the first vertex of the second row. -/
theorem queries_extend_edge_of_rising_vertices :
    let terrain : Terrain := ⟨{ divisions := ⟨2, 1⟩ }, ⟨[], ⟨1, 1⟩, 1.0⟩, by decide, by decide,
      .ofFn fun vertex => ⟨singleOfCount vertex / 8.0, 0.0, 0.0, 0.0⟩⟩
    (terrain.settings.divisions.vertexCount < UInt32.size ∧ terrain.columns ≤ 2 ^ 24 ∧
      terrain.rows ≤ 2 ^ 24) ∧
      terrain.elevation ⟨1.0 / 0.0, 0.0 / 0.0⟩ = 0.25 ∧
      terrain.elevation ⟨-2.0, 1.0 / 0.0⟩ = 0.375 ∧
      (terrain.elevation ⟨-1.0, 1.0⟩ == terrain.elevation ⟨-2.0, 1.0 / 0.0⟩) = true := by
  intro terrain
  have few : terrain.settings.divisions.vertexCount < UInt32.size := by decide
  have columnsSmall : terrain.columns ≤ 2 ^ 24 := by decide
  have rowsSmall : terrain.rows ≤ 2 ^ 24 := by decide
  obtain ⟨-, -, -, -, ⟨-, -, right⟩, -⟩ :=
    queries_extend_edge terrain few columnsSmall rowsSmall ⟨1.0 / 0.0, 0.0 / 0.0⟩
  obtain ⟨-, -, -, -, ⟨-, -, left⟩, agree⟩ :=
    queries_extend_edge terrain few columnsSmall rowsSmall ⟨-2.0, 1.0 / 0.0⟩
  have onMap : Point.clamp ⟨-2.0, 1.0 / 0.0⟩ mapBounds.lower mapBounds.upper = ⟨-1.0, 1.0⟩ := by
    decide
  rw [onMap] at left agree
  refine ⟨⟨few, columnsSmall, rowsSmall⟩, right.symm.trans ?_, left.symm.trans ?_,
    (agree ?_).1⟩
  · decide +kernel
  · decide
  · decide +kernel

end Terrain

end RoadGrowth
