import Mathlib.Data.List.ProdSigma
import Mathlib.SetTheory.Cardinal.Finite
import RoadGrowth.Proofs.Numeric.Division
import RoadGrowth.Proofs.Numeric.Extremes
import RoadGrowth.Proofs.Numeric.Whole
import RoadGrowth.Proofs.Terrain.Sampling

/-!
# Land and water

A cell is land exactly if the source is above the water line at all four corners of the
cell; one corner at the line makes it water. A point is on land if the cell that answers
for it is, which is the last cell that the measured point reaches on each axis. The share
of land counts every cell once.
-/

namespace RoadGrowth

open Numeric

namespace Terrain

variable {terrain : Terrain} {settings : TerrainSettings} {source : ElevationSource}
  {population : Population}

/-- At every corner of a cell the vertex has the height of the source, and it is above the water
line. -/
def CornersDry (terrain : Terrain) (source : ElevationSource) (cell : terrain.Cell) : Prop :=
  ∀ across along : Fin 2, ∃ sample,
    terrain.vertex (cell.1 + across) (cell.2 + along) = .ok sample ∧
      source (terrain.settings.latticePoint (.ofNat (cell.1 + across)) (.ofNat (cell.2 + along))) =
        .ok sample.elevation ∧
      terrain.settings.waterLine < sample.elevation

/-! ## The corners of a cell -/

theorem forall_cornerHeights_iff {property : Float32 → Prop} {cell : terrain.Cell} :
    (∀ height ∈ terrain.cornerHeights cell, property height) ↔
      ∀ across along : Fin 2, property (terrain.corner cell across along).elevation := by
  simp only [cornerHeights, List.forall_mem_cons, Fin.forall_fin_two, List.not_mem_nil,
    false_implies, implies_true]
  tauto

theorem Sampled.corner (sampled : terrain.Sampled source) (cell : terrain.Cell)
    (across along : Fin 2) :
    source (terrain.settings.latticePoint (.ofNat (cell.1 + across)) (.ofNat (cell.2 + along))) =
      .ok (terrain.corner cell across along).elevation :=
  sampled.elevation _ _

theorem Sampled.cornersDry_iff (sampled : terrain.Sampled source) {cell : terrain.Cell} :
    terrain.CornersDry source cell ↔ ∀ across along : Fin 2,
      terrain.settings.waterLine < (terrain.corner cell across along).elevation := by
  refine forall₂_congr fun across along => ?_
  rw [vertex_corner]
  constructor
  · rintro ⟨sample, own, -, dry⟩
    cases own
    exact dry
  · intro dry
    exact ⟨_, rfl, sampled.corner cell across along, dry⟩

/-- Whether corners are dry is decided by the source alone. -/
theorem Sampled.cornersDry_iff_source (sampled : terrain.Sampled source) {cell : terrain.Cell} :
    terrain.CornersDry source cell ↔ ∀ across along : Fin 2, ∃ height,
      source (terrain.settings.latticePoint (.ofNat (cell.1 + across))
        (.ofNat (cell.2 + along))) = .ok height ∧ terrain.settings.waterLine < height := by
  rw [sampled.cornersDry_iff]
  refine forall₂_congr fun across along => ?_
  rw [sampled.corner cell across along]
  simp only [Except.ok.injEq, exists_eq_left']

/-- A cell is land exactly if its corners are dry. -/
theorem Sampled.cellIsLand_iff (sampled : terrain.Sampled source)
    (numbers : ∀ point height, source point = .ok height → height.isNaN = false)
    (cell : terrain.Cell) :
    terrain.cellIsLand cell = true ↔ terrain.CornersDry source cell := by
  have heights : ∀ height ∈ terrain.cornerHeights cell, height.isNaN = false :=
    forall_cornerHeights_iff.mpr fun across along =>
      numbers _ _ (sampled.corner cell across along)
  have some : terrain.cornerHeights cell ≠ [] := List.cons_ne_nil _ _
  rw [cellIsLand, decide_eq_true_iff, sampled.lowest, lt_foldl_least_iff some heights,
    forall_cornerHeights_iff, sampled.cornersDry_iff]

/-! ## The cell of a point -/

/-- A coordinate that is measured in cells reaches the start of a cell. -/
def Reaches (coordinate : Float32) (number : Nat) : Prop :=
  coordinate.isNaN = false ∧ (number : ℝ) ≤ realValue coordinate

/-- The cell number is that of the last cell reached, or the first one. -/
theorem le_cellNumber_iff {count : Nat} (positive : 0 < count) (few : count < 2 ^ 32)
    (coordinate : Float32) {number : Fin count} (later : 0 < number.val) :
    number ≤ cellNumber count positive coordinate ↔ Reaches coordinate number := by
  have inside : number.val ≤ count - 1 := Nat.le_sub_one_of_lt number.isLt
  rw [Fin.le_def, cellNumber, le_min_iff, and_iff_left inside]
  exact le_toUInt32 later (number.isLt.trans few)

/-! ## The share of land -/

theorem nodup_cells (terrain : Terrain) : terrain.cells.Nodup := by
  -- The pairs have the column first though the rows are the outer loop.
  have swapped : terrain.cells =
      ((List.finRange terrain.rows).product (List.finRange terrain.columns)).map Prod.swap := by
    rw [List.product, List.map_flatMap]
    simp only [List.map_map]
    rfl
  rw [swapped]
  exact (List.Nodup.product (List.nodup_finRange _) (List.nodup_finRange _)).map
    Prod.swap_injective

/-- Counting along the list of cells counts cells. -/
theorem countP_cells (terrain : Terrain) (isCounted : terrain.Cell → Bool) :
    terrain.cells.countP isCounted = Nat.card {cell // isCounted cell = true} := by
  rw [List.countP_eq_length_filter,
    ← List.toFinset_card_of_nodup (terrain.nodup_cells.filter _)]
  refine (Nat.subtype_card _ fun cell => ?_).symm
  rw [List.mem_toFinset, List.mem_filter, and_iff_right (terrain.mem_cells cell)]

theorem card_cell (terrain : Terrain) : Nat.card terrain.Cell = terrain.columns * terrain.rows := by
  rw [Nat.card_prod, Nat.card_fin, Nat.card_fin]

theorem landFraction_eq {IsLand : terrain.Cell → Prop}
    (each : ∀ cell, terrain.cellIsLand cell = true ↔ IsLand cell) :
    terrain.landFraction = singleOfCount (Nat.card {cell // IsLand cell}) /
      singleOfCount (Nat.card terrain.Cell) := by
  rw [landFraction, countP_cells, card_cell]
  simp only [each]

/-- Land on a map that is built from numbers. A point is measured in cells from the first vertex on;
the cell that answers for it is the last one that it reaches on each axis, or the first one. The
point is on land exactly if all four corners of that cell are above the water line, and the share of
land is the number of cells with such corners by the number of all cells, which is the nearest
single to the quotient as long as there are at most `2 ^ 24` cells. -/
theorem land_exact (built : build settings source population = .ok terrain)
    (numbers : ∀ point height, source point = .ok height → height.isNaN = false) :
    terrain.settings = settings ∧
    (∀ position,
      (∀ column : Fin terrain.columns, 0 < column.val →
        (column ≤ (terrain.cellOf position).1 ↔ Reaches (terrain.gridPoint position).x column)) ∧
      (∀ row : Fin terrain.rows, 0 < row.val →
        (row ≤ (terrain.cellOf position).2 ↔ Reaches (terrain.gridPoint position).y row)) ∧
      (terrain.isLand position = true ↔
        terrain.CornersDry source (terrain.cellOf position))) ∧
    terrain.landFraction =
      singleOfCount (Nat.card {cell // terrain.CornersDry source cell}) /
        singleOfCount (Nat.card terrain.Cell) ∧
    (Nat.card terrain.Cell ≤ 2 ^ 24 →
      IsRounding ((Nat.card {cell // terrain.CornersDry source cell} : ℝ) /
        Nat.card terrain.Cell) terrain.landFraction) := by
  obtain ⟨settingsEq, -, sampled⟩ := sampled_of_build built
  have land := sampled.cellIsLand_iff numbers
  have share := landFraction_eq land
  refine ⟨settingsEq, fun position => ⟨fun column later => ?_, fun row later => ?_, land _⟩, share,
    fun small => ?_⟩
  · exact le_cellNumber_iff terrain.columns_pos (UInt32.toNat_lt _) _ later
  · exact le_cellNumber_iff terrain.rows_pos (UInt32.toNat_lt _) _ later
  · rw [share]
    refine isRounding_quotient (Finite.card_subtype_le _) ?_ small
    rw [card_cell]
    exact Nat.mul_pos terrain.columns_pos terrain.rows_pos

/-- Heights that are below the usual water line near the first vertex only. -/
def lowAtStart : ElevationSource := fun point =>
  .ok (if point.x < 1.0 ∧ point.y < 1.0 then 0.25 else 0.75)

/-- Two cells side by side, of which the first has one low corner: it is water and the second is
land, also for points beside the map, so that half of the map is land. -/
theorem land_exact_on_low_start :
    (∀ point height, lowAtStart point = .ok height → height.isNaN = false) ∧
      ∃ terrain, build { divisions := ⟨2, 1⟩ } lowAtStart ⟨[], ⟨1, 1⟩, 1.0⟩ = .ok terrain ∧
        terrain.isLand ⟨-0.25, 0.5⟩ = false ∧ terrain.isLand ⟨0.25, 0.5⟩ = true ∧
        terrain.isLand ⟨0.0 / 0.0, 9.0⟩ = false ∧ terrain.isLand ⟨9.0, 0.0 / 0.0⟩ = true ∧
        terrain.landFraction = 0.5 := by
  have numbers : ∀ point height, lowAtStart point = .ok height → height.isNaN = false := by
    intro point height known
    cases known
    split <;> decide
  have possible :
      ∃ terrain, build { divisions := ⟨2, 1⟩ } lowAtStart ⟨[], ⟨1, 1⟩, 1.0⟩ = .ok terrain :=
    exists_build_iff.mpr ⟨by decide, fun _ _ _ _ => ⟨_, rfl⟩⟩
  obtain ⟨⟨_, population, columnsPositive, rowsPositive, samples⟩, built⟩ := possible
  obtain ⟨same, positions, share, -⟩ := land_exact built numbers
  have sampled := (sampled_of_build built).2.2
  refine ⟨numbers, _, built, ?_⟩
  clear built
  cases same
  have corners : ∀ cell : Fin 2 × Fin 1,
      (∀ across along : Fin 2, ∃ height, lowAtStart (TerrainSettings.latticePoint
        { divisions := ⟨2, 1⟩ } (.ofNat (cell.1 + across)) (.ofNat (cell.2 + along))) = .ok height ∧
        Float32.ofBits 0x3ee66666 < height) ↔ cell.1.val = 1 := by
    simp only [lowAtStart, Except.ok.injEq, exists_eq_left']
    decide +kernel
  have dry : ∀ cell : Cell ⟨_, population, columnsPositive, rowsPositive, samples⟩,
      CornersDry _ lowAtStart cell ↔ cell.1.val = 1 := fun cell =>
    sampled.cornersDry_iff_source.trans (corners cell)
  simp only [dry] at positions share
  have one : Nat.card {cell : Cell ⟨_, population, columnsPositive, rowsPositive, samples⟩ //
      cell.1.val = 1} = 1 := by
    rw [Nat.card_eq_fintype_card]
    change Fintype.card {cell : Fin 2 × Fin 1 // cell.1.val = 1} = 1
    decide
  refine ⟨Bool.eq_false_iff.mpr ((positions _).2.2.not.mpr ?_), (positions _).2.2.mpr ?_,
    Bool.eq_false_iff.mpr ((positions _).2.2.not.mpr ?_), (positions _).2.2.mpr ?_,
    share.trans ?_⟩
  · change ¬(cellNumber 2 two_pos ((-0.25 + 1.0) * 0.5 * (2 : UInt32).toFloat32)).val = 1
    decide +kernel
  · change (cellNumber 2 two_pos ((0.25 + 1.0) * 0.5 * (2 : UInt32).toFloat32)).val = 1
    decide +kernel
  · change ¬(cellNumber 2 two_pos ((0.0 / 0.0 + 1.0) * 0.5 * (2 : UInt32).toFloat32)).val = 1
    decide +kernel
  · change (cellNumber 2 two_pos ((9.0 + 1.0) * 0.5 * (2 : UInt32).toFloat32)).val = 1
    decide +kernel
  · rw [one, card_cell]
    change singleOfCount 1 / singleOfCount 2 = 0.5
    decide +kernel

end Terrain

end RoadGrowth
