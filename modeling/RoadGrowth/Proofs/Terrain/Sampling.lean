import RoadGrowth.Proofs.Outcome
import RoadGrowth.Terrain.Query

/-!
# Sampling a map

A map is built exactly if it has a cell and the source gives a height at every vertex.
Each vertex then has its own height and density. A vertex that starts a cell also has the
lowest and the mean height of the four corners of that cell, taken in one order, and a
vertex of the last column or row repeats its own height.
-/

namespace RoadGrowth

open Numeric

/-! ## Places of vertices -/

namespace Extent

variable {divisions : Extent} {column row : Nat}

theorem vertexIndex_mod (inColumns : column ≤ divisions.columns.toNat) :
    divisions.vertexIndex column row % (divisions.columns.toNat + 1) = column := by
  rw [Nat.mul_add_mod', Nat.mod_eq_of_lt (Nat.lt_succ_of_le inColumns)]

theorem vertexIndex_div (inColumns : column ≤ divisions.columns.toNat) :
    divisions.vertexIndex column row / (divisions.columns.toNat + 1) = row := by
  rw [vertexIndex, Nat.mul_comm, Nat.mul_add_div (Nat.succ_pos _),
    Nat.div_eq_of_lt (Nat.lt_succ_of_le inColumns), Nat.add_zero]

theorem vertexIndex_injective {otherColumn otherRow : Nat}
    (inColumns : column ≤ divisions.columns.toNat)
    (otherInColumns : otherColumn ≤ divisions.columns.toNat)
    (same : divisions.vertexIndex column row = divisions.vertexIndex otherColumn otherRow) :
    column = otherColumn ∧ row = otherRow := by
  have columns := congrArg (· % (divisions.columns.toNat + 1)) same
  have rows := congrArg (· / (divisions.columns.toNat + 1)) same
  simp only [vertexIndex_mod inColumns, vertexIndex_mod otherInColumns] at columns
  simp only [vertexIndex_div inColumns, vertexIndex_div otherInColumns] at rows
  exact ⟨columns, rows⟩

/-- Every place is that of a vertex. -/
theorem exists_vertexIndex {place : Nat} (inside : place < divisions.vertexCount) :
    ∃ column row, column ≤ divisions.columns.toNat ∧ row ≤ divisions.rows.toNat ∧
      divisions.vertexIndex column row = place := by
  refine ⟨place % (divisions.columns.toNat + 1), place / (divisions.columns.toNat + 1),
    Nat.le_of_lt_succ (Nat.mod_lt _ (Nat.succ_pos _)),
    Nat.le_of_lt_succ (Nat.div_lt_of_lt_mul inside), Nat.div_add_mod' _ _⟩

theorem corner_lt (divisions : Extent)
    (cell : Fin divisions.columns.toNat × Fin divisions.rows.toNat) (across along : Fin 2) :
    divisions.vertexIndex (cell.1 + across) (cell.2 + along) < divisions.vertexCount :=
  divisions.vertexIndex_lt (by omega) (by omega)

/-- The place of the vertex that a cell starts from. -/
def startOf (divisions : Extent)
    (cell : Fin divisions.columns.toNat × Fin divisions.rows.toNat) : Fin divisions.vertexCount :=
  ⟨divisions.vertexIndex cell.1 cell.2,
    divisions.vertexIndex_lt (Nat.le_of_lt cell.1.isLt) (Nat.le_of_lt cell.2.isLt)⟩

/-- The place of a vertex, computed in words. -/
def vertexWord (divisions : Extent) (column row : UInt32) : UInt32 :=
  row * (divisions.columns + 1) + column

/-- With fewer vertices than words no place wraps. -/
theorem toNat_vertexWord (few : divisions.vertexCount < UInt32.size)
    (inColumns : column ≤ divisions.columns.toNat) (inRows : row ≤ divisions.rows.toNat) :
    (divisions.vertexWord (.ofNat column) (.ofNat row)).toNat =
      divisions.vertexIndex column row := by
  have place := divisions.vertexIndex_lt inColumns inRows
  have width : divisions.columns.toNat + 1 ≤ divisions.vertexCount :=
    Nat.le_mul_of_pos_right _ (Nat.succ_pos _)
  have widthWord : (divisions.columns + 1).toNat = divisions.columns.toNat + 1 :=
    Nat.mod_eq_of_lt (Nat.lt_of_le_of_lt width few)
  have columnWord : column % 2 ^ 32 = column :=
    Nat.mod_eq_of_lt (Nat.lt_of_le_of_lt inColumns (UInt32.toNat_lt _))
  have rowWord : row % 2 ^ 32 = row :=
    Nat.mod_eq_of_lt (Nat.lt_of_le_of_lt inRows (UInt32.toNat_lt _))
  rw [vertexWord, UInt32.toNat_add, UInt32.toNat_mul, widthWord, Nat.mod_add_mod,
    UInt32.toNat_ofNat', UInt32.toNat_ofNat', columnWord, rowWord]
  exact Nat.mod_eq_of_lt (Nat.lt_trans place few)

end Extent

namespace Terrain

/-! ## Heights -/

section

variable {settings : TerrainSettings} {source : ElevationSource}

theorem heights_eq_ok {heights : Vector Float32 settings.divisions.vertexCount} :
    Terrain.heights settings source = .ok heights ↔
      ∀ {column row : Nat} (inColumns : column ≤ settings.divisions.columns.toNat)
        (inRows : row ≤ settings.divisions.rows.toNat),
        source (settings.latticePoint (.ofNat column) (.ofNat row)) =
          .ok (heights.get ⟨_, settings.divisions.vertexIndex_lt inColumns inRows⟩) := by
  rw [Terrain.heights, ofFnM_eq_ok]
  constructor
  · intro each column row inColumns inRows
    have known := each ⟨_, settings.divisions.vertexIndex_lt inColumns inRows⟩
    simp only [Extent.vertexIndex_mod inColumns, Extent.vertexIndex_div inColumns] at known
    exact known
  · rintro each ⟨place, inside⟩
    obtain ⟨column, row, inColumns, inRows, rfl⟩ := Extent.exists_vertexIndex inside
    simp only [Extent.vertexIndex_mod inColumns, Extent.vertexIndex_div inColumns]
    exact each inColumns inRows

/-- All heights are known exactly if the source gives one at every vertex. -/
theorem exists_heights_iff :
    (∃ heights, Terrain.heights settings source = .ok heights) ↔
      ∀ column row, column ≤ settings.divisions.columns.toNat →
        row ≤ settings.divisions.rows.toNat →
        ∃ height, source (settings.latticePoint (.ofNat column) (.ofNat row)) = .ok height := by
  constructor
  · rintro ⟨heights, done⟩ column row inColumns inRows
    exact ⟨_, heights_eq_ok.mp done inColumns inRows⟩
  · intro each
    refine exists_ofFnM_iff.mpr fun ⟨place, inside⟩ => ?_
    obtain ⟨column, row, inColumns, inRows, rfl⟩ := Extent.exists_vertexIndex inside
    simp only [Extent.vertexIndex_mod inColumns, Extent.vertexIndex_div inColumns]
    exact each column row inColumns inRows

end

/-! ## Samples -/

/-- The lowest of the heights around a cell, row by row from its first corner on. -/
def lowestAround (height : Fin 2 → Fin 2 → Float32) : Float32 :=
  lowestOf (height 0 0) (height 1 0) (height 0 1) (height 1 1)

/-- The mean of the heights around a cell, added row by row from its first corner on. -/
def meanAround (height : Fin 2 → Fin 2 → Float32) : Float32 :=
  meanOf (height 0 0) (height 1 0) (height 0 1) (height 1 1)

section

variable (divisions : Extent) (population : Population)
  (heights : Vector Float32 divisions.vertexCount)

theorem sampleAt_vertex {column row : Nat} (inColumns : column ≤ divisions.columns.toNat)
    (inRows : row ≤ divisions.rows.toNat) :
    let place := ⟨_, divisions.vertexIndex_lt inColumns inRows⟩
    (sampleAt divisions population heights place).elevation = heights.get place ∧
      (sampleAt divisions population heights place).density =
        population.density (vertexPosition divisions (.ofNat column) (.ofNat row)) := by
  simp only [sampleAt, Extent.vertexIndex_mod inColumns, Extent.vertexIndex_div inColumns]
  split <;> exact ⟨rfl, rfl⟩

theorem sampleAt_cell (cell : Fin divisions.columns.toNat × Fin divisions.rows.toNat) :
    let height (across along : Fin 2) : Float32 :=
      heights.get ⟨_, divisions.corner_lt cell across along⟩
    let sample := sampleAt divisions population heights (divisions.startOf cell)
    sample.lowest = lowestAround height ∧ sample.mean = meanAround height := by
  have inColumns : cell.1.val ≤ divisions.columns.toNat := Nat.le_of_lt cell.1.isLt
  have inside : cell.1.val < divisions.columns.toNat ∧ cell.2.val < divisions.rows.toNat :=
    ⟨cell.1.isLt, cell.2.isLt⟩
  simp only [sampleAt, Extent.startOf, Extent.vertexIndex_mod inColumns,
    Extent.vertexIndex_div inColumns]
  rw [dif_pos inside]
  exact ⟨rfl, rfl⟩

theorem sampleAt_edge {column row : Nat} (inColumns : column ≤ divisions.columns.toNat)
    (inRows : row ≤ divisions.rows.toNat)
    (edge : column = divisions.columns.toNat ∨ row = divisions.rows.toNat) :
    let place := ⟨_, divisions.vertexIndex_lt inColumns inRows⟩
    (sampleAt divisions population heights place).lowest = heights.get place ∧
      (sampleAt divisions population heights place).mean = heights.get place := by
  have outside : ¬(column < divisions.columns.toNat ∧ row < divisions.rows.toNat) := by omega
  simp only [sampleAt, Extent.vertexIndex_mod inColumns, Extent.vertexIndex_div inColumns]
  rw [dif_neg outside]
  exact ⟨rfl, rfl⟩

end

/-- The sample at a corner of a cell: its own vertex or the one to the right, below or above. -/
def corner (terrain : Terrain) (cell : terrain.Cell) (across along : Fin 2) : VertexSample :=
  terrain.sample (cell.1 + across) (cell.2 + along) (by omega) (by omega)

theorem mem_cells (terrain : Terrain) (cell : terrain.Cell) : cell ∈ terrain.cells :=
  List.mem_flatMap.mpr ⟨cell.2, List.mem_finRange _, List.mem_map_of_mem (List.mem_finRange cell.1)⟩

theorem vertex_eq_ok (terrain : Terrain) {column row : Nat} (inColumns : column ≤ terrain.columns)
    (inRows : row ≤ terrain.rows) :
    terrain.vertex column row = .ok (terrain.sample column row inColumns inRows) :=
  dif_pos ⟨inColumns, inRows⟩

theorem vertex_corner (terrain : Terrain) (cell : terrain.Cell) (across along : Fin 2) :
    terrain.vertex (cell.1 + across) (cell.2 + along) = .ok (terrain.corner cell across along) :=
  terrain.vertex_eq_ok _ _

/-- The heights at the corners of a cell, in the order in which they are taken. -/
def cornerHeights (terrain : Terrain) (cell : terrain.Cell) : List Float32 :=
  [(terrain.corner cell 0 0).elevation, (terrain.corner cell 1 0).elevation,
    (terrain.corner cell 0 1).elevation, (terrain.corner cell 1 1).elevation]

/-- Every vertex of a terrain is sampled from a source of heights and from the population, and
carries what is known of the corners of its cell. -/
structure Sampled (terrain : Terrain) (source : ElevationSource) : Prop where
  elevation : ∀ {column row : Nat} (inColumns : column ≤ terrain.columns)
    (inRows : row ≤ terrain.rows),
    source (terrain.settings.latticePoint (.ofNat column) (.ofNat row)) =
      .ok (terrain.sample column row inColumns inRows).elevation
  density : ∀ {column row : Nat} (inColumns : column ≤ terrain.columns)
    (inRows : row ≤ terrain.rows),
    (terrain.sample column row inColumns inRows).density = terrain.population.density
      (vertexPosition terrain.settings.divisions (.ofNat column) (.ofNat row))
  lowest : ∀ cell : terrain.Cell,
    (terrain.cellSample cell).lowest = (terrain.cornerHeights cell).foldl least (1.0 / 0.0)
  mean : ∀ cell : terrain.Cell, (terrain.cellSample cell).mean =
    ((terrain.corner cell 0 0).elevation + (terrain.corner cell 1 0).elevation +
      (terrain.corner cell 0 1).elevation + (terrain.corner cell 1 1).elevation) / 4.0
  edge : ∀ {column row : Nat} (inColumns : column ≤ terrain.columns)
    (inRows : row ≤ terrain.rows), column = terrain.columns ∨ row = terrain.rows →
    (terrain.sample column row inColumns inRows).lowest =
        (terrain.sample column row inColumns inRows).elevation ∧
      (terrain.sample column row inColumns inRows).mean =
        (terrain.sample column row inColumns inRows).elevation

/-! ## The map that is built -/

variable {terrain : Terrain} {settings : TerrainSettings} {source : ElevationSource}
  {population : Population}

section

variable {heights : Vector Float32 terrain.settings.divisions.vertexCount}
  (filled : terrain.samples =
    .ofFn (sampleAt terrain.settings.divisions terrain.population heights))

include filled

theorem sample_of_filled {column row : Nat} (inColumns : column ≤ terrain.columns)
    (inRows : row ≤ terrain.rows) :
    terrain.sample column row inColumns inRows =
      sampleAt terrain.settings.divisions terrain.population heights
        ⟨_, terrain.settings.divisions.vertexIndex_lt inColumns inRows⟩ := by
  rw [sample, filled]
  exact Vector.getElem_ofFn _

theorem elevation_of_filled {column row : Nat} (inColumns : column ≤ terrain.columns)
    (inRows : row ≤ terrain.rows) :
    (terrain.sample column row inColumns inRows).elevation =
      heights.get ⟨_, terrain.settings.divisions.vertexIndex_lt inColumns inRows⟩ := by
  rw [sample_of_filled filled]
  exact (sampleAt_vertex _ _ heights inColumns inRows).1

theorem sampled_of_filled (known : Terrain.heights terrain.settings source = .ok heights) :
    terrain.Sampled source := by
  constructor
  case elevation =>
    intro column row inColumns inRows
    rw [elevation_of_filled filled]
    exact heights_eq_ok.mp known inColumns inRows
  case density =>
    intro column row inColumns inRows
    rw [sample_of_filled filled]
    exact (sampleAt_vertex _ _ heights inColumns inRows).2
  case lowest =>
    intro cell
    rw [cellSample, sample_of_filled filled]
    simp only [cornerHeights, corner, elevation_of_filled filled]
    exact (sampleAt_cell _ _ heights cell).1
  case mean =>
    intro cell
    rw [cellSample, sample_of_filled filled]
    simp only [corner, elevation_of_filled filled]
    exact (sampleAt_cell _ _ heights cell).2
  case edge =>
    intro column row inColumns inRows edge
    rw [elevation_of_filled filled, sample_of_filled filled]
    exact sampleAt_edge _ _ heights inColumns inRows edge

end

theorem sampled_of_build (built : build settings source population = .ok terrain) :
    terrain.settings = settings ∧ terrain.population = population ∧ terrain.Sampled source := by
  unfold build at built
  split at built
  · obtain ⟨heights, known, done⟩ := bind_eq_ok.mp built
    cases done
    exact ⟨rfl, rfl, sampled_of_filled rfl known⟩
  · cases built

/-- A map is built exactly if it has a cell and the source gives a height at every vertex. -/
theorem exists_build_iff : (∃ terrain, build settings source population = .ok terrain) ↔
    (0 < settings.divisions.columns.toNat ∧ 0 < settings.divisions.rows.toNat) ∧
      ∀ column row, column ≤ settings.divisions.columns.toNat →
        row ≤ settings.divisions.rows.toNat →
        ∃ height, source (settings.latticePoint (.ofNat column) (.ofNat row)) = .ok height := by
  rw [← exists_heights_iff]
  unfold build
  split
  · rename_i positive
    simp only [bind_eq_ok]
    constructor
    · rintro ⟨terrain, heights, known, -⟩
      exact ⟨positive, heights, known⟩
    · rintro ⟨-, heights, known⟩
      exact ⟨_, heights, known, rfl⟩
  · rename_i none
    constructor
    · rintro ⟨terrain, built⟩
      cases built
    · rintro ⟨positive, -⟩
      exact absurd positive none

end Terrain

end RoadGrowth
