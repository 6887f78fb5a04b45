import Mathlib.Data.List.Induction
import RoadGrowth.Proofs.Terrain.Sampling

/-!
# Aggregation in place

The lowest and the mean height of each cell may be written into the samples one cell after
the other. A cell reads the heights of its corners and writes neither a height nor a
density, so no cell reads what another has written. Whatever the order, and also if a cell
comes twice, the samples that are left are those of the map.
-/

namespace RoadGrowth

open Numeric

attribute [ext] VertexSample

namespace VertexSample

/-- What is known at a vertex before the corners of its cell are. -/
def bare (sample : VertexSample) : VertexSample :=
  { sample with lowest := sample.elevation, mean := sample.elevation }

@[simp] theorem bare_bare (sample : VertexSample) : sample.bare.bare = sample.bare := rfl

theorem bare_eq_iff {sample other : VertexSample} : sample.bare = other.bare ↔
    sample.elevation = other.elevation ∧ sample.density = other.density := by
  rw [bare, bare, mk.injEq]
  exact ⟨fun same => ⟨same.1, same.2.1⟩, fun same => ⟨same.1, same.2, same.1, same.1⟩⟩

end VertexSample

namespace Terrain

/-- Write the lowest and the mean height of the corners of a cell into the sample of its vertex. -/
def aggregate (divisions : Extent) (samples : Vector VertexSample divisions.vertexCount)
    (cell : Fin divisions.columns.toNat × Fin divisions.rows.toNat) :
    Vector VertexSample divisions.vertexCount :=
  let height (across along : Fin 2) : Float32 :=
    (samples.get ⟨_, divisions.corner_lt cell across along⟩).elevation
  samples.set (divisions.vertexIndex cell.1 cell.2)
    { samples.get (divisions.startOf cell) with
      lowest := lowestAround height
      mean := meanAround height }
    (divisions.startOf cell).isLt

variable {terrain : Terrain} {source : ElevationSource} {done : List terrain.Cell}
  {samples : Vector VertexSample terrain.settings.divisions.vertexCount}

/-- Samples in which the cells of a list are aggregated and all other vertices are bare. -/
structure Swept (terrain : Terrain) (done : List terrain.Cell)
    (samples : Vector VertexSample terrain.settings.divisions.vertexCount) : Prop where
  aggregated : ∀ cell ∈ done,
    samples.get (terrain.settings.divisions.startOf cell) = terrain.cellSample cell
  bare : ∀ {column row : Nat} (inColumns : column ≤ terrain.columns)
    (inRows : row ≤ terrain.rows), (∀ cell ∈ done, cell.1.val = column → cell.2.val ≠ row) →
    samples.get ⟨_, terrain.settings.divisions.vertexIndex_lt inColumns inRows⟩ =
      (terrain.sample column row inColumns inRows).bare

/-- Heights and densities are those of the map at any time. -/
theorem Swept.bare_eq (swept : terrain.Swept done samples) {column row : Nat}
    (inColumns : column ≤ terrain.columns) (inRows : row ≤ terrain.rows) :
    (samples.get ⟨_, terrain.settings.divisions.vertexIndex_lt inColumns inRows⟩).bare =
      (terrain.sample column row inColumns inRows).bare := by
  by_cases other : ∀ cell ∈ done, cell.1.val = column → cell.2.val ≠ row
  · rw [swept.bare inColumns inRows other, VertexSample.bare_bare]
  · push Not at other
    obtain ⟨cell, member, rfl, rfl⟩ := other
    exact congrArg VertexSample.bare (swept.aggregated cell member)

theorem Swept.corner_eq (swept : terrain.Swept done samples) (cell : terrain.Cell)
    (across along : Fin 2) :
    (samples.get ⟨_, terrain.settings.divisions.corner_lt cell across along⟩).elevation =
      (terrain.corner cell across along).elevation := by
  have inColumns : cell.1.val + across.val ≤ terrain.columns := by omega
  have inRows : cell.2.val + along.val ≤ terrain.rows := by omega
  exact (VertexSample.bare_eq_iff.mp (swept.bare_eq inColumns inRows)).1

/-- Aggregating a cell leaves it as on the map, whatever was done before. -/
theorem Swept.aggregate_eq (swept : terrain.Swept done samples) (sampled : terrain.Sampled source)
    (cell : terrain.Cell) :
    aggregate terrain.settings.divisions samples cell =
      samples.set (terrain.settings.divisions.vertexIndex cell.1 cell.2) (terrain.cellSample cell)
        (terrain.settings.divisions.startOf cell).isLt := by
  have own := swept.bare_eq (Nat.le_of_lt cell.1.isLt) (Nat.le_of_lt cell.2.isLt)
  obtain ⟨elevation, density⟩ := VertexSample.bare_eq_iff.mp own
  simp only [aggregate, swept.corner_eq]
  congr 1
  exact VertexSample.ext elevation density (sampled.lowest cell).symm (sampled.mean cell).symm

theorem Swept.append (swept : terrain.Swept done samples) (sampled : terrain.Sampled source)
    (cell : terrain.Cell) :
    terrain.Swept (done ++ [cell]) (aggregate terrain.settings.divisions samples cell) := by
  rw [swept.aggregate_eq sampled]
  constructor
  case aggregated =>
    intro other member
    refine (Vector.getElem_set _ _).trans ?_
    split_ifs with here
    · obtain ⟨sameColumn, sameRow⟩ := Extent.vertexIndex_injective (Nat.le_of_lt cell.1.isLt)
        (Nat.le_of_lt other.1.isLt) here
      rw [Prod.ext (Fin.ext sameColumn) (Fin.ext sameRow)]
    · rcases List.mem_append.mp member with before | last
      · exact swept.aggregated other before
      · rw [List.mem_singleton.mp last] at here
        exact absurd rfl here
  case bare =>
    intro column row inColumns inRows elsewhere
    refine (Vector.getElem_set _ _).trans ?_
    split_ifs with here
    · obtain ⟨sameColumn, sameRow⟩ := Extent.vertexIndex_injective (Nat.le_of_lt cell.1.isLt)
        inColumns here
      exact absurd sameRow (elsewhere cell (by simp) sameColumn)
    · exact swept.bare inColumns inRows fun other member =>
        elsewhere other (List.mem_append_left _ member)

/-- Without any cell done all vertices are bare. -/
theorem swept_nil (terrain : Terrain) :
    terrain.Swept [] (terrain.samples.map VertexSample.bare) where
  aggregated _ member := absurd member List.not_mem_nil
  bare _ _ _ := Vector.getElem_map _ _

theorem swept_foldl (sampled : terrain.Sampled source) (cells : List terrain.Cell) :
    terrain.Swept cells (cells.foldl (aggregate terrain.settings.divisions)
      (terrain.samples.map VertexSample.bare)) := by
  induction cells using List.reverseRecOn with
  | nil => exact swept_nil terrain
  | append_singleton cells cell ih =>
    rw [List.foldl_append]
    exact ih.append sampled cell

/-- With all cells done nothing is left to do: a vertex that starts no cell is bare on the map. -/
theorem Swept.eq_samples (swept : terrain.Swept done samples) (sampled : terrain.Sampled source)
    (all : ∀ cell, cell ∈ done) : samples = terrain.samples := by
  refine Vector.ext fun place inside => ?_
  obtain ⟨column, row, (inColumns : column ≤ terrain.columns),
    (inRows : row ≤ terrain.rows), rfl⟩ :=
    Extent.exists_vertexIndex inside
  by_cases starts : column < terrain.columns ∧ row < terrain.rows
  · exact swept.aggregated _ (all (⟨column, starts.1⟩, ⟨row, starts.2⟩))
  · refine (swept.bare inColumns inRows fun cell _ sameColumn sameRow => ?_).trans ?_
    · exact starts ⟨sameColumn ▸ cell.1.isLt, sameRow ▸ cell.2.isLt⟩
    · obtain ⟨lowest, mean⟩ := sampled.edge inColumns inRows (by omega)
      exact VertexSample.ext rfl rfl lowest.symm mean.symm

/-- The vertices of a map that is built. It is built exactly if it has a cell and the source gives a
height at every vertex. Every vertex then has the height that the source gives there and the density
of the population there; it stands at its place in row-by-row order, which does not wrap if there
are fewer vertices than words. A vertex of the last column or row repeats its height. A vertex that
starts a cell has the lowest and the mean of the heights at the four corners, taken from the first
corner to the opposite one row by row. The same comes of aggregating the cells in place, in any
order. -/
theorem build_exact (settings : TerrainSettings) (source : ElevationSource)
    (population : Population) :
    ((∃ terrain, build settings source population = .ok terrain) ↔
      (0 < settings.divisions.columns.toNat ∧ 0 < settings.divisions.rows.toNat) ∧
        ∀ column row, column ≤ settings.divisions.columns.toNat →
          row ≤ settings.divisions.rows.toNat →
          ∃ height, source (settings.latticePoint (.ofNat column) (.ofNat row)) = .ok height) ∧
    ∀ terrain, build settings source population = .ok terrain →
      terrain.settings = settings ∧ terrain.population = population ∧
      (∀ column row, column ≤ terrain.columns → row ≤ terrain.rows →
        ∃ own, terrain.vertex column row = .ok own ∧
          source (settings.latticePoint (.ofNat column) (.ofNat row)) = .ok own.elevation ∧
          own.density =
            population.density (vertexPosition settings.divisions (.ofNat column) (.ofNat row)) ∧
          (column = terrain.columns ∨ row = terrain.rows →
            own.lowest = own.elevation ∧ own.mean = own.elevation) ∧
          (settings.divisions.vertexCount < UInt32.size →
            terrain.samples[(settings.divisions.vertexWord (.ofNat column) (.ofNat row)).toNat]? =
              some own)) ∧
      (∀ column row, column < terrain.columns → row < terrain.rows →
        ∃ own right above opposite, terrain.cell column row = .ok own ∧
          terrain.vertex column row = .ok own ∧
          terrain.vertex (column + 1) row = .ok right ∧
          terrain.vertex column (row + 1) = .ok above ∧
          terrain.vertex (column + 1) (row + 1) = .ok opposite ∧
          own.lowest = [own.elevation, right.elevation, above.elevation,
            opposite.elevation].foldl least (1.0 / 0.0) ∧
          own.mean =
            (own.elevation + right.elevation + above.elevation + opposite.elevation) / 4.0) ∧
      ∀ cells : List terrain.Cell, (∀ cell, cell ∈ cells) →
        cells.foldl (aggregate terrain.settings.divisions)
          (terrain.samples.map VertexSample.bare) = terrain.samples := by
  refine ⟨exists_build_iff, fun terrain built => ?_⟩
  obtain ⟨rfl, rfl, sampled⟩ := sampled_of_build built
  refine ⟨rfl, rfl, fun column row inColumns inRows => ?vertex,
    fun column row inColumns inRows => ?cell,
    fun cells all => (swept_foldl sampled cells).eq_samples sampled all⟩
  case vertex =>
    refine ⟨_, terrain.vertex_eq_ok inColumns inRows, sampled.elevation inColumns inRows,
      sampled.density inColumns inRows, sampled.edge inColumns inRows, fun few => ?_⟩
    rw [Extent.toNat_vertexWord few inColumns inRows]
    exact Vector.getElem?_eq_getElem _
  case cell =>
    let cell : terrain.Cell := (⟨column, inColumns⟩, ⟨row, inRows⟩)
    exact ⟨terrain.corner cell 0 0, terrain.corner cell 1 0, terrain.corner cell 0 1,
      terrain.corner cell 1 1, dif_pos ⟨inColumns, inRows⟩, terrain.vertex_corner cell 0 0,
      terrain.vertex_corner cell 1 0, terrain.vertex_corner cell 0 1,
      terrain.vertex_corner cell 1 1, sampled.lowest cell, sampled.mean cell⟩

/-- Two cells side by side on a slope, with one center at the lower edge of the first: the second
cell is lowest above its own vertex, the density falls towards the last column, whose vertices
repeat their height, and the cells may be aggregated from the last one back. -/
theorem build_exact_on_two_cells :
    let source : ElevationSource := fun point => .ok (point.x * 0.25 - point.y * 0.125)
    let population : Population := ⟨[⟨0.5, 0.0⟩], ⟨2, 1⟩, 2.0⟩
    ∃ terrain own last, build { divisions := ⟨2, 1⟩ } source population = .ok terrain ∧
      terrain.cell 1 0 = .ok own ∧ own.elevation = 0.375 ∧ own.density = 0.421875 ∧
      own.lowest = 0.0 ∧ own.mean = 0.375 ∧
      terrain.vertex 2 0 = .ok last ∧ last.density = 0.015625 ∧ last.lowest = 0.75 ∧
      last.mean = 0.75 ∧ terrain.samples[2]? = some last ∧
      terrain.cells.reverse.foldl (aggregate terrain.settings.divisions)
        (terrain.samples.map VertexSample.bare) = terrain.samples := by
  intro source population
  let settings : TerrainSettings := { divisions := ⟨2, 1⟩ }
  obtain ⟨built, exact⟩ := build_exact settings source population
  obtain ⟨terrain, built⟩ := built.mpr ⟨by decide, fun _ _ _ _ => ⟨_, rfl⟩⟩
  obtain ⟨settingsEq, -, vertices, cells, inPlace⟩ := exact terrain built
  have columns : terrain.columns = 2 := by rw [columns, settingsEq]; rfl
  have rows : terrain.rows = 1 := by rw [rows, settingsEq]; rfl
  have sampled : ∀ {column row : Nat} {sample : VertexSample}, column ≤ 2 → row ≤ 1 →
      terrain.vertex column row = .ok sample →
      source (settings.latticePoint (.ofNat column) (.ofNat row)) = .ok sample.elevation ∧
        sample.density =
          population.density (vertexPosition settings.divisions (.ofNat column) (.ofNat row)) := by
    intro column row sample inColumns inRows known
    obtain ⟨own, ownKnown, sourced, populated, -⟩ := vertices column row (by omega) (by omega)
    rw [known] at ownKnown
    cases ownKnown
    exact ⟨sourced, populated⟩
  obtain ⟨own, right, above, opposite, ownCell, ownKnown, rightKnown, aboveKnown, oppositeKnown,
    lowest, mean⟩ := cells 1 0 (by omega) (by omega)
  obtain ⟨last, lastKnown, -, -, edge, placed⟩ := vertices 2 0 (by omega) (by omega)
  obtain ⟨ownSource, ownDensity⟩ := sampled (by decide) (by decide) ownKnown
  obtain ⟨rightSource, rightDensity⟩ := sampled (by decide) (by decide) rightKnown
  have ownHeight := (Except.ok.inj ownSource).symm
  have rightHeight := (Except.ok.inj rightSource).symm
  have aboveHeight := (Except.ok.inj (sampled (by decide) (by decide) aboveKnown).1).symm
  have oppositeHeight := (Except.ok.inj (sampled (by decide) (by decide) oppositeKnown).1).symm
  rw [ownHeight, rightHeight, aboveHeight, oppositeHeight] at lowest mean
  rw [rightKnown] at lastKnown
  cases lastKnown
  obtain ⟨lastLowest, lastMean⟩ := edge (.inl columns.symm)
  rw [rightHeight] at lastLowest lastMean
  refine ⟨terrain, own, right, built, ownCell, ownHeight.trans ?_, ownDensity.trans ?_,
    lowest.trans ?_, mean.trans ?_, rightKnown, rightDensity.trans ?_, lastLowest.trans ?_,
    lastMean.trans ?_, placed (by decide),
    inPlace _ fun cell => List.mem_reverse.mpr (terrain.mem_cells cell)⟩
  all_goals decide +kernel

end Terrain

end RoadGrowth
