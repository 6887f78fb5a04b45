import RoadGrowth.Placement.Bounds
import RoadGrowth.Proofs.Plane.Rectangles
import RoadGrowth.Proofs.Terrain.Cells

/-!
# Clipping towards an undefined point

A point is undefined when a coordinate is NaN. No rectangle contains it, but clipping
still may find an end for it: no edge is in the way on an axis on which the move is
NaN, and the NaN coordinate is then brought to the lower edge. A move that is infinite
on the other axis has no fraction inside.
-/

namespace RoadGrowth

open Numeric

namespace Bounds

variable {rectangle : Rectangle} {candidate : Candidate} {position : Point}

/-- The end of the fraction that lies inside a rectangle, brought between its corners. -/
def clipped (rectangle : Rectangle) (candidate : Candidate) : Point :=
  (candidate.pointAt (fractionInside rectangle candidate)).clamp rectangle.lower rectangle.upper

theorem clip_eq_some_iff : clip rectangle candidate = some position ↔
    rectangle.contains candidate.startPosition ∧ 0.0 < fractionInside rectangle candidate ∧
      clipped rectangle candidate = position := by
  unfold clip
  split
  · rename_i inside
    dsimp only
    split
    · rename_i positive
      simp [inside, positive, clipped]
    · rename_i none
      simp [none]
  · rename_i outside
    simp [outside]

/-- Whatever a candidate is clipped to lies inside. -/
theorem contains_of_clip (proper : rectangle.IsProper)
    (found : clip rectangle candidate = some position) : rectangle.contains position := by
  obtain ⟨-, -, rfl⟩ := clip_eq_some_iff.mp found
  exact Rectangle.contains_clamp proper _

/-! ## NaN coordinates -/

/-- A NaN coordinate is clipped to the lower edge. -/
theorem clipped_x (proper : rectangle.IsProper) (none : candidate.endPosition.x = Float32.nan) :
    (clipped rectangle candidate).x = rectangle.lower.x := by
  change least (greatest (candidate.startPosition.x * _ + candidate.endPosition.x * _) _) _ = _
  rw [none, nan_mul, add_nan, least_greatest_nan proper.1]

theorem clipped_y (proper : rectangle.IsProper) (none : candidate.endPosition.y = Float32.nan) :
    (clipped rectangle candidate).y = rectangle.lower.y := by
  change least (greatest (candidate.startPosition.y * _ + candidate.endPosition.y * _) _) _ = _
  rw [none, nan_mul, add_nan, least_greatest_nan proper.2]

theorem cut_nan (fraction start lower upper : Float32) :
    cut fraction start Float32.nan lower upper = fraction := by
  rw [cut, if_neg (not_lt_nan _), if_neg (not_nan_lt _)]

/-- No edge is in the way on an axis on which the end is NaN. -/
theorem fractionInside_of_x (none : candidate.endPosition.x = Float32.nan) :
    fractionInside rectangle candidate =
      cut 1.0 candidate.startPosition.y (candidate.endPosition.y - candidate.startPosition.y)
        rectangle.lower.y rectangle.upper.y := by
  change cut (cut 1.0 candidate.startPosition.x
    (candidate.endPosition.x - candidate.startPosition.x) _ _) _ _ _ _ = _
  rw [none, nan_sub, cut_nan]
  rfl

theorem fractionInside_of_y (none : candidate.endPosition.y = Float32.nan) :
    fractionInside rectangle candidate =
      cut 1.0 candidate.startPosition.x (candidate.endPosition.x - candidate.startPosition.x)
        rectangle.lower.x rectangle.upper.x := by
  change cut _ _ (candidate.endPosition.y - candidate.startPosition.y) _ _ = _
  rw [none, nan_sub, cut_nan]
  rfl

/-! ## Infinite moves -/

/-- An infinite move meets the edge in its way at once. -/
theorem not_pos_cut {fraction start move lower upper : Float32} (infinite : move.isInf)
    (above : (upper - start).isFinite) (below : (lower - start).isFinite) :
    ¬0.0 < cut fraction start move lower upper := by
  have vanishes : ∀ {distance : Float32}, distance.isFinite →
      ¬0.0 < least fraction (distance / move) := by
    intro distance finite positive
    obtain ⟨isNumber, none⟩ := div_of_isInf finite infinite
    have ranks := (lt_iff.mp (lt_of_lt_least isNumber positive)).2.2
    rw [none] at ranks
    exact absurd ranks (by decide)
  unfold cut
  split_ifs with forwards backwards
  · exact vanishes above
  · exact vanishes below
  · exact absurd (lt_or_lt_of_isInf infinite) (not_or.mpr ⟨forwards, backwards⟩)

end Bounds

namespace Terrain

variable {candidate : Candidate}

theorem isProper_mapBounds : mapBounds.IsProper :=
  ⟨by decide +kernel, by decide +kernel⟩

/-- A coordinate of the map is finite and at most one in size. -/
theorem abs_realValue_le_one {coordinate : Float32}
    (inside : -1.0 ≤ coordinate ∧ coordinate ≤ 1.0) :
    coordinate.isFinite ∧ |realValue coordinate| ≤ 1 := by
  obtain ⟨above, below⟩ := inside
  have low : realValue (-1.0) ≤ realValue coordinate :=
    gridValue_le_iff.mpr (le_iff.mp above).2.2
  have high : realValue coordinate ≤ realValue 1.0 :=
    gridValue_le_iff.mpr (le_iff.mp below).2.2
  rw [realValue_neg, realValue_one] at low
  rw [realValue_one] at high
  exact ⟨isFinite_of_between (by decide) (by decide) above below, abs_le.mpr ⟨low, high⟩⟩

/-- The way between coordinates of the map is finite. -/
theorem isFinite_sub {edge coordinate : Float32} (edgeInside : -1.0 ≤ edge ∧ edge ≤ 1.0)
    (inside : -1.0 ≤ coordinate ∧ coordinate ≤ 1.0) : (edge - coordinate).isFinite := by
  obtain ⟨edgeFinite, edgeSize⟩ := abs_realValue_le_one edgeInside
  obtain ⟨finite, size⟩ := abs_realValue_le_one inside
  refine (isRounding_sub edgeFinite finite).isFinite ((abs_sub _ _).trans_lt ?_)
  norm_num
  linarith

/-- From a place on the map an infinite move meets the edge in its way at once. -/
theorem not_pos_cut {fraction start finish : Float32} (inside : -1.0 ≤ start ∧ start ≤ 1.0)
    (infinite : finish.isInf) : ¬0.0 < Bounds.cut fraction start (finish - start) (-1.0) 1.0 :=
  Bounds.not_pos_cut (isInf_sub infinite (abs_realValue_le_one inside).1)
    (isFinite_sub ⟨by decide +kernel, by decide +kernel⟩ inside)
    (isFinite_sub ⟨by decide +kernel, by decide +kernel⟩ inside)

/-- From a place on the map no fraction of a candidate lies inside if its end is NaN on one axis
and infinite on the other. -/
theorem not_pos_fractionInside (inside : mapBounds.contains candidate.startPosition)
    (undefined : candidate.endPosition.isUndefined) (unbounded : candidate.endPosition.isUnbounded) :
    ¬0.0 < Bounds.fractionInside mapBounds candidate := by
  obtain ⟨insideX, insideY⟩ := Rectangle.contains_iff.mp inside
  rcases Point.isUndefined_iff.mp undefined with none | none
  · have infinite : candidate.endPosition.y.isInf :=
      (Point.isUnbounded_iff.mp unbounded).resolve_left (by rw [none]; decide)
    rw [Bounds.fractionInside_of_x none]
    exact not_pos_cut insideY infinite
  · have infinite : candidate.endPosition.x.isInf :=
      (Point.isUnbounded_iff.mp unbounded).resolve_right (by rw [none]; decide)
    rw [Bounds.fractionInside_of_y none]
    exact not_pos_cut insideX infinite

end Terrain

end RoadGrowth
