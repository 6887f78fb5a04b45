import RoadGrowth.Proofs.Placement.Clipping
import RoadGrowth.Proofs.Placement.Resolution

/-!
# Clipping at the first edge

A candidate that starts inside a rectangle is clipped at the first edge that it meets.
On each axis on which it moves there is one edge in its way, met at some fraction of the
move; a fraction that is NaN counts for nothing. The clipped end is brought between the
corners, so it lies inside whatever was lost in rounding, and whether or not the candidate
ends at a number.
-/

namespace RoadGrowth

open Numeric

namespace Bounds

/-- The fraction of a move along one axis at which it meets the edge in its way; nothing if it
has no direction. -/
def crossing? (start move lower upper : Float32) : Option Float32 :=
  if 0.0 < move then
    some ((upper - start) / move)
  else if move < 0.0 then
    some ((lower - start) / move)
  else
    none

/-- The fractions at which a candidate meets edges, one for each axis on which it moves. -/
def crossings (rectangle : Rectangle) (candidate : Candidate) : List Float32 :=
  let start := candidate.startPosition
  let move := candidate.endPosition - start
  (crossing? start.x move.x rectangle.lower.x rectangle.upper.x).toList ++
    (crossing? start.y move.y rectangle.lower.y rectangle.upper.y).toList

/-- The first of the fractions given, or the whole if that comes before all of them. Those that
are NaN do not count. -/
structure IsFirst (fractions : List Float32) (fraction : Float32) : Prop where
  le_whole : fraction ≤ 1.0
  le_number : ∀ other ∈ fractions, other.isNaN = false → fraction ≤ other
  attained : fraction = 1.0 ∨ fraction ∈ fractions

variable {rectangle : Rectangle} {candidate : Candidate} {position : Point}
  {fractions : List Float32} {fraction : Float32}

theorem cut_eq_foldl (fraction start move lower upper : Float32) :
    cut fraction start move lower upper =
      (crossing? start move lower upper).toList.foldl least fraction := by
  unfold cut crossing?
  split_ifs <;> rfl

theorem fractionInside_eq_foldl (rectangle : Rectangle) (candidate : Candidate) :
    fractionInside rectangle candidate = (crossings rectangle candidate).foldl least 1.0 := by
  simp only [fractionInside, crossings, List.foldl_append, cut_eq_foldl]

namespace IsFirst

theorem nil : IsFirst [] 1.0 where
  le_whole := le_self (by decide)
  le_number := by simp
  attained := .inl rfl

theorem append (first : IsFirst fractions fraction) (other : Float32) :
    IsFirst (fractions ++ [other]) (least fraction other) := by
  have isNumber : fraction.isNaN = false := (le_iff.mp first.le_whole).1
  have earlier : least fraction other ≤ fraction := least_le_left other isNumber
  constructor
  case le_whole => exact Numeric.le_trans earlier first.le_whole
  case le_number =>
    intro met member metNumber
    rcases List.mem_append.mp member with before | last
    · exact Numeric.le_trans earlier (first.le_number met before metNumber)
    · obtain rfl := List.mem_singleton.mp last
      exact least_le_right fraction metNumber
  case attained =>
    rcases least_eq_or fraction other with same | same
    · rw [same]
      exact first.attained.imp id (List.mem_append_left _)
    · rw [same]
      exact .inr (by simp)

theorem foldl (fractions : List Float32) : IsFirst fractions (fractions.foldl least 1.0) := by
  induction fractions using List.reverseRecOn with
  | nil => exact nil
  | append_singleton fractions other ih =>
    rw [List.foldl_append]
    exact ih.append other

/-- Something is left before the first of the fractions unless one of them is zero or less. -/
theorem pos_iff (first : IsFirst fractions fraction) :
    0.0 < fraction ↔ ∀ other ∈ fractions, ¬other ≤ 0.0 := by
  constructor
  · intro positive other member notAbove
    have below := Numeric.le_trans (first.le_number other member (le_iff.mp notAbove).1) notAbove
    exact absurd (lt_iff.mp positive).2.2 (not_lt.mpr (le_iff.mp below).2.2)
  · intro above
    rcases first.attained with whole | met
    · rw [whole]
      decide +kernel
    · exact lt_of_not_le (le_iff.mp first.le_whole).1 (by decide) (above fraction met)

end IsFirst

theorem isFirst_fractionInside (rectangle : Rectangle) (candidate : Candidate) :
    IsFirst (crossings rectangle candidate) (fractionInside rectangle candidate) := by
  rw [fractionInside_eq_foldl]
  exact .foldl _

theorem clip_eq_none_iff : clip rectangle candidate = none ↔
    ¬rectangle.contains candidate.startPosition ∨
      ∃ crossing ∈ crossings rectangle candidate, crossing ≤ 0.0 := by
  have positive := (isFirst_fractionInside rectangle candidate).pos_iff
  constructor
  · intro none
    by_contra some
    simp only [not_or, not_not, not_exists, not_and] at some
    have clipped := clip_eq_some_iff.mpr ⟨some.1, positive.mpr some.2, rfl⟩
    rw [none] at clipped
    cases clipped
  · intro stopped
    rw [Option.eq_none_iff_forall_ne_some]
    intro position clipped
    obtain ⟨inside, left, -⟩ := clip_eq_some_iff.mp clipped
    rcases stopped with outside | ⟨crossing, member, notAbove⟩
    · exact outside inside
    · exact positive.mp left crossing member notAbove

theorem accepts_bounds (rectangle : Rectangle) (adjusts : Bool) (candidate : Candidate) :
    Policy.accepts ⟨[.bounds rectangle], adjusts⟩ candidate =
      rectangle.contains candidate.endPosition :=
  Bool.and_true _

/-- Where nothing but a rectangle is asked for, a candidate that ends outside is placed exactly
where it is clipped to. -/
theorem resolve_bounds_of_outside (proper : rectangle.IsProper)
    (outside : rectangle.contains candidate.endPosition = false) :
    Policy.resolve ⟨[.bounds rectangle], true⟩ candidate = clip rectangle candidate := by
  refine Option.ext fun position => ?_
  rw [Policy.resolve_of_refused ((accepts_bounds ..).trans outside),
    Policy.failing?_cons_of_refused outside]
  constructor
  · rintro ⟨-, constraint, found, clipped, -⟩
    obtain rfl := Option.some_inj.mp found
    exact clipped
  · intro clipped
    exact ⟨rfl, _, rfl, clipped, (accepts_bounds ..).trans (contains_of_clip proper clipped)⟩

/-- All that clipping to a rectangle does, for any candidate. One that starts outside is not
clipped, and one that starts inside is unless it meets an edge at no fraction of its move. A clipped
end is the point at the first fraction at which an edge is met, or at the whole, brought between
the corners; it lies inside. So a policy that adjusts and asks for the rectangle only keeps an end
inside and places any other candidate exactly where it is clipped to. -/
theorem clip_outcomes (proper : rectangle.IsProper) (candidate : Candidate) :
    (¬rectangle.contains candidate.startPosition → clip rectangle candidate = none) ∧
    (rectangle.contains candidate.startPosition →
      (clip rectangle candidate = none ↔
        ∃ crossing ∈ crossings rectangle candidate, crossing ≤ 0.0)) ∧
    (∀ position, clip rectangle candidate = some position →
      rectangle.contains position ∧
      ∃ fraction, 0.0 < fraction ∧ fraction ≤ 1.0 ∧
        IsFirst (crossings rectangle candidate) fraction ∧
        position = (candidate.pointAt fraction).clamp rectangle.lower rectangle.upper) ∧
    Policy.resolve ⟨[.bounds rectangle], true⟩ candidate =
      if rectangle.contains candidate.endPosition then some candidate.endPosition
      else clip rectangle candidate := by
  refine ⟨fun outside => clip_eq_none_iff.mpr (.inl outside), fun inside => ?_,
    fun position clipped => ?_, ?_⟩
  · rw [clip_eq_none_iff]
    exact or_iff_right (not_not_intro inside)
  · have first := isFirst_fractionInside rectangle candidate
    obtain ⟨-, positive, same⟩ := clip_eq_some_iff.mp clipped
    exact ⟨contains_of_clip proper clipped, _, positive, first.le_whole, first, same.symm⟩
  · split_ifs with inside
    · exact Policy.resolve_of_accepts ((accepts_bounds ..).trans inside)
    · exact resolve_bounds_of_outside proper (Bool.eq_false_of_not_eq_true inside)

/-- A candidate across an edge of the map is clipped there; one that runs along the map to an
infinite height meets the edge at once, and one that leaves a corner toward an undefined point is
placed at another corner. -/
theorem clip_outcomes_on_map :
    let crossing : Candidate := ⟨0, ⟨0.5, 0.0⟩, ⟨1.5, 0.5⟩, 0.25, .road⟩
    let rising : Candidate := ⟨0, ⟨0.5, 0.0⟩, ⟨0.75, 1.0 / 0.0⟩, 0.25, .road⟩
    let lost : Candidate := ⟨0, ⟨1.0, 1.0⟩, ⟨Float32.nan, Float32.nan⟩, 0.25, .road⟩
    Terrain.mapBounds.IsProper ∧
      (crossings Terrain.mapBounds crossing = [0.5, 2.0] ∧
        clip Terrain.mapBounds crossing = some ⟨1.0, 0.25⟩ ∧
        Policy.resolve ⟨[.bounds Terrain.mapBounds], true⟩ crossing = some ⟨1.0, 0.25⟩) ∧
      (crossings Terrain.mapBounds rising = [2.0, 0.0] ∧ clip Terrain.mapBounds rising = none) ∧
      crossings Terrain.mapBounds lost = [] ∧
        clip Terrain.mapBounds lost = some ⟨-1.0, -1.0⟩ := by
  intro crossing rising lost
  obtain ⟨-, -, -, resolved⟩ := clip_outcomes Terrain.isProper_mapBounds crossing
  obtain ⟨-, stops, -⟩ := clip_outcomes Terrain.isProper_mapBounds rising
  have clipped : clip Terrain.mapBounds crossing = some ⟨1.0, 0.25⟩ := by decide +kernel
  have met : crossings Terrain.mapBounds rising = [2.0, 0.0] := by decide +kernel
  rw [clipped, if_neg (by decide +kernel)] at resolved
  refine ⟨Terrain.isProper_mapBounds, ⟨by decide +kernel, clipped, resolved⟩, ⟨met, ?_⟩,
    by decide +kernel, by decide +kernel⟩
  exact (stops (by decide +kernel)).mpr ⟨0.0, by rw [met]; simp, by decide +kernel⟩

end Bounds

end RoadGrowth
