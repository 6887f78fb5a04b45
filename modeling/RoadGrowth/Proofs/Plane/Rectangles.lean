import RoadGrowth.Plane.Rectangle
import RoadGrowth.Proofs.Numeric.Extremes

/-!
# Rectangles and the points they hold

No rectangle holds an undefined point, which has a coordinate that is NaN. A point brought
between the corners of a rectangle lies inside. The rectangle grown from the empty one by
points that are all defined is the smallest one that holds them, and is empty only if
there are none.
-/

namespace RoadGrowth

open Numeric

namespace Point

/-- A coordinate is NaN. -/
def isUndefined (point : Point) : Bool := point.x.isNaN || point.y.isNaN

/-- A coordinate is infinite. -/
def isUnbounded (point : Point) : Bool := point.x.isInf || point.y.isInf

theorem isUndefined_iff {point : Point} :
    point.isUndefined ↔ point.x = Float32.nan ∨ point.y = Float32.nan := by
  rw [isUndefined, Bool.or_eq_true, isNaN_iff, isNaN_iff]

theorem isUnbounded_iff {point : Point} : point.isUnbounded ↔ point.x.isInf ∨ point.y.isInf := by
  rw [isUnbounded, Bool.or_eq_true]

theorem isUndefined_eq_false {point : Point} :
    point.isUndefined = false ↔ point.x.isNaN = false ∧ point.y.isNaN = false :=
  Bool.or_eq_false_iff

end Point

namespace Rectangle

variable {rectangle : Rectangle} {point : Point} {points : List Point}

/-- The corners are the right way round. -/
def IsProper (rectangle : Rectangle) : Prop :=
  rectangle.lower.x ≤ rectangle.upper.x ∧ rectangle.lower.y ≤ rectangle.upper.y

theorem contains_iff : rectangle.contains point ↔
    (rectangle.lower.x ≤ point.x ∧ point.x ≤ rectangle.upper.x) ∧
      rectangle.lower.y ≤ point.y ∧ point.y ≤ rectangle.upper.y := by
  simp only [contains, Bool.and_eq_true, decide_eq_true_eq, and_assoc]

theorem not_contains_of_isUndefined (undefined : point.isUndefined) :
    ¬rectangle.contains point := by
  rw [contains_iff]
  rintro ⟨⟨left, -⟩, low, -⟩
  rcases Point.isUndefined_iff.mp undefined with none | none
  · rw [none] at left
    exact absurd (le_iff.mp left).2.1 (by decide)
  · rw [none] at low
    exact absurd (le_iff.mp low).2.1 (by decide)

/-- A point brought between the corners lies inside, even if it was undefined. -/
theorem contains_clamp (proper : rectangle.IsProper) (point : Point) :
    rectangle.contains (point.clamp rectangle.lower rectangle.upper) :=
  contains_iff.mpr ⟨least_greatest_bounds point.x proper.1, least_greatest_bounds point.y proper.2⟩

theorem IsProper.isEmpty_eq_false (proper : rectangle.IsProper) : rectangle.isEmpty = false := by
  rw [isEmpty, Bool.or_eq_false_iff, decide_eq_false_iff_not, decide_eq_false_iff_not]
  exact ⟨not_lt_of_le proper.1, not_lt_of_le proper.2⟩

/-! ## The smallest rectangle -/

/-- A rectangle that holds every point of a list and whose corners lie in every rectangle that
does. -/
structure IsSmallest (points : List Point) (rectangle : Rectangle) : Prop where
  holds : ∀ point ∈ points, rectangle.contains point
  within : ∀ other : Rectangle, (∀ point ∈ points, other.contains point) →
    other.contains rectangle.lower ∧ other.contains rectangle.upper

/-- Growing by points takes the least and the greatest of each coordinate. -/
theorem foldl_including (start : Rectangle) (points : List Point) :
    points.foldl including start =
      ⟨⟨(points.map Point.x).foldl least start.lower.x,
          (points.map Point.y).foldl least start.lower.y⟩,
        ⟨(points.map Point.x).foldl greatest start.upper.x,
          (points.map Point.y).foldl greatest start.upper.y⟩⟩ := by
  induction points generalizing start with
  | nil => rfl
  | cons point rest ih => exact ih (start.including point)

/-- On one axis: the least and the greatest coordinate bound all of them, and lie between any
bounds that do. -/
theorem axis_bounds {coordinates : List Float32} (some : coordinates ≠ [])
    (numbers : ∀ coordinate ∈ coordinates, coordinate.isNaN = false) :
    (∀ coordinate ∈ coordinates, coordinates.foldl least (1.0 / 0.0) ≤ coordinate ∧
      coordinate ≤ coordinates.foldl greatest (-1.0 / 0.0)) ∧
    ∀ low high : Float32, (∀ coordinate ∈ coordinates, low ≤ coordinate ∧ coordinate ≤ high) →
      (low ≤ coordinates.foldl least (1.0 / 0.0) ∧
        coordinates.foldl least (1.0 / 0.0) ≤ high) ∧
      low ≤ coordinates.foldl greatest (-1.0 / 0.0) ∧
        coordinates.foldl greatest (-1.0 / 0.0) ≤ high := by
  have fromLeast := foldl_least_le some numbers
  have toGreatest := le_foldl_greatest some numbers
  refine ⟨fun coordinate member => ⟨fromLeast coordinate member, toGreatest coordinate member⟩,
    fun low high bounds => ?_⟩
  have above := (le_foldl_least_iff some numbers).mpr fun other known => (bounds other known).1
  have below := (foldl_greatest_le_iff some numbers).mpr fun other known => (bounds other known).2
  obtain ⟨first, member⟩ := List.exists_mem_of_ne_nil coordinates some
  exact ⟨⟨above, Numeric.le_trans (fromLeast first member) (bounds first member).2⟩,
    Numeric.le_trans (bounds first member).1 (toGreatest first member), below⟩

variable (some : points ≠ []) (defined : ∀ point ∈ points, point.isUndefined = false)

include some defined

theorem isSmallest_ofPoints : IsSmallest points (ofPoints points) := by
  have someX : points.map Point.x ≠ [] := by simpa using some
  have someY : points.map Point.y ≠ [] := by simpa using some
  obtain ⟨holdsX, withinX⟩ := axis_bounds someX <| List.forall_mem_map.mpr fun point member =>
    (Point.isUndefined_eq_false.mp (defined point member)).1
  obtain ⟨holdsY, withinY⟩ := axis_bounds someY <| List.forall_mem_map.mpr fun point member =>
    (Point.isUndefined_eq_false.mp (defined point member)).2
  rw [List.forall_mem_map] at holdsX holdsY
  rw [ofPoints, foldl_including]
  refine ⟨fun point member => contains_iff.mpr ⟨holdsX point member, holdsY point member⟩,
    fun other holds => ?_⟩
  have bounds := fun point member => contains_iff.mp (holds point member)
  obtain ⟨leftX, rightX⟩ := withinX other.lower.x other.upper.x <| List.forall_mem_map.mpr
    fun point member => (bounds point member).1
  obtain ⟨leftY, rightY⟩ := withinY other.lower.y other.upper.y <| List.forall_mem_map.mpr
    fun point member => (bounds point member).2
  exact ⟨contains_iff.mpr ⟨leftX, leftY⟩, contains_iff.mpr ⟨rightX, rightY⟩⟩

theorem isProper_ofPoints : (ofPoints points).IsProper := by
  obtain ⟨first, member⟩ := List.exists_mem_of_ne_nil points some
  obtain ⟨⟨left, right⟩, low, high⟩ :=
    contains_iff.mp ((isSmallest_ofPoints some defined).holds first member)
  exact ⟨Numeric.le_trans left right, Numeric.le_trans low high⟩

omit some in
/-- Only without any point is the rectangle around them empty. -/
theorem isEmpty_ofPoints_iff : (ofPoints points).isEmpty ↔ points = [] := by
  constructor
  · intro empty
    by_contra some
    rw [(isProper_ofPoints some defined).isEmpty_eq_false] at empty
    cases empty
  · rintro rfl
    decide +kernel

end Rectangle

end RoadGrowth
