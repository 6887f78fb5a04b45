import Mathlib.Data.List.MinMax
import RoadGrowth.Proofs.Numeric.Undefined
import RoadGrowth.Proofs.Terrain.Density
import RoadGrowth.Turtle.Rule

/-!
# Steering

A turtle that steers looks along its own heading first and then across the arc, and takes a
heading only for a better density than the best so far. Between numbers better is a linear
order, so that the heading taken is the first of the best of all, and the turtle leaves its
own heading only for a better one.
-/

namespace RoadGrowth

open Numeric

section

variable {Entry Score : Type} [LinearOrder Score] {score : Entry → Score}

/-- The first entry of the largest score is found by taking an entry for a larger score only. -/
theorem argmax_cons_eq_foldl (start : Entry) (entries : List Entry) :
    (start :: entries).argmax score = some (entries.foldl (fun best entry =>
      if score best < score entry then entry else best) start) := by
  induction entries using List.reverseRecOn with
  | nil => exact List.argmax_singleton
  | append_singleton entries entry ih =>
    rw [← List.cons_append, List.argmax_concat, ih, List.foldl_append]
    simp only [List.foldl_cons, List.foldl_nil]
    split_ifs <;> rfl

/-- All entries before the first of the largest score have smaller ones. -/
theorem exists_before_of_argmax [DecidableEq Entry] {entries : List Entry} {chosen : Entry}
    (found : entries.argmax score = some chosen) :
    ∃ before after, entries = before ++ chosen :: after ∧
      ∀ entry ∈ before, score entry < score chosen := by
  obtain ⟨member, -, earliest⟩ := List.mem_argmax_iff.mp found
  obtain ⟨before, after, rfl, fresh⟩ := List.eq_append_cons_of_mem member
  refine ⟨before, after, rfl, fun entry listed => ?_⟩
  -- An entry before the chosen one with no smaller score would have been found first.
  by_contra notSmaller
  have place := earliest entry (List.mem_append_left _ listed) (not_lt.mp notSmaller)
  rw [List.idxOf_append_of_notMem fresh, List.idxOf_cons_self,
    List.idxOf_append_of_mem listed] at place
  exact absurd (List.idxOf_lt_length_of_mem listed) place.not_gt

end

/-- A heading at which a density is extreme, the first of those at which it is. -/
structure FirstExtreme (atMost below : Float32 → Float32 → Prop) (density : Float32 → Float32)
    (headings : List Float32) (chosen : Float32) : Prop where
  extreme : ∀ heading ∈ headings, atMost (density heading) (density chosen)
  first : ∃ before after, headings = before ++ chosen :: after ∧
    ∀ heading ∈ before, below (density heading) (density chosen)

section

variable {atMost below : Float32 → Float32 → Prop} {density : Float32 → Float32}
  {headings : List Float32} {chosen own : Float32}

/-- The first of all headings is left for a better one only. -/
theorem FirstExtreme.eq_or_below
    (extreme : FirstExtreme atMost below density (own :: headings) chosen) :
    chosen = own ∨ below (density own) (density chosen) := by
  obtain ⟨before, after, split, worse⟩ := extreme.first
  cases before with
  | nil => exact .inl (List.cons.inj split).1.symm
  | cons first before =>
    obtain ⟨rfl, -⟩ := List.cons.inj split
    exact .inr (worse own List.mem_cons_self)

end

namespace Turtle

variable {terrain : Terrain} {turtle : Turtle} {arc : Float32} {samples : UInt32}

/-- The density one segment length along a heading. -/
abbrev densityAhead (terrain : Terrain) (turtle : Turtle) (heading : Float32) : Float32 :=
  turtle.densityAlong terrain heading turtle.segmentLength

/-- The headings that are compared: the turtle's own first. -/
def headings (turtle : Turtle) (arc : Float32) (samples : UInt32) : List Float32 :=
  turtle.direction :: turtle.sweep arc samples

/-- The heading alone determines what is seen along it. -/
theorem steer_eq_foldl (better : Float32 → Float32 → Bool) :
    turtle.steer terrain arc samples better =
      (turtle.sweep arc samples).foldl (fun best heading =>
        if better (turtle.densityAhead terrain heading) (turtle.densityAhead terrain best) then
          heading
        else
          best) turtle.direction := by
  rw [steer, List.foldl_hom (turtle.sight terrain)]
  · rfl
  · intro best heading
    exact (apply_ite (turtle.sight terrain) _ _ _).symm

/-- The headings across the arc follow the turtle's own. -/
theorem getElem?_headings (turtle : Turtle) (arc : Float32) (samples : UInt32) (place : Nat) :
    (turtle.headings arc samples)[place + 1]? =
      if 2 ≤ samples.toNat ∧ place < samples.toNat then
        some (turtle.direction - arc * 0.5 +
          arc / (samples - 1).toFloat32 * (UInt32.ofNat place).toFloat32)
      else
        none := by
  have few : samples < 2 ↔ ¬2 ≤ samples.toNat := UInt32.lt_iff_toNat_lt.trans not_le.symm
  rw [headings, List.getElem?_cons_succ, sweep]
  by_cases many : 2 ≤ samples.toNat
  · rw [if_neg (few.not.mpr (not_not.mpr many)), List.getElem?_map]
    by_cases inside : place < samples.toNat
    · rw [List.getElem?_range inside, if_pos ⟨many, inside⟩]
      rfl
    · rw [List.getElem?_eq_none (by simpa using inside), if_neg fun both => inside both.2]
      rfl
  · rw [if_pos (few.mpr many), if_neg fun both => many both.1]
    rfl

/-- Where a score orders the densities, the heading taken is the first extreme one. -/
theorem firstExtreme_steer {Score : Type} [LinearOrder Score] (score : Float32 → Score)
    {atMost below : Float32 → Float32 → Prop} [DecidableRel below]
    (atMostIff : ∀ heading other, atMost (turtle.densityAhead terrain heading)
      (turtle.densityAhead terrain other) ↔ score heading ≤ score other)
    (belowIff : ∀ heading other, below (turtle.densityAhead terrain heading)
      (turtle.densityAhead terrain other) ↔ score heading < score other) :
    FirstExtreme atMost below (turtle.densityAhead terrain) (turtle.headings arc samples)
      (turtle.steer terrain arc samples fun density best => below best density) := by
  have found : (turtle.headings arc samples).argmax score =
      some (turtle.steer terrain arc samples fun density best => below best density) := by
    rw [headings, argmax_cons_eq_foldl, steer_eq_foldl]
    simp only [decide_eq_true_iff, belowIff]
  refine ⟨fun heading listed => (atMostIff _ _).mpr (List.le_of_mem_argmax listed found), ?_⟩
  obtain ⟨before, after, split, worse⟩ := exists_before_of_argmax found
  exact ⟨before, after, split, fun heading listed => (belowIff _ _).mpr (worse heading listed)⟩

section

variable (numbers : ∀ position, (terrain.density position).isNaN = false)

include numbers

theorem firstExtreme_steer_toward :
    FirstExtreme (· ≤ ·) (· < ·) (turtle.densityAhead terrain) (turtle.headings arc samples)
      (turtle.steer terrain arc samples fun density best => best < density) := by
  refine firstExtreme_steer (fun heading => rank (turtle.densityAhead terrain heading)) ?_ ?_
  · intro heading other
    simp only [le_iff, densityAlong, numbers, true_and]
  · intro heading other
    simp only [lt_iff, densityAlong, numbers, true_and]

theorem firstExtreme_steer_away :
    FirstExtreme (· ≥ ·) (· > ·) (turtle.densityAhead terrain) (turtle.headings arc samples)
      (turtle.steer terrain arc samples fun density best => density < best) := by
  refine firstExtreme_steer
    (fun heading => OrderDual.toDual (rank (turtle.densityAhead terrain heading))) ?_ ?_
  · intro heading other
    simp only [ge_iff_le, le_iff, densityAlong, numbers, true_and, OrderDual.toDual_le_toDual]
  · intro heading other
    simp only [gt_iff_lt, lt_iff, densityAlong, numbers, true_and, OrderDual.toDual_lt_toDual]

end

end Turtle

/-- What the rules that turn by population do where densities are numbers. The turtle compares the
density one segment length ahead along its own heading and along those across the arc, of which
there are none for fewer than two samples. It turns to the first heading of the largest density, or
of the smallest, and so leaves its own heading only for a strictly better one. Nothing else of the
drawing changes. -/
theorem Rule.turns_to_first_extreme {terrain : Terrain}
    (numbers : ∀ position, (terrain.density position).isNaN = false) (site : UInt64)
    (given : Option Float32) (drawing : Drawing) (usual : Float32) (samples : UInt32) :
    let turtle := drawing.turtle
    let arc := (given.map radians).getD usual
    let headings := turtle.headings arc samples
    let density := turtle.densityAhead terrain
    (headings[0]? = some turtle.direction ∧ ∀ place, headings[place + 1]? =
      if 2 ≤ samples.toNat ∧ place < samples.toNat then
        some (turtle.direction - arc * 0.5 +
          arc / (samples - 1).toFloat32 * (UInt32.ofNat place).toFloat32)
      else
        none) ∧
    (∃ direction, (Rule.towardPopulation terrain usual samples).apply site given drawing =
        .ok { drawing with turtle := { turtle with direction } } ∧
      FirstExtreme (· ≤ ·) (· < ·) density headings direction ∧
      (direction = turtle.direction ∨ density turtle.direction < density direction)) ∧
    ∃ direction, (Rule.awayFromPopulation terrain usual samples).apply site given drawing =
        .ok { drawing with turtle := { turtle with direction } } ∧
      FirstExtreme (· ≥ ·) (· > ·) density headings direction ∧
      (direction = turtle.direction ∨ density direction < density turtle.direction) := by
  intro turtle arc headings density
  have toward : FirstExtreme (· ≤ ·) (· < ·) density headings _ :=
    Turtle.firstExtreme_steer_toward numbers
  have away : FirstExtreme (· ≥ ·) (· > ·) density headings _ :=
    Turtle.firstExtreme_steer_away numbers
  exact ⟨⟨rfl, turtle.getElem?_headings arc samples⟩, ⟨_, rfl, toward, toward.eq_or_below⟩,
    _, rfl, away, away.eq_or_below⟩

/-- A map with one center, east of the middle. -/
def Terrain.oneCenter : Terrain :=
  ⟨{ divisions := ⟨2, 2⟩ }, ⟨[⟨2.0, 1.0⟩], ⟨2, 2⟩, 1.5⟩, by decide, by decide, .replicate _ .zero⟩

/-- A turtle in the middle of the map that looks east. -/
def Turtle.eastward : Turtle :=
  TurtleSettings.spawn { direction := 0.0, segmentLength := 0.5 } .origin 0

/-- A turtle that looks straight at the only center keeps its heading where it turns to the densest
one; where it turns to the sparsest, it takes the first of the two sides, which are equal. -/
theorem Rule.turns_to_first_extreme_beside_center :
    let drawing : Drawing := ⟨.eastward, [], (Graph.empty {}).addNode .origin⟩
    let density := Turtle.eastward.densityAhead .oneCenter
    (∀ position, (Terrain.oneCenter.density position).isNaN = false) ∧
      Turtle.eastward.headings pi 3 = [0.0, -halfPi, 0.0, halfPi] ∧
      density halfPi = density (-halfPi) ∧
      (Rule.towardPopulation .oneCenter pi 3).apply 0 none drawing = .ok drawing ∧
      FirstExtreme (· ≤ ·) (· < ·) density (Turtle.eastward.headings pi 3) 0.0 ∧
      (Rule.awayFromPopulation .oneCenter pi 3).apply 0 none drawing =
        .ok (drawing.withDirection (-halfPi)) ∧
      FirstExtreme (· ≥ ·) (· > ·) density (Turtle.eastward.headings pi 3) (-halfPi) := by
  intro drawing density
  have numbers : ∀ position, (Terrain.oneCenter.density position).isNaN = false := fun position =>
    (Population.isFraction_density (by decide) position).isNumber
  obtain ⟨-, ⟨dense, toward, densest, -⟩, sparse, away, sparsest, -⟩ :=
    turns_to_first_extreme numbers 0 none drawing pi 3
  have kept : Turtle.eastward.steer .oneCenter pi 3 (fun density best => best < density) = 0.0 := by
    decide +kernel
  have left : Turtle.eastward.steer .oneCenter pi 3 (fun density best => density < best) =
      -halfPi := by
    decide +kernel
  have keeps : (Rule.towardPopulation .oneCenter pi 3).apply 0 none drawing =
      .ok (drawing.withDirection 0.0) :=
    congrArg (fun direction => Except.ok (drawing.withDirection direction)) kept
  have leaves : (Rule.awayFromPopulation .oneCenter pi 3).apply 0 none drawing =
      .ok (drawing.withDirection (-halfPi)) :=
    congrArg (fun direction => Except.ok (drawing.withDirection direction)) left
  obtain rfl : dense = 0.0 :=
    congrArg (fun after => after.turtle.direction) (Except.ok.inj (toward.symm.trans keeps))
  obtain rfl : sparse = -halfPi :=
    congrArg (fun after => after.turtle.direction) (Except.ok.inj (away.symm.trans leaves))
  exact ⟨numbers, by decide +kernel, by decide +kernel, toward, densest, away, sparsest⟩

end RoadGrowth
