import Mathlib.Order.Lattice.Nat
import RoadGrowth.Placement.Shore

/-!
# Shortening to land

A candidate that ends in water is cut into equal steps and may be shortened to fewer of
them, as long as no fraction on the way there is below the smallest one to keep. Of the
shortened ends on land the longest is taken, and there is no other reason to find none.
-/

namespace RoadGrowth

namespace Shortening

/-- A candidate of which at most a number of steps is kept may be shortened to `step` of them: no
fraction on the way there is below the smallest one to keep, and the end is on land. -/
structure Lands (shortening : Shortening) (terrain : Terrain) (candidate : Candidate)
    (most step : Nat) : Prop where
  pos : 0 < step
  within : step ≤ most
  keeps : ∀ longer, step ≤ longer → longer ≤ most →
    shortening.smallest ≤ shortening.fraction longer
  land : terrain.isLand (candidate.pointAt (shortening.fraction step))

variable {shortening : Shortening} {terrain : Terrain} {candidate : Candidate}
  {position : Point} {most step : Nat}

theorem lands_succ_iff (allowed : shortening.smallest ≤ shortening.fraction (most + 1)) :
    shortening.Lands terrain candidate (most + 1) step ↔
      step = most + 1 ∧ terrain.isLand (candidate.pointAt (shortening.fraction (most + 1))) ∨
        shortening.Lands terrain candidate most step := by
  constructor
  · rintro ⟨pos, within, keeps, land⟩
    rcases Nat.lt_or_eq_of_le within with shorter | rfl
    · exact .inr ⟨pos, Nat.le_of_lt_succ shorter,
        fun longer above below => keeps longer above (Nat.le_succ_of_le below), land⟩
    · exact .inl ⟨rfl, land⟩
  · rintro (⟨rfl, land⟩ | ⟨pos, within, keeps, land⟩)
    · refine ⟨Nat.succ_pos most, le_rfl, fun longer above below => ?_, land⟩
      rwa [Nat.le_antisymm below above]
    · refine ⟨pos, Nat.le_succ_of_le within, fun longer above below => ?_, land⟩
      rcases Nat.lt_or_eq_of_le below with shorter | rfl
      · exact keeps longer above (Nat.le_of_lt_succ shorter)
      · exact allowed

/-- By induction on the steps that may be kept: the search ends at the longest end if that is on
land, and otherwise nothing of it counts for the rest. -/
theorem landingFrom_eq_some_iff :
    shortening.landingFrom terrain candidate most = some position ↔
      ∃ step, IsGreatest {step | shortening.Lands terrain candidate most step} step ∧
        candidate.pointAt (shortening.fraction step) = position := by
  induction most with
  | zero =>
    simp only [landingFrom, reduceCtorEq, false_iff]
    rintro ⟨step, ⟨lands, -⟩, -⟩
    exact absurd lands.pos (Nat.not_lt_of_le lands.within)
  | succ most ih =>
    by_cases allowed : shortening.smallest ≤ shortening.fraction (most + 1)
    · simp only [landingFrom, if_pos allowed]
      split_ifs with land
      · have greatest : IsGreatest {step | shortening.Lands terrain candidate (most + 1) step}
            (most + 1) :=
          ⟨(lands_succ_iff allowed).mpr (.inl ⟨rfl, land⟩), fun step lands => lands.within⟩
        rw [Option.some_inj]
        constructor
        · intro same
          exact ⟨most + 1, greatest, same⟩
        · rintro ⟨step, other, same⟩
          rwa [greatest.unique other]
      · have same : ∀ step, shortening.Lands terrain candidate (most + 1) step ↔
            shortening.Lands terrain candidate most step := by
          simp [lands_succ_iff allowed, land]
        simp only [same, ih]
    · simp only [landingFrom, if_neg allowed, reduceCtorEq, false_iff]
      rintro ⟨step, ⟨lands, -⟩, -⟩
      exact allowed (lands.keeps (most + 1) lands.within le_rfl)

/-- Where there is a landing there is a longest one. -/
theorem exists_isGreatest_lands :
    (∃ step, shortening.Lands terrain candidate most step) ↔
      ∃ step, IsGreatest {step | shortening.Lands terrain candidate most step} step := by
  constructor
  · intro some
    have bounded : BddAbove {step | shortening.Lands terrain candidate most step} :=
      ⟨most, fun step lands => lands.within⟩
    exact ⟨_, Nat.sSup_mem some bounded, fun step lands => le_csSup bounded lands⟩
  · rintro ⟨step, lands, -⟩
    exact ⟨step, lands⟩

/-- Beyond the longest landing there is only water. -/
theorem water_beyond
    (greatest : IsGreatest {step | shortening.Lands terrain candidate most step} step)
    {longer : Nat} (above : step < longer) (below : longer ≤ most) :
    ¬terrain.isLand (candidate.pointAt (shortening.fraction longer)) := by
  intro land
  obtain ⟨lands, bound⟩ := greatest
  have keeps : ∀ further, longer ≤ further → further ≤ most →
      shortening.smallest ≤ shortening.fraction further :=
    fun further beyond => lands.keeps further (above.le.trans beyond)
  have other : shortening.Lands terrain candidate most longer :=
    ⟨lands.pos.trans above, below, keeps, land⟩
  exact absurd (bound other) (Nat.not_le_of_lt above)

/-- What the constraint to end on land proposes for a candidate that is cut into steps: the point at
the largest number of steps, fewer than all, that is on land and is reached without a fraction
below the smallest one. There is such a proposal as soon as there is such a point. It is on land,
keeps no less than the smallest fraction, and all points between it and the end are in water. -/
theorem landing_longest (shortening : Shortening) (terrain : Terrain) (candidate : Candidate) :
    let most := (max 1 shortening.steps).toNat - 1
    (∀ position, (Constraint.water terrain shortening).adjust candidate = some position ↔
      ∃ step, IsGreatest {step | shortening.Lands terrain candidate most step} step ∧
        candidate.pointAt (shortening.fraction step) = position) ∧
    (((Constraint.water terrain shortening).adjust candidate).isSome ↔
      ∃ step, shortening.Lands terrain candidate most step) ∧
    ∀ position, (Constraint.water terrain shortening).adjust candidate = some position →
      terrain.isLand position ∧
      ∃ step, 0 < step ∧ step ≤ most ∧ candidate.pointAt (shortening.fraction step) = position ∧
        shortening.smallest ≤ shortening.fraction step ∧
        ∀ longer, step < longer → longer ≤ most →
          ¬terrain.isLand (candidate.pointAt (shortening.fraction longer)) := by
  intro most
  have proposed : ∀ position, (Constraint.water terrain shortening).adjust candidate =
      some position ↔ ∃ step,
        IsGreatest {step | shortening.Lands terrain candidate most step} step ∧
          candidate.pointAt (shortening.fraction step) = position :=
    fun position => landingFrom_eq_some_iff
  refine ⟨proposed, ?_, fun position found => ?_⟩
  · simp only [Option.isSome_iff_exists, proposed, exists_isGreatest_lands]
    exact ⟨fun ⟨_, step, greatest, _⟩ => ⟨step, greatest⟩,
      fun ⟨step, greatest⟩ => ⟨_, step, greatest, rfl⟩⟩
  · obtain ⟨step, greatest, rfl⟩ := (proposed position).mp found
    obtain ⟨pos, within, keeps, land⟩ := greatest.1
    exact ⟨land, step, pos, within, rfl, keeps step le_rfl within,
      fun longer => water_beyond greatest⟩

/-- Strips of land and water, a candidate across all four of them: it is shortened onto the third
strip, where a shorter end would do as well, unless more of it must be kept. -/
theorem landing_longest_across_strips :
    ∃ (terrain : Terrain) (candidate : Candidate),
      ¬terrain.isLand candidate.endPosition ∧
      Lands ⟨8, 0.5⟩ terrain candidate 7 5 ∧
      (Constraint.water terrain ⟨8, 0.5⟩).adjust candidate = some ⟨0.375, 0.0⟩ ∧
      ¬terrain.isLand (candidate.pointAt (fraction ⟨8, 0.5⟩ 7)) ∧
      (Constraint.water terrain ⟨8, 0.8⟩).adjust candidate = none := by
  let terrain : Terrain :=
    ⟨{ divisions := ⟨4, 1⟩ }, ⟨[], ⟨1, 1⟩, 1.0⟩, by decide, by decide,
      .ofFn fun index => if index.val % 2 = 0 then ⟨1.0, 0.0, 1.0, 1.0⟩ else .zero⟩
  let candidate : Candidate := ⟨0, ⟨-0.75, 0.0⟩, ⟨0.75, 0.0⟩, 0.0, .road⟩
  have beyond : ¬terrain.isLand (candidate.pointAt (fraction ⟨8, 0.5⟩ 7)) := by decide +kernel
  have shorter : Lands ⟨8, 0.5⟩ terrain candidate 7 5 :=
    ⟨by decide, by decide, by decide +kernel, by decide +kernel⟩
  have longest : IsGreatest {step | Lands ⟨8, 0.5⟩ terrain candidate 7 step} 6 := by
    refine ⟨⟨by decide, by decide, by decide +kernel, by decide +kernel⟩, fun step lands => ?_⟩
    rcases Nat.lt_or_eq_of_le lands.within with below | rfl
    · exact Nat.le_of_lt_succ below
    · exact absurd lands.land beyond
  obtain ⟨proposed, -, -⟩ := landing_longest ⟨8, 0.5⟩ terrain candidate
  have found := (proposed ⟨0.375, 0.0⟩).mpr ⟨6, longest, by decide +kernel⟩
  exact ⟨terrain, candidate, by decide +kernel, shorter, found, beyond, by decide +kernel⟩

end Shortening

end RoadGrowth
