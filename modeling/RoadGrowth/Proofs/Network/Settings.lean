import RoadGrowth.Problem
import RoadGrowth.Proofs.Outcome

/-!
# Accepted settings

Settings are accepted when every condition of the check holds; the order of the checks
decides only which problem is reported. What a check says about one part of the
settings does not depend on the others.
-/

namespace RoadGrowth

theorem require_eq_ok {condition : Bool} {problem : SettingsProblem} :
    require condition problem = .ok () ↔ condition = true := by
  cases condition <;> simp [require]

/-- Checks in sequence pass if each of them does. -/
theorem checks_eq_ok {first : Except SettingsProblem Unit}
    {others : Unit → Except SettingsProblem Unit} :
    first >>= others = .ok () ↔ first = .ok () ∧ others () = .ok () := by
  rw [bind_eq_ok]
  constructor
  · rintro ⟨⟨⟩, passed, rest⟩
    exact ⟨passed, rest⟩
  · rintro ⟨passed, rest⟩
    exact ⟨(), passed, rest⟩

/-- A turtle that draws forward, with angles that are numbers. -/
structure TurtleSettings.Accepted (settings : TurtleSettings) : Prop where
  length_pos : 0.0 < settings.segmentLength
  length_finite : settings.segmentLength.isFinite
  angle_finite : settings.angle.isFinite
  direction_finite : settings.direction.isFinite

theorem TurtleSettings.check_eq_ok {settings : TurtleSettings} {phase : Phase} :
    settings.check phase = .ok () ↔ settings.Accepted := by
  unfold TurtleSettings.check
  simp only [checks_eq_ok, require_eq_ok, Bool.and_eq_true, decide_eq_true_eq]
  exact ⟨fun ⟨⟨pos, length⟩, angle, direction⟩ => ⟨pos, length, angle, direction⟩,
    fun ⟨pos, length, angle, direction⟩ => ⟨⟨pos, length⟩, angle, direction⟩⟩

/-- Settings that a network can be grown with. -/
structure NetworkSettings.Accepted (settings : NetworkSettings) : Prop where
  highway_start : settings.highway.start ≠ []
  streets_start : settings.streets.start ≠ []
  highwayTurtle : settings.highwayTurtle.Accepted
  streetTurtle : settings.streetTurtle.Accepted
  snap_nonneg : 0.0 ≤ settings.snapDistance
  snap_finite : settings.snapDistance.isFinite
  scriptLimit_ne : settings.scriptLimit ≠ 0
  root_finite : settings.root.isFinite
  streetTurn_finite : settings.streetTurn.isFinite
  steps_ne : settings.shortening.steps ≠ 0
  smallest_share : isShare settings.shortening.smallest
  jitterLimit_finite : settings.jitterLimit.isFinite
  samples_ne : settings.population.samples ≠ 0
  spanSteps_ne : settings.population.steps ≠ 0
  threshold_share : isShare settings.population.threshold

theorem NetworkSettings.check_eq_ok {settings : NetworkSettings} :
    settings.check = .ok () ↔ settings.Accepted := by
  unfold NetworkSettings.check
  simp only [checks_eq_ok, require_eq_ok, TurtleSettings.check_eq_ok, Bool.and_eq_true,
    Bool.not_eq_true', List.isEmpty_eq_false_iff, bne_iff_ne, decide_eq_true_eq]
  constructor
  · rintro ⟨highway, streets, highwayTurtle, streetTurtle, ⟨snap, snapFinite⟩, limit,
      ⟨root, turn⟩, steps, smallest, jitter, ⟨samples, spanSteps⟩, threshold⟩
    exact ⟨highway, streets, highwayTurtle, streetTurtle, snap, snapFinite, limit, root, turn,
      steps, smallest, jitter, samples, spanSteps, threshold⟩
  · rintro ⟨highway, streets, highwayTurtle, streetTurtle, snap, snapFinite, limit, root, turn,
      steps, smallest, jitter, samples, spanSteps, threshold⟩
    exact ⟨highway, streets, highwayTurtle, streetTurtle, ⟨snap, snapFinite⟩, limit,
      ⟨root, turn⟩, steps, smallest, jitter, ⟨samples, spanSteps⟩, threshold⟩

/-- Other scripts are as good, as long as they are not empty. -/
theorem NetworkSettings.Accepted.withScripts {settings : NetworkSettings}
    (accepted : settings.Accepted) {highway streets : GrammarSettings}
    (highwayStart : highway.start ≠ []) (streetsStart : streets.start ≠ []) :
    { settings with highway, streets }.Accepted :=
  { accepted with highway_start := highwayStart, streets_start := streetsStart }

end RoadGrowth
