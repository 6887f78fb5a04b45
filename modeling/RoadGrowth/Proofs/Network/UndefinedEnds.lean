import RoadGrowth.Proofs.Network.Placement
import RoadGrowth.Proofs.Network.Settings
import RoadGrowth.Proofs.Placement.Clipping
import RoadGrowth.Proofs.Placement.Resolution
import RoadGrowth.Proofs.Turtle.Accounts

/-!
# Roads toward undefined points

A turtle whose measures have become infinite may head for an undefined point. The policy of
a network rejects such a candidate unless it adjusts. A policy that adjusts places it at the
edge of the map, if the candidate starts on the map, its move is finite on the axis on which it
is a number, and the place at the edge is land.
-/

namespace RoadGrowth

open Numeric

theorem Graph.Grew.refused {graph next : Graph} {candidate : Candidate}
    (grew : graph.Grew candidate next none) : graph.policy.resolve candidate = none := by
  cases grew with
  | rejected refused => exact refused

/-- Going forward ends the branch and does nothing else exactly if the candidate is rejected. -/
theorem Drawing.forward_eq_ended_iff {drawing : Drawing}
    (stands : drawing.turtle.StandsOn drawing.graph) (length : Float32) :
    drawing.forward length = .ok { drawing with turtle := { drawing.turtle with ended := true } } ↔
      drawing.graph.policy.resolve (drawing.turtle.candidate length) = none := by
  obtain ⟨graph, growth, grew, done⟩ := stands.exists_forward length
  rw [done]
  constructor
  · intro ended
    cases growth with
    | none => exact grew.refused
    | some growth =>
      have size := grew.size_segments
      have same : graph = drawing.graph := congrArg Drawing.graph (Except.ok.inj ended)
      rw [same] at size
      simp at size
  · intro refused
    cases grew with
    | rejected => rfl
    | joined resolved | extended resolved =>
      rw [resolved] at refused
      cases refused

namespace NetworkSettings

variable {settings : NetworkSettings} {terrain : Terrain} {candidate : Candidate}
  {position : Point}

/-- The rectangle of the map is the first constraint that an undefined end fails. -/
theorem failing?_of_isUndefined (settings : NetworkSettings) (terrain : Terrain)
    (undefined : candidate.endPosition.isUndefined) :
    (settings.policy terrain).failing? candidate = some (.bounds Terrain.mapBounds) := by
  have outside : Terrain.mapBounds.contains candidate.endPosition = false :=
    Bool.eq_false_of_not_eq_true (Rectangle.not_contains_of_isUndefined undefined)
  exact Policy.failing?_cons_of_refused outside

/-- A candidate with an undefined end is placed only where it is clipped to. -/
theorem resolve_undefined_eq_some_iff (undefined : candidate.endPosition.isUndefined) :
    (settings.policy terrain).resolve candidate = some position ↔
      settings.adjusts ∧ Bounds.clip Terrain.mapBounds candidate = some position ∧
        terrain.isLand position := by
  have failing := failing?_of_isUndefined settings terrain undefined
  rw [Policy.resolve_of_refused (Policy.refused_of_failing? failing), failing]
  constructor
  · rintro ⟨adjusts, constraint, found, clipped, accepted⟩
    obtain rfl := Option.some_inj.mp found
    exact ⟨adjusts, clipped, (accepts_policy.mp accepted).2⟩
  · rintro ⟨adjusts, clipped, land⟩
    have inside := Bounds.contains_of_clip Terrain.isProper_mapBounds clipped
    exact ⟨adjusts, _, rfl, clipped, accepts_policy.mpr ⟨inside, land⟩⟩

/-- A road toward an undefined point is rejected exactly if the policy does not adjust, the road
starts beside the map, no fraction of it lies inside, or it would be clipped to water. It is
always rejected if its end is infinite on the other axis. A NaN coordinate is clipped to the lower
edge, so that an end that is NaN on both axes is rejected unless the policy adjusts, the road starts
on the map and the lower corner is land. A turtle draws nothing and its branch ends exactly if its
candidate is rejected. -/
theorem resolve_undefined_eq_none_iff (settings : NetworkSettings) (terrain : Terrain)
    {candidate : Candidate} (undefined : candidate.endPosition.isUndefined) :
    ((settings.policy terrain).resolve candidate = none ↔
      settings.adjusts = false ∨ ¬Terrain.mapBounds.contains candidate.startPosition ∨
        ¬0.0 < Bounds.fractionInside Terrain.mapBounds candidate ∨
        ¬terrain.isLand (Bounds.clipped Terrain.mapBounds candidate)) ∧
    (candidate.endPosition.isUnbounded → (settings.policy terrain).resolve candidate = none) ∧
    (candidate.endPosition.x.isNaN → (Bounds.clipped Terrain.mapBounds candidate).x = -1.0) ∧
    (candidate.endPosition.y.isNaN → (Bounds.clipped Terrain.mapBounds candidate).y = -1.0) ∧
    (candidate.endPosition.x.isNaN → candidate.endPosition.y.isNaN →
      ((settings.policy terrain).resolve candidate = none ↔
        settings.adjusts = false ∨ ¬Terrain.mapBounds.contains candidate.startPosition ∨
          ¬terrain.isLand ⟨-1.0, -1.0⟩)) ∧
    ∀ (drawing : Drawing) (length : Float32), drawing.graph.policy = settings.policy terrain →
      drawing.turtle.StandsOn drawing.graph → drawing.turtle.candidate length = candidate →
      (drawing.forward length =
          .ok { drawing with turtle := { drawing.turtle with ended := true } } ↔
        (settings.policy terrain).resolve candidate = none) := by
  have rejected : (settings.policy terrain).resolve candidate = none ↔
      settings.adjusts = false ∨ ¬Terrain.mapBounds.contains candidate.startPosition ∨
        ¬0.0 < Bounds.fractionInside Terrain.mapBounds candidate ∨
        ¬terrain.isLand (Bounds.clipped Terrain.mapBounds candidate) := by
    simp only [Option.eq_none_iff_forall_ne_some, ne_eq, resolve_undefined_eq_some_iff undefined,
      Bounds.clip_eq_some_iff]
    constructor
    · intro never
      by_contra allowed
      simp only [not_or, not_not, Bool.not_eq_false] at allowed
      obtain ⟨adjusts, inside, positive, land⟩ := allowed
      exact never _ ⟨adjusts, ⟨inside, positive, rfl⟩, land⟩
    · rintro failed _ ⟨adjusts, ⟨inside, positive, rfl⟩, land⟩
      rcases failed with never | beside | none | water
      · rw [adjusts] at never
        cases never
      · exact beside inside
      · exact none positive
      · exact water land
  have clippedX (none : candidate.endPosition.x.isNaN) :
      (Bounds.clipped Terrain.mapBounds candidate).x = -1.0 :=
    Bounds.clipped_x Terrain.isProper_mapBounds (isNaN_iff.mp none)
  have clippedY (none : candidate.endPosition.y.isNaN) :
      (Bounds.clipped Terrain.mapBounds candidate).y = -1.0 :=
    Bounds.clipped_y Terrain.isProper_mapBounds (isNaN_iff.mp none)
  refine ⟨rejected, fun unbounded => ?_, clippedX, clippedY, fun noX noY => ?_,
    fun drawing length same stands heads => ?_⟩
  · by_cases inside : Terrain.mapBounds.contains candidate.startPosition
    · exact rejected.mpr
        (.inr (.inr (.inl (Terrain.not_pos_fractionInside inside undefined unbounded))))
    · exact rejected.mpr (.inr (.inl inside))
  · have whole : 0.0 < Bounds.fractionInside Terrain.mapBounds candidate := by
      rw [Bounds.fractionInside_of_x (isNaN_iff.mp noX), isNaN_iff.mp noY, nan_sub, Bounds.cut_nan]
      decide +kernel
    have corner : Bounds.clipped Terrain.mapBounds candidate = ⟨-1.0, -1.0⟩ :=
      congrArg₂ Point.mk (clippedX noX) (clippedY noY)
    rw [rejected, corner]
    simp only [whole, not_true_eq_false, false_or]
  · rw [Drawing.forward_eq_ended_iff stands, same, heads]

/-- Without adjustment a turtle that looks nowhere ends its branch; with it, one whose end is
undefined on one axis and infinite on the other is rejected as well. -/
theorem resolve_undefined_eq_none_on_dry_cell :
    let lost := { TurtleSettings.spawn {} Point.origin 0 with direction := 1.0 / 0.0 }
    let drawing : Drawing := ⟨lost, [], ({} : NetworkSettings).rooted .dryCell⟩
    let skewed : Candidate := ⟨0, .origin, ⟨Float32.nan, 1.0 / 0.0⟩, 0.0, .highway⟩
    (lost.candidate 1.0).endPosition.isUndefined ∧
      drawing.forward 1.0 = .ok { drawing with turtle := { lost with ended := true } } ∧
      (policy { adjusts := true } .dryCell).resolve skewed = none := by
  intro lost drawing skewed
  have undefined : (lost.candidate 1.0).endPosition.isUndefined := by decide +kernel
  have stands : lost.StandsOn drawing.graph := ⟨_, rfl, rfl⟩
  obtain ⟨rejected, -, -, -, -, ends⟩ := resolve_undefined_eq_none_iff {} .dryCell undefined
  obtain ⟨-, unbounded, -⟩ := resolve_undefined_eq_none_iff { adjusts := true } .dryCell
    (by decide +kernel : skewed.endPosition.isUndefined)
  exact ⟨undefined, (ends drawing 1.0 rfl stands rfl).mpr (rejected.mpr (.inl rfl)),
    unbounded (by decide +kernel)⟩

/-- Accepted settings with which a turtle that has turned by an infinite angle is led to the
corner of the map. -/
theorem exists_undefined_placed : ∃ (settings : NetworkSettings) (run : Run) (network : Network),
    settings.check = .ok () ∧ settings.highway.start = ";(3e38);(3e38)+F".toList ∧
    Run.takeAll (settings.interpreter .dryCell).rules 0 0 (Token.scan ";(3e38);(3e38)+".toList)
      ⟨⟨settings.highwayTurtle.spawn settings.root 0, [], settings.rooted .dryCell⟩, {}⟩ =
        .ok run ∧
    (run.drawing.turtle.candidate run.drawing.turtle.segmentLength).endPosition.isUndefined ∧
    (settings.policy .dryCell).resolve
      (run.drawing.turtle.candidate run.drawing.turtle.segmentLength) = some ⟨-1.0, -1.0⟩ ∧
    Network.generate settings .dryCell = .ok network ∧
    network.graph.nodes.map Node.position = #[.origin, ⟨-1.0, -1.0⟩] ∧
    network.graph.segments.size = 1 := by
  let settings : NetworkSettings :=
    { highway := ⟨";(3e38);(3e38)+F".toList, .empty, 0⟩, neighborhoods := 0, adjusts := true }
  have turned : (Run.takeAll (settings.interpreter .dryCell).rules 0 0
      (Token.scan ";(3e38);(3e38)+".toList)
      ⟨⟨settings.highwayTurtle.spawn settings.root 0, [], settings.rooted .dryCell⟩,
        {}⟩).toOption.map (fun run =>
          let candidate := run.drawing.turtle.candidate run.drawing.turtle.segmentLength
          (candidate.endPosition.isUndefined, (settings.policy .dryCell).resolve candidate)) =
      some (true, some ⟨-1.0, -1.0⟩) := by
    decide +kernel
  have grown : (Network.generate settings .dryCell).toOption.map (fun network =>
      (network.graph.nodes.map Node.position, network.graph.segments.size)) =
      some (#[.origin, ⟨-1.0, -1.0⟩], 1) := by
    decide +kernel
  obtain ⟨run, ran, resolved⟩ := Option.map_eq_some_iff.mp turned
  obtain ⟨network, generated, placed⟩ := Option.map_eq_some_iff.mp grown
  rw [toOption_eq_some] at ran generated
  rw [Prod.mk.injEq] at resolved placed
  exact ⟨settings, run, network, by decide +kernel, rfl, ran, resolved.1, resolved.2, generated,
    placed.1, placed.2⟩

end NetworkSettings

end RoadGrowth
