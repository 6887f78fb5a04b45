import RoadGrowth.Proofs.Turtle.Accounts
import RoadGrowth.Proofs.Turtle.Steering

/-!
# Spanning

A span starts with one segment length and looks one more ahead before it takes it. So it
ends where the next length would leave the band, or at the largest number of lengths, and
there is only one number of lengths at which it can end. What is drawn is an ordinary
segment that has been given the length of the span.
-/

namespace RoadGrowth

/-! ## Bounded repetition -/

/-- Something is repeated as often as it may be: it may be each time before, and not once more or
the bound is reached. -/
structure StopsAfter (continues : Nat → Prop) (most count : Nat) : Prop where
  le_most : count ≤ most
  continued : ∀ earlier < count, continues earlier
  stopped : count = most ∨ ¬continues count

namespace StopsAfter

variable {continues : Nat → Prop} {most count other : Nat}

theorem le (first : StopsAfter continues most count) (second : StopsAfter continues most other) :
    other ≤ count := by
  by_contra beyond
  rcases first.stopped with last | refused
  · exact beyond (second.le_most.trans last.ge)
  · exact refused (second.continued count (not_le.mp beyond))

theorem unique (first : StopsAfter continues most count)
    (second : StopsAfter continues most other) : count = other :=
  le_antisymm (second.le first) (first.le second)

theorem zero (refused : ¬continues 0) : StopsAfter continues most 0 :=
  ⟨Nat.zero_le _, fun _ before => absurd before (Nat.not_lt_zero _), .inr refused⟩

/-- Once more in front. -/
theorem succ (first : continues 0) (rest : StopsAfter (fun time => continues (time + 1)) most count) :
    StopsAfter continues (most + 1) (count + 1) where
  le_most := Nat.succ_le_succ rest.le_most
  continued earlier before := by
    cases earlier with
    | zero => exact first
    | succ earlier => exact rest.continued earlier (Nat.lt_of_succ_lt_succ before)
  stopped := rest.stopped.imp_left (congrArg Nat.succ)

end StopsAfter

/-! ## Lengths -/

/-- A density is strictly on the side of a threshold that a mode stays on. -/
def SpanMode.OnSide : SpanMode → (threshold density : Float32) → Prop
  | dense, threshold, density => threshold < density
  | sparse, threshold, density => density < threshold

theorem SpanMode.admits_iff {mode : SpanMode} {threshold density : Float32} :
    mode.admits threshold density = true ↔ mode.OnSide threshold density := by
  cases mode <;> exact decide_eq_true_iff

namespace Turtle

/-- One segment length and a number of further ones, added one after the other. -/
def stretched (turtle : Turtle) : (further : Nat) → Float32
  | 0 => turtle.segmentLength
  | further + 1 => turtle.stretched further + turtle.segmentLength

/-- By induction on the bound, for any lengths that are a step apart. -/
theorem exists_lengthen_eq {step : Float32} (keeps : Float32 → Bool) (most : Nat)
    (lengths : Nat → Float32) (apart : ∀ number, lengths (number + 1) = lengths number + step) :
    ∃ count, StopsAfter (fun number => keeps (lengths (number + 1)) = true) most count ∧
      lengthen step keeps most (lengths 0) = lengths count := by
  induction most generalizing lengths with
  | zero => exact ⟨0, ⟨le_rfl, by simp, .inl rfl⟩, rfl⟩
  | succ most ih =>
    rw [lengthen, ← apart]
    by_cases kept : keeps (lengths 1) = true
    · obtain ⟨count, stops, lengthEq⟩ :=
        ih (fun number => lengths (number + 1)) fun number => apart (number + 1)
      rw [if_pos kept]
      exact ⟨count + 1, .succ kept stops, lengthEq⟩
    · rw [if_neg kept]
      exact ⟨0, .zero kept, rfl⟩

theorem exists_spanLength_eq (terrain : Terrain) (turtle : Turtle) (threshold : Float32)
    (mode : SpanMode) (steps : UInt32) :
    ∃ further, StopsAfter (fun taken => mode.OnSide threshold
        (turtle.densityAlong terrain turtle.direction (turtle.stretched (taken + 1))))
        (max steps.toNat 1 - 1) further ∧
      turtle.spanLength terrain threshold mode steps = turtle.stretched further := by
  simp only [← SpanMode.admits_iff]
  rw [max_comm]
  exact exists_lengthen_eq
    (fun length => mode.admits threshold (turtle.densityAlong terrain turtle.direction length))
    _ turtle.stretched fun _ => rfl

end Turtle

/-! ## Spans -/

/-- A span is one segment length and a number of further ones long, added one after the other. The
density at each further length is strictly on the side of the mode, and at the next one it is not,
unless the largest number of lengths is reached, which is at least one; there is no other such
number. The rule does what drawing does when it is given that length: from a node it grows one
segment towards the point at that length ahead, which the policy may move or reject as any other,
and the turtle walks along it or its branch ends. -/
theorem Rule.span_to_band_end (terrain : Terrain) (threshold : Float32) (mode : SpanMode)
    (steps : UInt32) (site : UInt64) (given : Option Float32) (drawing : Drawing) :
    let turtle := drawing.turtle
    let limit := given.getD threshold
    let length := turtle.spanLength terrain limit mode steps
    let inBand (further : Nat) : Prop :=
      mode.OnSide limit (turtle.densityAlong terrain turtle.direction (turtle.stretched further))
    let rule := Rule.span terrain threshold mode steps
    (∃ further,
      StopsAfter (fun taken => inBand (taken + 1)) (max steps.toNat 1 - 1) further ∧
        length = turtle.stretched further ∧
        ∀ other, StopsAfter (fun taken => inBand (taken + 1)) (max steps.toNat 1 - 1) other →
          other = further) ∧
    rule.apply site given drawing = Rule.draw.apply site (some length) drawing ∧
    ∀ node, drawing.graph.nodes[turtle.node]? = some node →
      ∃ graph growth, drawing.graph.Grew ⟨turtle.node, node.position,
          turtle.position + (headingVector turtle.direction).scale length,
          turtle.direction, turtle.roadClass⟩ graph growth ∧
        graph.segments.size = drawing.graph.segments.size + (if growth.isSome then 1 else 0) ∧
        rule.apply site given drawing = .ok { drawing with
          turtle := growth.elim { turtle with ended := true } fun growth =>
            { turtle with
              position := growth.position
              direction := growth.segment.rotation
              node := growth.segment.finish }
          graph } := by
  intro turtle limit length inBand rule
  obtain ⟨further, stops, lengthEq⟩ :=
    Turtle.exists_spanLength_eq terrain turtle limit mode steps
  refine ⟨⟨further, stops, lengthEq, fun other others => others.unique stops⟩, rfl,
    fun node known => ?_⟩
  obtain ⟨graph, growth, grew, done⟩ := Drawing.exists_forward length known
  exact ⟨graph, growth, grew, grew.size_segments, done⟩

/-- A turtle looks across a center: the density is high at two further lengths and not at a third. A
span stays in the high density for as long, or for one further length if it may have two in all, and
it takes none to stay in the low density. -/
theorem Rule.span_to_band_end_past_center :
    let turtle := Turtle.eastward
    let drawing : Drawing := ⟨turtle, [], (Graph.empty {}).addNode .origin⟩
    let ahead (further : Nat) : Float32 :=
      turtle.densityAlong .oneCenter turtle.direction (turtle.stretched further)
    (0.25 < ahead 1 ∧ 0.25 < ahead 2 ∧ ¬0.25 < ahead 3) ∧
      turtle.spanLength .oneCenter 0.25 .dense 10 = turtle.stretched 2 ∧
      turtle.spanLength .oneCenter 0.25 .dense 2 = turtle.stretched 1 ∧
      turtle.spanLength .oneCenter 0.25 .sparse 10 = turtle.stretched 0 ∧
      drawing.graph.nodes[turtle.node]? = some ⟨0, .origin, #[], #[]⟩ ∧
      ∃ graph growth next,
        drawing.graph.Grew
          ⟨turtle.node, .origin, turtle.ahead (turtle.spanLength .oneCenter 0.25 .dense 10),
            turtle.direction, turtle.roadClass⟩ graph growth ∧
        graph.segments.size = (if growth.isSome then 1 else 0) ∧ next.graph = graph ∧
        (Rule.span .oneCenter 0.25 .dense 10).apply 0 none drawing = .ok next := by
  intro turtle drawing ahead
  have near : 0.25 < ahead 1 := by decide +kernel
  have atCenter : 0.25 < ahead 2 := by decide +kernel
  have far : ¬0.25 < ahead 3 := by decide +kernel
  obtain ⟨⟨_, -, long, only⟩, -, grows⟩ :=
    span_to_band_end .oneCenter 0.25 .dense 10 0 none drawing
  obtain ⟨⟨_, -, capped, onlyCapped⟩, -⟩ :=
    span_to_band_end .oneCenter 0.25 .dense 2 0 none drawing
  obtain ⟨⟨_, -, short, onlyShort⟩, -⟩ :=
    span_to_band_end .oneCenter 0.25 .sparse 10 0 none drawing
  have dense : StopsAfter (fun taken => 0.25 < ahead (taken + 1)) 9 2 := by
    refine ⟨by decide, fun earlier before => ?_, .inr far⟩
    rcases Nat.le_one_iff_eq_zero_or_eq_one.mp (Nat.le_of_lt_succ before) with rfl | rfl
    · exact near
    · exact atCenter
  have two : StopsAfter (fun taken => 0.25 < ahead (taken + 1)) 1 1 := by
    refine ⟨le_rfl, fun earlier before => ?_, .inl rfl⟩
    obtain rfl := Nat.lt_one_iff.mp before
    exact near
  have sparse : StopsAfter (fun taken => ahead (taken + 1) < 0.25) 9 0 :=
    .zero (by decide +kernel : ¬ahead 1 < 0.25)
  obtain rfl := only 2 dense
  obtain rfl := onlyCapped 1 two
  obtain rfl := onlyShort 0 sparse
  obtain ⟨graph, growth, grew, size, done⟩ := grows ⟨0, .origin, #[], #[]⟩ rfl
  exact ⟨⟨near, atCenter, far⟩, long, capped, short, rfl, graph, growth, _, grew,
    size.trans (Nat.zero_add _), rfl, done⟩

end RoadGrowth
