import RoadGrowth.Network.Growth
import RoadGrowth.Proofs.Numeric.Order
import RoadGrowth.Proofs.Placement.Policy
import RoadGrowth.Proofs.Turtle.Standing

/-!
# Where a network lies

Growing a network builds one graph: the root is added first, and both phases only
grow segments. A node that a growth adds lies at an end that the policy accepted. So
every node but the root lies on the map and on land, however its position came
about, and every segment ends at the root or at such a node.
-/

namespace RoadGrowth

/-- The graph that a network grows from: the root alone, indexed. -/
abbrev NetworkSettings.rooted (settings : NetworkSettings) (terrain : Terrain) : Graph :=
  .ofRoot (settings.policy terrain) settings.snapDistance terrain settings.root

/-- A dry map of one cell, with nobody living on it. -/
def Terrain.dryCell : Terrain := .level ⟨1, 1⟩ ⟨1.0, 0.0, 1.0, 1.0⟩ (by decide)

/-! ## Growth of the graph -/

namespace NetworkState

variable {state next : NetworkState} {script : Script} {settings : NetworkSettings}

/-- A script that is replayed takes all its tokens. -/
theorem takeAll_of_run {turtle : Turtle} (done : state.run script turtle = .ok next) :
    ∃ finished, Run.takeAll state.interpreter.rules state.interpreter.runs 0 (Token.scan script)
        ⟨⟨turtle, [], state.graph⟩, {}⟩ = .ok finished ∧ finished.drawing.graph = next.graph := by
  obtain ⟨interpreter, graph⟩ := state
  simp only [run] at done
  split at done
  · rename_i after summary final ran
    cases done
    obtain ⟨finished, taken, -, same⟩ := Interpreter.takeAll_of_run ran
    exact ⟨finished, taken, same⟩
  · cases done

/-- A street grid is a run of the script with a turtle at its origin. -/
theorem run_of_growStreets {origin : Nat}
    (done : growStreets settings script state origin = .ok next) :
    ∃ (node : Node) (heading : Float32), state.run script
      { settings.streetTurtle.spawn node.position origin with
        direction := heading + settings.streetTurn } = .ok next := by
  unfold growStreets at done
  split at done
  · rename_i turtle started
    obtain ⟨node, -, started⟩ := bind_eq_ok.mp started
    obtain ⟨heading, -, started⟩ := bind_eq_ok.mp started
    cases started
    exact ⟨node, heading, done⟩
  · cases done

theorem run_grown {turtle : Turtle} (done : state.run script turtle = .ok next) :
    state.graph.Grown next.graph := by
  obtain ⟨finished, taken, same⟩ := takeAll_of_run done
  rw [← same]
  exact Run.takeAll_grown taken

theorem growHighways_grown (done : state.growHighways settings = .ok next) :
    (state.graph.addNode settings.root).Grown next.graph := by
  obtain ⟨script, -, ran⟩ := bind_eq_ok.mp done
  exact run_grown ran

theorem growStreets_grown {origin : Nat}
    (done : growStreets settings script state origin = .ok next) :
    state.graph.Grown next.graph := by
  obtain ⟨node, heading, ran⟩ := run_of_growStreets done
  exact run_grown ran

theorem growAllStreets_grown {origins : List Nat}
    (done : origins.foldlM (growStreets settings script) state = .ok next) :
    state.graph.Grown next.graph :=
  foldlM_invariant (fun later => state.graph.Grown later.graph)
    (fun one grown => grown.trans (growStreets_grown one)) .refl done

end NetworkState

theorem NetworkSettings.checked_eq_ok {settings checked : NetworkSettings} :
    settings.checked = .ok checked ↔ settings.check = .ok () ∧ checked = settings := by
  unfold NetworkSettings.checked
  split
  · rename_i accepted
    exact ⟨fun same => ⟨accepted, (Except.ok.inj same).symm⟩, fun same => congrArg _ same.2.symm⟩
  · rename_i refused
    exact ⟨nofun, fun ⟨accepted, _⟩ => nomatch refused.symm.trans accepted⟩

theorem evenlySpaced_zero (length : Nat) : evenlySpaced length 0 = [] := by
  rw [evenlySpaced, Nat.zero_min, List.range_zero, List.map_nil]

namespace Network

variable {settings : NetworkSettings} {terrain : Terrain} {network : Network}

theorem ungrown_eq (settings : NetworkSettings) (terrain : Terrain) :
    ungrown settings terrain = .ok ⟨settings.interpreter terrain,
      { Graph.empty (settings.policy terrain) settings.snapDistance with
        index := some (CellIndex.empty terrain) }⟩ := rfl

/-- The state when the highways are finished. -/
def highways (settings : NetworkSettings) (terrain : Terrain) : Except Problem NetworkState := do
  (← ungrown settings terrain).growHighways settings

/-- How a network comes about: highways first, then a street grid from each of some nodes that are
spread over them. Without neighborhoods the street script is not needed. -/
inductive GrownInPhases (settings : NetworkSettings) (terrain : Terrain) : Network → Prop where
  | phases {first finished : NetworkState} {script : Script}
    (firstPhase : highways settings terrain = .ok first)
    (scripted : settings.neighborhoods ≠ 0 → settings.script settings.streets = .ok script)
    (secondPhase : (evenlySpaced first.graph.nodes.size settings.neighborhoods.toNat).foldlM
      (NetworkState.growStreets settings script) first = .ok finished) :
    GrownInPhases settings terrain ⟨settings, terrain, finished.graph, first.graph.segments.size,
      evenlySpaced first.graph.nodes.size settings.neighborhoods.toNat⟩

theorem grownInPhases (done : generate settings terrain = .ok network) :
    GrownInPhases settings terrain network := by
  obtain ⟨checked, checkedEq, grown⟩ := bind_eq_ok.mp done
  obtain ⟨-, rfl⟩ := NetworkSettings.checked_eq_ok.mp checkedEq
  obtain ⟨state, started, highwaysGrown⟩ := bind_eq_ok.mp grown
  obtain ⟨first, firstGrown, streets⟩ := bind_eq_ok.mp highwaysGrown
  have firstPhase : highways checked terrain = .ok first :=
    bind_eq_ok.mpr ⟨state, started, firstGrown⟩
  dsimp only at streets
  split at streets
  · rename_i none
    cases streets
    have noOrigins : evenlySpaced first.graph.nodes.size checked.neighborhoods.toNat = [] := by
      rw [none]
      exact evenlySpaced_zero _
    have finished := @GrownInPhases.phases checked terrain first first [] firstPhase (absurd none)
      (by rw [noOrigins]; rfl)
    rwa [noOrigins] at finished
  · obtain ⟨script, scripted, rest⟩ := bind_eq_ok.mp streets
    obtain ⟨finished, secondPhase, result⟩ := bind_eq_ok.mp rest
    cases result
    exact .phases firstPhase (fun _ => scripted) secondPhase

/-- Phases that succeed make a network. -/
theorem generate_of_phases (accepted : settings.check = .ok ())
    (grown : GrownInPhases settings terrain network) :
    generate settings terrain = .ok network := by
  have checked := NetworkSettings.checked_eq_ok.mpr ⟨accepted, rfl⟩
  cases grown with
  | @phases first finished script firstPhase scripted secondPhase =>
    obtain ⟨root, started, grown⟩ := bind_eq_ok.mp firstPhase
    refine bind_eq_ok.mpr ⟨settings, checked, bind_eq_ok.mpr ⟨root, started,
      bind_eq_ok.mpr ⟨first, grown, ?_⟩⟩⟩
    by_cases none : settings.neighborhoods = 0
    · rw [none, UInt32.toNat_zero, evenlySpaced_zero] at secondPhase ⊢
      cases secondPhase
      exact if_pos rfl
    · exact (if_neg none).trans
        (bind_eq_ok.mpr ⟨script, scripted none, bind_eq_ok.mpr ⟨finished, secondPhase, rfl⟩⟩)

theorem highways_grown {state : NetworkState} (done : highways settings terrain = .ok state) :
    (settings.rooted terrain).Grown state.graph := by
  obtain ⟨ungrown, started, grown⟩ := bind_eq_ok.mp done
  rw [ungrown_eq] at started
  cases started
  exact NetworkState.growHighways_grown grown

/-- A network is grown from its root. -/
theorem generate_grown (done : generate settings terrain = .ok network) :
    (settings.rooted terrain).Grown network.graph := by
  cases grownInPhases done with
  | phases firstPhase scripted secondPhase =>
    exact (highways_grown firstPhase).trans (NetworkState.growAllStreets_grown secondPhase)

end Network

/-! ## Placement -/

/-- The root lies at a point, and every other node where a policy accepts an end. -/
structure Graph.PlacedBy (graph : Graph) (policy : Policy) (root : Point) : Prop where
  policy_eq : graph.policy = policy
  root_known : ∃ node, graph.nodes[0]? = some node ∧ node.position = root
  accepted : ∀ id node, 1 ≤ id → graph.nodes[id]? = some node →
    ∃ candidate : Candidate, policy.accepts (candidate.withEnd node.position)

theorem Graph.PlacedBy.grew {graph next : Graph} {policy : Policy} {root : Point}
    {candidate : Candidate} {growth : Option Growth} (placed : graph.PlacedBy policy root)
    (grew : Grew graph candidate next growth) : next.PlacedBy policy root where
  policy_eq := grew.policy_eq.trans placed.policy_eq
  root_known := by
    obtain ⟨node, known, same⟩ := placed.root_known
    obtain ⟨kept, keptKnown, unmoved⟩ := grew.position_kept known
    exact ⟨kept, keptKnown, unmoved.trans same⟩
  accepted id node later known := by
    rcases grew.position_new known with ⟨before, found, same⟩ | ⟨-, resolved⟩
    · rw [← same]
      exact placed.accepted id before later found
    · rw [placed.policy_eq] at resolved
      exact ⟨candidate, Policy.accepts_of_resolve resolved⟩

namespace NetworkSettings

variable {settings : NetworkSettings} {terrain : Terrain}

theorem rooted_placedBy : (settings.rooted terrain).PlacedBy (settings.policy terrain)
    settings.root where
  policy_eq := rfl
  root_known := ⟨_, rfl, rfl⟩
  accepted id node later known := by
    have first := Graph.lt_size_of_known known
    change id < 1 at first
    omega

/-- The policy of a network accepts what ends on the map and on land. -/
theorem accepts_policy {candidate : Candidate} :
    (settings.policy terrain).accepts candidate ↔
      Terrain.mapBounds.contains candidate.endPosition ∧ terrain.isLand candidate.endPosition := by
  simp [Policy.accepts, policy, Constraint.bounds, Constraint.water]

end NetworkSettings

/-- A point inside a rectangle has no NaN coordinate. -/
theorem Rectangle.isNaN_of_contains {rectangle : Rectangle} {point : Point}
    (inside : rectangle.contains point) : point.x.isNaN = false ∧ point.y.isNaN = false := by
  simp only [contains, Bool.and_eq_true, decide_eq_true_eq] at inside
  obtain ⟨⟨⟨left, -⟩, lower⟩, -⟩ := inside
  exact ⟨(Numeric.le_iff.mp left).2.1, (Numeric.le_iff.mp lower).2.1⟩

/-- In a network the root lies where the settings put it, and every other node inside the map and
on land, so that every segment ends at the root or at such a node. -/
theorem Network.generate_placed {settings : NetworkSettings} {terrain : Terrain}
    {network : Network} (done : generate settings terrain = .ok network) :
    (∃ root, network.graph.nodes[0]? = some root ∧ root.position = settings.root) ∧
    (∀ id node, 1 ≤ id → network.graph.nodes[id]? = some node →
      Terrain.mapBounds.contains node.position ∧ terrain.isLand node.position ∧
        node.position.x.isNaN = false ∧ node.position.y.isNaN = false) ∧
    ∀ segment ∈ network.graph.segments, segment.finish = 0 ∨
      ∃ node, network.graph.nodes[segment.finish]? = some node ∧
        Terrain.mapBounds.contains node.position ∧ terrain.isLand node.position := by
  have grown := generate_grown done
  have consistent := ((Graph.reachable_ofRoot _ _ _ _).later grown).consistent
  have placed : network.graph.PlacedBy (settings.policy terrain) settings.root :=
    grown.invariant (fun graph => graph.PlacedBy (settings.policy terrain) settings.root)
      NetworkSettings.rooted_placedBy fun _ grew holds => holds.grew grew
  have allowed : ∀ id node, 1 ≤ id → network.graph.nodes[id]? = some node →
      Terrain.mapBounds.contains node.position ∧ terrain.isLand node.position := by
    intro id node later known
    obtain ⟨candidate, accepted⟩ := placed.accepted id node later known
    have both := NetworkSettings.accepts_policy.mp accepted
    exact both
  refine ⟨placed.root_known, fun id node later known => ?_, fun segment member => ?_⟩
  · obtain ⟨inside, land⟩ := allowed id node later known
    exact ⟨inside, land, Rectangle.isNaN_of_contains inside⟩
  · rcases Nat.eq_zero_or_pos segment.finish with root | later
    · exact .inl root
    · obtain ⟨node, known⟩ : ∃ node, network.graph.nodes[segment.finish]? = some node :=
        ⟨_, Array.getElem?_eq_getElem (consistent.finish_lt segment member)⟩
      exact .inr ⟨node, known, allowed segment.finish node later known⟩

/-- Two highway segments on a dry map of one cell. -/
theorem Network.generate_placed_on_one_cell :
    ∃ network,
      generate { highway := ⟨"FF".toList, .empty, 0⟩, neighborhoods := 0 } .dryCell = .ok network ∧
      network.graph.nodes.size = 3 ∧
      ∀ id node, 1 ≤ id → network.graph.nodes[id]? = some node →
        Terrain.mapBounds.contains node.position ∧ Terrain.dryCell.isLand node.position := by
  have counted : (generate { highway := ⟨"FF".toList, .empty, 0⟩, neighborhoods := 0 }
      .dryCell).toOption.map (fun network => network.graph.nodes.size) = some 3 := by
    decide +kernel
  obtain ⟨network, done, size⟩ := Option.map_eq_some_iff.mp counted
  rw [toOption_eq_some] at done
  obtain ⟨-, allowed, -⟩ := generate_placed done
  refine ⟨network, done, size, fun id node later known => ?_⟩
  obtain ⟨inside, land, -⟩ := allowed id node later known
  exact ⟨inside, land⟩

end RoadGrowth
