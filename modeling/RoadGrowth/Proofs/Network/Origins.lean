import RoadGrowth.Proofs.Network.Ancestry
import RoadGrowth.Proofs.Network.Spacing

/-!
# Where street grids start

A street grid starts from a node that the highways left, along the first road that leads
to it. Every node but the root has such a road before any street is drawn, and later
roads are listed behind it. The root may have none, but it is the origin of the first
grid. So no grid changes how a later one starts.
-/

namespace RoadGrowth

namespace Graph

/-- A heading is that of the road with the lowest number that leads to a node, or zero if no road
leads there. -/
def ArrivesAlong (graph : Graph) (node : Node) (heading : Float32) : Prop :=
  (∃ first segment, first ∈ node.inbound ∧ (∀ other ∈ node.inbound, first ≤ other) ∧
      graph.segments[first]? = some segment ∧ heading = segment.rotation) ∨
    node.inbound = #[] ∧ heading = 0.0

end Graph

namespace NetworkState

variable {graph later : Graph} {settings : NetworkSettings} {origin : Nat} {node : Node}

theorem arrival_of_first {first : Nat} {segment : Segment}
    (firstKnown : node.inbound[0]? = some first)
    (segmentKnown : graph.segments[first]? = some segment) :
    arrival graph node = .ok segment.rotation := by
  simp only [arrival, firstKnown, Graph.segment, segmentKnown]
  rfl

theorem streetTurtle_of_arrival (settings : NetworkSettings) {heading : Float32}
    (known : graph.nodes[origin]? = some node) (arrived : arrival graph node = .ok heading) :
    streetTurtle graph settings origin = .ok { settings.streetTurtle.spawn node.position origin with
      direction := heading + settings.streetTurn } := by
  have found : graph.node origin = .ok node := by rw [Graph.node, known]
  exact bind_eq_ok.mpr ⟨node, found, bind_eq_ok.mpr ⟨heading, arrived, rfl⟩⟩

/-- The turtle of a street grid, from what its node lists. -/
theorem exists_arrival (consistent : graph.Consistent) (known : graph.nodes[origin]? = some node) :
    ∃ heading, arrival graph node = .ok heading ∧ graph.ArrivesAlong node heading := by
  cases firstKnown : node.inbound[0]? with
  | none =>
    refine ⟨0.0, by rw [arrival, firstKnown], .inr ⟨?_, rfl⟩⟩
    exact Array.eq_empty_of_size_eq_zero (Nat.le_zero.mp (Array.getElem?_eq_none_iff.mp firstKnown))
  | some first =>
    have member := Array.mem_of_getElem? firstKnown
    have segmentKnown := Array.getElem?_eq_getElem ((consistent.listed_lt known).1 first member)
    obtain ⟨lowest, -⟩ := consistent.first_inbound known firstKnown segmentKnown
    exact ⟨_, arrival_of_first firstKnown segmentKnown,
      .inl ⟨first, _, member, lowest, segmentKnown, rfl⟩⟩

/-- Once a road leads to a node, an extension of the graph has the same turtle for it. -/
theorem streetTurtle_extended (extended : graph.Extends later) {first : Nat} {segment : Segment}
    (known : graph.nodes[origin]? = some node) (firstKnown : node.inbound[0]? = some first)
    (segmentKnown : graph.segments[first]? = some segment) :
    streetTurtle later settings origin = streetTurtle graph settings origin := by
  obtain ⟨kept, keptKnown, same⟩ := extended.nodes known
  rw [streetTurtle_of_arrival settings known (arrival_of_first firstKnown segmentKnown),
    streetTurtle_of_arrival settings keptKnown
      (arrival_of_first (same.inbound.first firstKnown) (extended.segment_kept segmentKnown)),
    same.position_eq]

end NetworkState

namespace Network

variable {settings : NetworkSettings} {terrain : Terrain} {network : Network}

theorem descended_highways {first : NetworkState} (done : highways settings terrain = .ok first) :
    first.graph.Descended :=
  (highways_grown done).invariant Graph.Descended (Graph.descended_ofRoot _ _ _ _)
    fun starts grew holds => holds.grew starts grew

/-- The grids before a place, and the state that the grid at that place grows from. -/
theorem grids_before {first finished : NetworkState} {script : Script} {origins : List Nat}
    (done : origins.foldlM (NetworkState.growStreets settings script) first = .ok finished)
    (place : Nat) : ∃ state,
      (origins.take place).foldlM (NetworkState.growStreets settings script) first = .ok state := by
  rw [← List.take_append_drop place origins, List.foldlM_append] at done
  obtain ⟨state, before, -⟩ := bind_eq_ok.mp done
  exact ⟨state, before⟩

/-- The turtle that a street grid is grown with is the one that the finished highways give its
origin: it stands there and looks along the first road to it, turned as the settings say. The grids
grown before do not change it. -/
theorem street_turtles_fixed (done : generate settings terrain = .ok network) :
    ∃ first : NetworkState, highways settings terrain = .ok first ∧
      ∀ place origin, network.origins[place]? = some origin →
        ∃ script state node heading turtle, settings.script settings.streets = .ok script ∧
          (network.origins.take place).foldlM (NetworkState.growStreets settings script) first =
            .ok state ∧
          first.graph.nodes[origin]? = some node ∧ first.graph.ArrivesAlong node heading ∧
          turtle = { settings.streetTurtle.spawn node.position origin with
            direction := heading + settings.streetTurn } ∧
          NetworkState.streetTurtle first.graph settings origin = .ok turtle ∧
          NetworkState.streetTurtle state.graph settings origin = .ok turtle ∧
          NetworkState.growStreets settings script state origin = state.run script turtle := by
  cases grownInPhases done with
  | @phases first finished script firstPhase scripted secondPhase =>
    refine ⟨first, firstPhase, fun place origin origins => ?_⟩
    dsimp only at origins ⊢
    have listed := List.mem_of_getElem? origins
    have wanted := NetworkSettings.neighborhoods_ne_zero listed
    have known := Array.getElem?_eq_getElem (evenlySpaced_lt listed)
    obtain ⟨heading, arrived, along⟩ :=
      NetworkState.exists_arrival (consistent_highways firstPhase) known
    have started := NetworkState.streetTurtle_of_arrival settings known arrived
    obtain ⟨state, before⟩ := grids_before secondPhase place
    have same : NetworkState.streetTurtle state.graph settings origin =
        NetworkState.streetTurtle first.graph settings origin := by
      rcases Nat.eq_zero_or_pos place with rfl | later
      · -- Nothing has been drawn before the first grid.
        cases before
        rfl
      · obtain ⟨road, segment, roadKnown, segmentKnown, -⟩ := (descended_highways firstPhase).older
          (evenlySpaced_pos later.ne_zero origins) known
        have extended := (NetworkState.growAllStreets_grown before).extends
        exact NetworkState.streetTurtle_extended extended known roadKnown segmentKnown
    have startedLater := same.trans started
    refine ⟨script, state, _, heading, _, scripted wanted, before, known, along, rfl, started,
      startedLater, ?_⟩
    rw [NetworkState.growStreets, startedLater]

/-- The street from the root is moved onto the second origin, which then has two roads to it and
still starts its own grid along the highway. -/
theorem street_turtles_fixed_at_joined_origin :
    ∃ (settings : NetworkSettings) (network : Network) (first state : NetworkState)
      (script : Script) (turtle : Turtle),
      generate settings .dryCell = .ok network ∧ network.origins = [0, 1, 2] ∧
      network.graph.nodes[1]?.map (fun node => node.inbound) = some #[0, 2] ∧
      highways settings .dryCell = .ok first ∧
      NetworkState.growStreets settings script first 0 = .ok state ∧
      NetworkState.streetTurtle state.graph settings 1 = .ok turtle ∧
      NetworkState.streetTurtle first.graph settings 1 = .ok turtle := by
  let settings : NetworkSettings :=
    { highway := ⟨"FF".toList, .empty, 0⟩, streets := ⟨"-(90)F(0.05)".toList, .empty, 0⟩,
      neighborhoods := 3, streetTurn := 0.0 }
  have grown : (generate settings .dryCell).toOption.map (fun network =>
      (network.origins, network.graph.nodes[1]?.map fun node => node.inbound)) =
        some ([0, 1, 2], some #[0, 2]) := by
    decide +kernel
  obtain ⟨network, done, shape⟩ := Option.map_eq_some_iff.mp grown
  rw [toOption_eq_some] at done
  obtain ⟨origins, inbound⟩ := Prod.mk.inj shape
  obtain ⟨first, firstPhase, fixed⟩ := street_turtles_fixed done
  have second : network.origins[1]? = some 1 := by rw [origins]; rfl
  obtain ⟨script, state, _, _, turtle, -, before, -, -, -, started, startedLater, -⟩ :=
    fixed 1 1 second
  rw [origins] at before
  obtain ⟨state', firstGrid, rest⟩ := bind_eq_ok.mp before
  cases rest
  exact ⟨settings, network, first, _, script, turtle, done, origins, inbound, firstPhase,
    firstGrid, startedLater, started⟩

end Network

end RoadGrowth
