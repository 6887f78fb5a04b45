import RoadGrowth.Proofs.Graph.Extension
import RoadGrowth.Proofs.Network.Placement

/-!
# Streets leave highways alone

The second phase only grows the graph of the first one. So the highways are the first
segments of a network, their nodes stay where they are, and a node lists the segments
of the first phase that touch it before those of the second. The first phase does not
look at the settings for streets, so it is the same under any of them.
-/

namespace RoadGrowth

/-- The settings with other ones for the second phase. -/
abbrev NetworkSettings.withStreets (settings : NetworkSettings) (streets : GrammarSettings)
    (neighborhoods : UInt32) (streetTurtle : TurtleSettings) (streetTurn : Float32) :
    NetworkSettings :=
  { settings with streets, neighborhoods, streetTurtle, streetTurn }

namespace Network

variable {settings : NetworkSettings} {terrain : Terrain} {network : Network}
  {first : NetworkState}

theorem consistent_highways (done : highways settings terrain = .ok first) :
    first.graph.Consistent :=
  ((Graph.reachable_ofRoot _ _ _ _).later (highways_grown done)).consistent

/-- The second phase extends the graph of the first one. -/
theorem highways_of_generate (done : generate settings terrain = .ok network) :
    ∃ first : NetworkState, highways settings terrain = .ok first ∧
      network.highwayCount = first.graph.segments.size ∧ first.graph.Extends network.graph := by
  cases grownInPhases done with
  | phases firstPhase scripted secondPhase =>
    exact ⟨_, firstPhase, rfl, (NetworkState.growAllStreets_grown secondPhase).extends⟩

/-- The first segments of an extension are those of the graph. -/
theorem highwaySegments_eq (counted : network.highwayCount = first.graph.segments.size)
    (extended : first.graph.Extends network.graph) :
    network.highwaySegments = first.graph.segments.toList := by
  rw [highwaySegments, counted, ← Array.length_toList]
  exact (List.prefix_iff_eq_take.mp extended.segments).symm

/-- The highways of a network are the segments that there were when they were finished, and every
node there was then is where it was and lists the same highways. With other settings for streets
the highways and the positions of those nodes are the same. -/
theorem generate_keeps_highways (done : generate settings terrain = .ok network) :
    ∃ first : NetworkState, highways settings terrain = .ok first ∧
      network.highwayCount = first.graph.segments.size ∧
      network.highwaySegments = first.graph.segments.toList ∧
      (∀ (id : Nat) (node : Node), first.graph.nodes[id]? = some node →
        ∃ kept, network.graph.nodes[id]? = some kept ∧ kept.id = node.id ∧
          kept.position = node.position ∧
          kept.inbound.toList.filter (· < network.highwayCount) = node.inbound.toList ∧
          kept.outbound.toList.filter (· < network.highwayCount) = node.outbound.toList) ∧
      ∀ streets neighborhoods streetTurtle streetTurn other,
        generate (settings.withStreets streets neighborhoods streetTurtle streetTurn) terrain =
            .ok other →
          other.highwaySegments = network.highwaySegments ∧
          ∀ id < first.graph.nodes.size,
            other.graph.nodes[id]?.map Node.position = network.graph.nodes[id]?.map Node.position := by
  obtain ⟨first, firstPhase, counted, extended⟩ := highways_of_generate done
  refine ⟨first, firstPhase, counted, highwaySegments_eq counted extended,
    fun id node known => ?_,
    fun streets neighborhoods streetTurtle streetTurn other otherDone => ?_⟩
  · obtain ⟨kept, keptKnown, same⟩ := extended.nodes known
    obtain ⟨inbound, outbound⟩ := (consistent_highways firstPhase).listed_lt known
    rw [counted]
    exact ⟨kept, keptKnown, same.id_eq, same.position_eq, same.inbound.filter_eq inbound,
      same.outbound.filter_eq outbound⟩
  · obtain ⟨otherFirst, otherPhase, otherCounted, otherExtended⟩ := highways_of_generate otherDone
    -- The first phase reads none of the settings that differ.
    have samePhase : highways settings terrain = .ok otherFirst := otherPhase
    rw [firstPhase] at samePhase
    cases samePhase
    refine ⟨?_, fun id present => ?_⟩
    · rw [highwaySegments_eq counted extended, highwaySegments_eq otherCounted otherExtended]
    · have known := Array.getElem?_eq_getElem present
      obtain ⟨kept, keptKnown, same⟩ := extended.nodes known
      obtain ⟨otherKept, otherKnown, otherSame⟩ := otherExtended.nodes known
      rw [keptKnown, otherKnown]
      exact congrArg some (otherSame.position_eq.trans same.position_eq.symm)

/-- A street that turns round onto the root, and streets from two nodes with a turtle of another
class: the highways are the same. -/
theorem generate_keeps_highways_under_streets :
    ∃ (settings : NetworkSettings) (network other : Network),
      settings.streets.start = "F+(180)F".toList ∧
      generate settings .dryCell = .ok network ∧
      generate (settings.withStreets ⟨"F".toList, .empty, 0⟩ 2 { roadClass := .road } 0.0)
        .dryCell = .ok other ∧
      network.streetSegments.length = 2 ∧ other.highwaySegments = network.highwaySegments := by
  let settings : NetworkSettings :=
    { highway := ⟨"F[+F]F".toList, .empty, 0⟩, streets := ⟨"F+(180)F".toList, .empty, 0⟩ }
  have drawn : (generate settings .dryCell).toOption.map
      (fun network => network.streetSegments.length) = some 2 := by
    decide +kernel
  have otherDrawn : (generate (settings.withStreets ⟨"F".toList, .empty, 0⟩ 2
      { roadClass := .road } 0.0) .dryCell).toOption.isSome := by
    decide +kernel
  obtain ⟨network, done, streets⟩ := Option.map_eq_some_iff.mp drawn
  obtain ⟨other, otherDone⟩ := Option.isSome_iff_exists.mp otherDrawn
  rw [toOption_eq_some] at done otherDone
  obtain ⟨_, -, -, -, -, alike⟩ := generate_keeps_highways done
  exact ⟨settings, network, other, rfl, done, otherDone, streets, (alike _ _ _ _ other otherDone).1⟩

end Network

end RoadGrowth
