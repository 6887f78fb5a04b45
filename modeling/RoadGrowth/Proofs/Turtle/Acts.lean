import RoadGrowth.Proofs.Graph.Reachable
import RoadGrowth.Proofs.Outcome
import RoadGrowth.Turtle.Rule

/-!
# What a rule can do

`Acted` lists the outcomes of a rule by its kind. A rule for geometry changes what
the turtle carries, or draws a segment and walks along it, or ends the branch. The
other two kinds save a turtle and go back to one. No rule does more to the graph than
grow it.
-/

namespace RoadGrowth

namespace Drawing

/-- What a rule of a kind can make of a drawing. -/
inductive Acted (drawing : Drawing) : RuleKind → Drawing → Prop where
  /-- The turtle looks elsewhere or carries other measures. -/
  | adjusted (direction segmentLength angle : Float32) :
    Acted drawing .geometry
      { drawing with turtle := { drawing.turtle with direction, segmentLength, angle } }
  /-- The turtle walks along a new segment. -/
  | walked {length : Float32} {graph : Graph} {growth : Growth}
    (done : drawing.graph.grow drawing.turtle.node (drawing.turtle.ahead length)
      drawing.turtle.direction drawing.turtle.roadClass = .ok (graph, some growth)) :
    Acted drawing .geometry
      { drawing with
        turtle := { drawing.turtle with
          position := growth.position
          direction := growth.segment.rotation
          node := growth.segment.finish }
        graph }
  /-- A rejected segment ends the branch. -/
  | blocked {length : Float32}
    (done : drawing.graph.grow drawing.turtle.node (drawing.turtle.ahead length)
      drawing.turtle.direction drawing.turtle.roadClass = .ok (drawing.graph, none)) :
    Acted drawing .geometry { drawing with turtle := { drawing.turtle with ended := true } }
  | opened (land : Option Terrain) : Acted drawing .branchStart (drawing.openBranch land)
  | closed : Acted drawing .branchEnd drawing.closeBranch

theorem graph_closeBranch (drawing : Drawing) : drawing.closeBranch.graph = drawing.graph := by
  unfold closeBranch
  split <;> rfl

variable {drawing next : Drawing} {kind : RuleKind}

section Copies

variable {property : Turtle → Prop} (active : property drawing.turtle)
  (saved : ∀ turtle ∈ drawing.saved, property turtle)

include active saved

/-- Opening a branch saves a copy of the turtle. -/
theorem forall_saved_openBranch (land : Option Terrain) :
    ∀ turtle ∈ (drawing.openBranch land).saved, property turtle := by
  intro turtle member
  rcases List.mem_cons.mp member with rfl | older
  · exact active
  · exact saved turtle older

/-- Closing a branch goes on with a saved turtle. -/
theorem forall_turtles_closeBranch : property drawing.closeBranch.turtle ∧
    ∀ turtle ∈ drawing.closeBranch.saved, property turtle := by
  unfold closeBranch
  split
  · exact ⟨active, saved⟩
  · rename_i turtle rest savedEq
    rw [savedEq] at saved
    exact ⟨saved turtle List.mem_cons_self,
      fun other member => saved other (List.mem_cons_of_mem _ member)⟩

end Copies

/-- A turtle that goes forward walks along a new segment, or its branch ends. -/
theorem forward_cases {length : Float32} (done : drawing.forward length = .ok next) :
    (∃ graph growth, drawing.graph.grow drawing.turtle.node (drawing.turtle.ahead length)
        drawing.turtle.direction drawing.turtle.roadClass = .ok (graph, some growth) ∧
      next = { drawing with
        turtle := { drawing.turtle with
          position := growth.position
          direction := growth.segment.rotation
          node := growth.segment.finish }
        graph }) ∨
    drawing.graph.grow drawing.turtle.node (drawing.turtle.ahead length)
        drawing.turtle.direction drawing.turtle.roadClass = .ok (drawing.graph, none) ∧
      next = { drawing with turtle := { drawing.turtle with ended := true } } := by
  obtain ⟨turtle, saved, graph⟩ := drawing
  simp only [forward] at done
  obtain ⟨⟨after, growth⟩, grown, walk⟩ := bind_eq_ok.mp done
  cases growth with
  | some growth =>
    cases walk
    exact .inl ⟨after, growth, grown, rfl⟩
  | none =>
    cases walk
    obtain ⟨node, known, grew⟩ := Graph.grew_of_grow grown
    cases grew with
    | rejected => exact .inr ⟨grown, rfl⟩

theorem acted_of_forward {length : Float32} (done : drawing.forward length = .ok next) :
    Acted drawing .geometry next := by
  rcases forward_cases done with ⟨graph, growth, grown, rfl⟩ | ⟨rejected, rfl⟩
  · exact .walked grown
  · exact .blocked rejected

/-- A drawing with a graph that its turtle may have grown a segment of: the turtle walks along it,
and its branch ends where none is grown. -/
def advanced (drawing : Drawing) (graph : Graph) (growth : Option Growth) : Drawing :=
  { drawing with
    turtle := growth.elim { drawing.turtle with ended := true } fun growth =>
      { drawing.turtle with
        position := growth.position
        direction := growth.segment.rotation
        node := growth.segment.finish }
    graph }

/-- A turtle whose node is known goes forward by growing a segment from there. -/
theorem exists_forward {node : Node} (length : Float32)
    (known : drawing.graph.nodes[drawing.turtle.node]? = some node) :
    ∃ graph growth, drawing.graph.Grew ⟨drawing.turtle.node, node.position,
        drawing.turtle.ahead length, drawing.turtle.direction, drawing.turtle.roadClass⟩
        graph growth ∧
      drawing.forward length = .ok (drawing.advanced graph growth) := by
  obtain ⟨turtle, saved, graph⟩ := drawing
  refine ⟨_, _, Graph.grew_of_plan graph _, ?_⟩
  simp only [forward]
  rw [Graph.grow_of_start known]
  cases graph.plan _ <;> rfl

theorem missing_of_forward {length : Float32} {fault : Fault}
    (failed : drawing.forward length = .error fault) :
    drawing.graph.nodes[drawing.turtle.node]? = none := by
  cases known : drawing.graph.nodes[drawing.turtle.node]? with
  | none => rfl
  | some node =>
    obtain ⟨graph, growth, -, done⟩ := exists_forward length known
    rw [done] at failed
    cases failed

end Drawing

namespace Rule

variable {rule : Rule} {site : UInt64} {given : Option Float32} {drawing next : Drawing}

theorem acted_of_apply (done : rule.apply site given drawing = .ok next) :
    drawing.Acted rule.kind next := by
  cases rule with
  | draw => exact Drawing.acted_of_forward done
  | span => exact Drawing.acted_of_forward done
  | openBranch land =>
    cases done
    exact .opened land
  | closeBranch =>
    cases done
    exact .closed
  | jitter seed limit =>
    obtain ⟨offset, -, turned⟩ := bind_eq_ok.mp done
    cases turned
    exact .adjusted _ drawing.turtle.segmentLength drawing.turtle.angle
  | turnLeft | turnRight | towardPopulation | awayFromPopulation =>
    cases done
    exact .adjusted _ drawing.turtle.segmentLength drawing.turtle.angle
  | scaleLength =>
    cases done
    exact .adjusted drawing.turtle.direction _ drawing.turtle.angle
  | scaleAngle =>
    cases done
    exact .adjusted drawing.turtle.direction drawing.turtle.segmentLength _

theorem fault_of_jitterAt {seed site : UInt64} {limit : Float32} {fault : Fault}
    (failed : jitterAt seed site limit = .error fault) : fault = .unboundedRange := by
  unfold jitterAt Random.symmetric at failed
  split at failed
  · cases failed
  · split at failed
    · cases failed
      rfl
    · dsimp only at failed
      split at failed <;> cases failed
      rfl

/-- A rule fails only as a jitter that has no offset, or where a turtle has no node to start from. -/
theorem jitter_of_failed_apply {fault : Fault}
    (failed : rule.apply site given drawing = .error fault) :
    (∃ seed limit, rule = .jitter seed limit ∧
        jitterAt seed site ((given.map radians).getD limit) = .error fault) ∨
      drawing.graph.nodes[drawing.turtle.node]? = none := by
  cases rule with
  | draw => exact .inr (Drawing.missing_of_forward failed)
  | span => exact .inr (Drawing.missing_of_forward failed)
  | jitter seed limit =>
    rcases bind_eq_error.mp failed with failed | ⟨offset, -, failed⟩
    · exact .inl ⟨seed, limit, rfl, failed⟩
    · cases failed
  | openBranch | closeBranch | turnLeft | turnRight | towardPopulation | awayFromPopulation
  | scaleLength | scaleAngle => cases failed

end Rule

/-- A rule only grows the graph. -/
theorem Drawing.Acted.grown {drawing next : Drawing} {kind : RuleKind}
    (acted : drawing.Acted kind next) : drawing.graph.Grown next.graph := by
  cases acted with
  | walked done => exact Graph.Grown.refl.step done
  | closed =>
    rw [graph_closeBranch]
    exact .refl
  | adjusted | blocked | opened => exact .refl

end RoadGrowth
