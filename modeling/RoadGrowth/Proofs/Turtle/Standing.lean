import RoadGrowth.Proofs.Graph.Links
import RoadGrowth.Proofs.Turtle.Steps

/-!
# Turtles stand on nodes

A turtle stands on a graph when its node exists and lies where the turtle is. A
drawing is in step when this holds of its turtle and of every saved one. Every act
of a rule keeps a drawing in step: nodes never move, the end of a new segment is a
node, and a turtle that is gone back to was saved in step. So a run never starts a
segment from a node that does not exist.
-/

namespace RoadGrowth

/-- A turtle's node exists and lies where the turtle is. -/
def Turtle.StandsOn (turtle : Turtle) (graph : Graph) : Prop :=
  ∃ node, graph.nodes[turtle.node]? = some node ∧ node.position = turtle.position

/-- The candidate of a turtle that goes forward. It starts where the turtle is. -/
def Turtle.candidate (turtle : Turtle) (length : Float32) : Candidate :=
  ⟨turtle.node, turtle.position, turtle.ahead length, turtle.direction, turtle.roadClass⟩

/-- The turtle and every saved turtle stand on the graph. -/
structure Drawing.InStep (drawing : Drawing) : Prop where
  active : drawing.turtle.StandsOn drawing.graph
  saved : ∀ turtle ∈ drawing.saved, turtle.StandsOn drawing.graph

namespace Turtle

variable {turtle : Turtle} {graph next : Graph}

theorem StandsOn.grown (stands : turtle.StandsOn graph) (grown : graph.Grown next) :
    turtle.StandsOn next := by
  refine grown.invariant (fun graph => turtle.StandsOn graph) stands fun _ grew holds => ?_
  obtain ⟨node, known, same⟩ := holds
  obtain ⟨kept, keptKnown, unmoved⟩ := grew.position_kept known
  exact ⟨kept, keptKnown, unmoved.trans same⟩

/-- A candidate from the node of a turtle starts where the turtle is. -/
theorem StandsOn.candidate_eq (stands : turtle.StandsOn graph) (target : Point)
    (rotation : Float32) (roadClass : RoadClass) :
    graph.candidate turtle.node target rotation roadClass =
      .ok ⟨turtle.node, turtle.position, target, rotation, roadClass⟩ := by
  obtain ⟨node, known, same⟩ := stands
  unfold Graph.candidate
  rw [known, ← same]

/-- A turtle that stands on the graph goes forward by growing its candidate. -/
theorem StandsOn.exists_forward {drawing : Drawing}
    (stands : drawing.turtle.StandsOn drawing.graph) (length : Float32) :
    ∃ graph growth, drawing.graph.Grew (drawing.turtle.candidate length) graph growth ∧
      drawing.forward length = .ok (drawing.advanced graph growth) := by
  obtain ⟨node, known, same⟩ := stands
  rw [candidate, ← same]
  exact Drawing.exists_forward length known

end Turtle

namespace Drawing

variable {drawing next : Drawing} {kind : RuleKind}

/-- An act of a rule keeps a drawing in step. -/
theorem InStep.acted (inStep : drawing.InStep) (consistent : drawing.graph.Consistent)
    (acted : drawing.Acted kind next) : next.InStep := by
  have savedStand : ∀ turtle ∈ drawing.saved, turtle.StandsOn next.graph :=
    fun turtle member => (inStep.saved turtle member).grown acted.grown
  cases acted with
  | adjusted => exact ⟨inStep.active, inStep.saved⟩
  | walked done =>
    obtain ⟨_, _, grew⟩ := Graph.grew_of_grow done
    exact ⟨consistent.growth_end grew, savedStand⟩
  | blocked => exact ⟨inStep.active, inStep.saved⟩
  | opened land =>
    exact ⟨inStep.active, forall_saved_openBranch inStep.active inStep.saved land⟩
  | closed =>
    obtain ⟨active, saved⟩ := forall_turtles_closeBranch inStep.active inStep.saved
    rw [← graph_closeBranch] at active saved
    exact ⟨active, saved⟩

end Drawing

/-- A run keeps a graph consistent and turtles in step with it. -/
theorem Run.inStep_of_takeAll {rules : SymbolTable Rule} {number : UInt32} {offset : Nat}
    {tokens : List Token} {run next : Run} (consistent : run.drawing.graph.Consistent)
    (inStep : run.drawing.InStep) (done : takeAll rules number offset tokens run = .ok next) :
    next.drawing.graph.Consistent ∧ next.drawing.InStep := by
  refine takeAll_invariant (fun drawing => drawing.graph.Consistent ∧ drawing.InStep)
    (fun acted holds => ⟨?_, holds.2.acted holds.1 acted⟩) ⟨consistent, inStep⟩ done
  exact acted.grown.invariant (fun graph => graph.Consistent) holds.1
    fun starts grew kept => kept.grew starts grew

/-- A run keeps turtles in step with the graph after every token. Wherever it goes forward from
there, what it draws is the growth of a candidate that starts where the turtle is, and a candidate
from the node of the turtle never starts elsewhere. So a run never lacks the start of a segment. -/
theorem run_stays_inStep {graph : Graph} {turtle : Turtle} (reachable : graph.Reachable)
    (stands : turtle.StandsOn graph) (interpreter : Interpreter) (script : Script) :
    (∀ before after, Token.scan script = before ++ after →
      ∀ run, Run.takeAll interpreter.rules interpreter.runs 0 before
          ⟨⟨turtle, [], graph⟩, {}⟩ = .ok run →
        run.drawing.InStep ∧
        (∀ target rotation roadClass,
          run.drawing.graph.candidate run.drawing.turtle.node target rotation roadClass =
            .ok ⟨run.drawing.turtle.node, run.drawing.turtle.position, target, rotation,
              roadClass⟩) ∧
        ∀ length, ∃ grown growth,
          run.drawing.graph.Grew (run.drawing.turtle.candidate length) grown growth ∧
            run.drawing.forward length = .ok (run.drawing.advanced grown growth)) ∧
    (∀ fault, interpreter.run script turtle graph = .error fault → fault = .unboundedRange) ∧
    ∀ after summary final, interpreter.run script turtle graph = .ok (after, summary, final) →
      summary.turtle.StandsOn final := by
  have along : ∀ tokens run, Run.takeAll interpreter.rules interpreter.runs 0 tokens
      ⟨⟨turtle, [], graph⟩, {}⟩ = .ok run → run.drawing.InStep := by
    intro tokens run done
    refine (Run.takeAll_invariant (fun drawing => drawing.graph.Reachable ∧ drawing.InStep)
      (fun acted holds => ⟨holds.1.later acted.grown, holds.2.acted holds.1.consistent acted⟩)
      ⟨reachable, stands, ?_⟩ done).2
    simp
  refine ⟨fun before after _ run done => ?_, fun fault failed => ?_,
    fun after summary final done => ?_⟩
  · have inStep := along before run done
    exact ⟨inStep, inStep.active.candidate_eq, inStep.active.exists_forward⟩
  · obtain ⟨before, token, after, reached, _, reaches, site, stops⟩ :=
      Run.fault_of_takeAll (Interpreter.takeAll_of_failed_run failed)
    obtain ⟨node, known, _⟩ := (along before reached reaches).active
    rcases Run.fault_of_take stops with unbounded | missing
    · exact unbounded
    · rw [known] at missing
      cases missing
  · obtain ⟨finished, done, turtleEq, graphEq⟩ := Interpreter.takeAll_of_run done
    rw [← turtleEq, ← graphEq]
    exact (along _ finished done).active

/-- An unmatched closing, a branch within the script and one that is never closed. -/
theorem run_stays_inStep_unbalanced :
    ∃ after summary final,
      (Interpreter.standard 1 none).run "]F[+F]F[".toList
        (TurtleSettings.spawn {} Point.origin 0) ((Graph.empty {}).addNode Point.origin) =
          .ok (after, summary, final) ∧
      summary.segmentsAdded = 3 ∧ summary.turtle.StandsOn final := by
  have drawn : ((Interpreter.standard 1 none).run "]F[+F]F[".toList
      (TurtleSettings.spawn {} Point.origin 0)
      ((Graph.empty {}).addNode Point.origin)).toOption.map
        (fun outcome => outcome.2.1.segmentsAdded) = some 3 := by
    decide +kernel
  have stands : (TurtleSettings.spawn {} Point.origin 0).StandsOn
      ((Graph.empty {}).addNode Point.origin) := ⟨_, rfl, rfl⟩
  obtain ⟨-, -, finished⟩ := run_stays_inStep
    (.added (.empty {} Graph.usualSnapDistance) Point.origin) stands
    (Interpreter.standard 1 none) "]F[+F]F[".toList
  obtain ⟨⟨after, summary, final⟩, ran, added⟩ := Option.map_eq_some_iff.mp drawn
  rw [toOption_eq_some] at ran
  exact ⟨after, summary, final, ran, added, finished after summary final ran⟩

end RoadGrowth
