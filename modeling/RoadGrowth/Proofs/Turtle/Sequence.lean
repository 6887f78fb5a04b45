import RoadGrowth.Placement.Bounds
import RoadGrowth.Proofs.Graph.Extension
import RoadGrowth.Proofs.Turtle.Standing
import RoadGrowth.Proofs.Turtle.Tokens

/-!
# Scripts in sequence

Only the rules that turn at random look at the site that they are applied at, and no rule
looks at what was counted before. So a script without such rules may be cut where all its
branches are closed: the second part, run on its own from the turtle and the graph that
the first part leaves, does and counts what it does and counts in the whole script.
-/

namespace RoadGrowth

/-- Whether a rule turns at random. -/
def Rule.isJitter : Rule → Bool
  | .jitter .. => true
  | _ => false

/-- No token is bound to a rule that turns at random. -/
def Token.Steady (rules : SymbolTable Rule) (tokens : List Token) : Prop :=
  ∀ token ∈ tokens, ∀ rule ∈ rules.get? token.symbol, rule.isJitter = false

instance (rules : SymbolTable Rule) (tokens : List Token) :
    Decidable (Token.Steady rules tokens) :=
  inferInstanceAs
    (Decidable (∀ token ∈ tokens, ∀ rule ∈ rules.get? token.symbol, rule.isJitter = false))

/-- What two runs count together. -/
def Counters.followedBy (first second : Counters) : Counters where
  applied := first.applied + second.applied
  skipped := first.skipped + second.skipped
  started := first.started + second.started
  closed := first.closed + second.closed
  unmatched := first.unmatched + second.unmatched
  deepest := max first.deepest second.deepest
  deadEnds := first.deadEnds + second.deadEnds

/-- What is left of two runs, the second of which goes on with the turtle of the first. -/
def RunSummary.followedBy (first second : RunSummary) : RunSummary where
  turtle := second.turtle
  counters := first.counters.followedBy second.counters
  openBranches := first.openBranches + second.openBranches
  segmentsAdded := first.segmentsAdded + second.segmentsAdded

/-! ## Counts from before -/

namespace Counters

@[simp] theorem followedBy_start (counters : Counters) : counters.followedBy {} = counters := by
  simp [followedBy]

theorem followedBy_applying (first second : Counters) (kind : RuleKind) (before after : Nat)
    (ends : Bool) : first.followedBy (second.applying kind before after ends) =
      (first.followedBy second).applying kind before after ends := by
  cases kind with
  | geometry => simp [followedBy, applying, Nat.add_assoc]
  | branchStart => simp [followedBy, applying, Nat.add_assoc, Nat.max_assoc]
  | branchEnd =>
    simp only [followedBy, applying]
    split <;> simp [Nat.add_assoc]

end Counters

theorem Rule.apply_site_eq {rule : Rule} (steady : rule.isJitter = false) (site other : UInt64)
    (given : Option Float32) (drawing : Drawing) :
    rule.apply site given drawing = rule.apply other given drawing := by
  cases rule with
  | jitter => cases steady
  | _ => rfl

namespace Run

/-- The same run with counts from before. -/
def following (run : Run) (counters : Counters) : Run :=
  ⟨run.drawing, counters.followedBy run.counters⟩

variable {rules : SymbolTable Rule} {run next : Run} {site : UInt64} {token : Token}
  {number : UInt32} {offset : Nat} {tokens : List Token}

/-- A token does the same at another site, with other counts from before. -/
theorem Took.following (took : Took rules run site token next)
    (steady : ∀ rule ∈ rules.get? token.symbol, rule.isJitter = false)
    (counters : Counters) (other : UInt64) :
    Took rules (run.following counters) other token (next.following counters) := by
  cases took with
  | passed unbound => exact .passed unbound
  | skipped bound ended geometry => exact .skipped bound ended geometry
  | applied bound heeded done =>
    rw [Rule.apply_site_eq (steady _ bound) site other] at done
    simp only [following, Counters.followedBy_applying]
    exact .applied bound heeded done

/-- Tokens do the same elsewhere in a script, in a run of another number. -/
theorem takeAll_following (steady : Token.Steady rules tokens) (counters : Counters)
    (other : UInt32) (place : Nat) (done : takeAll rules number offset tokens run = .ok next) :
    takeAll rules other place tokens (run.following counters) = .ok (next.following counters) := by
  induction tokens generalizing run offset place with
  | nil =>
    cases done
    rfl
  | cons token rest ih =>
    obtain ⟨middle, taken, done⟩ := takeAll_cons.mp done
    have first := steady token List.mem_cons_self
    have others : Token.Steady rules rest :=
      fun token member => steady token (List.mem_cons_of_mem _ member)
    exact takeAll_cons.mpr ⟨middle.following counters,
      take_eq_ok.mpr ((take_eq_ok.mp taken).following first counters _), ih others _ done⟩

/-- Without rules that turn at random, turtles on the nodes of a graph take any tokens. -/
theorem exists_takeAll (run : Run) (consistent : run.drawing.graph.Consistent)
    (inStep : run.drawing.InStep) (steady : Token.Steady rules tokens) (number : UInt32)
    (offset : Nat) :
    ∃ next, takeAll rules number offset tokens run = .ok next := by
  cases taken : takeAll rules number offset tokens run with
  | ok next => exact ⟨next, rfl⟩
  | error fault =>
    obtain ⟨before, token, after, reached, rfl, reaches, site, stops⟩ := fault_of_takeAll taken
    have stopped := (inStep_of_takeAll consistent inStep reaches).2
    rcases jitter_of_failed_take stops with ⟨seed, limit, bound, -⟩ | missing
    · have never := steady token (by simp) _ bound
      cases never
    · obtain ⟨node, known, -⟩ := stopped.active
      rw [known] at missing
      cases missing

/-- What is left of a run that went on from where all branches of another one were closed. -/
theorem summary_following {graph : Graph} (noneSaved : run.drawing.saved = [])
    (before : graph.segments.size ≤ run.drawing.graph.segments.size)
    (after : run.drawing.graph.segments.size ≤ next.drawing.graph.segments.size) :
    (next.following run.counters).summary graph =
      (run.summary graph).followedBy (next.summary run.drawing.graph) := by
  simp only [summary, following, RunSummary.followedBy, noneSaved, List.length_nil, Nat.zero_add,
    RunSummary.mk.injEq, true_and]
  omega

end Run

/-- A script without rules that turn at random, cut outside literals where all branches are closed:
a turtle on a node of the graph runs both parts, one after the other, and then the whole script
ends with the same graph and the same turtle. It counts what both parts count together, and its
branches are as deep as those of the deeper one. -/
theorem Interpreter.run_append {interpreter : Interpreter} {first second : Script}
    {turtle : Turtle} {graph : Graph} (consistent : graph.Consistent)
    (stands : turtle.StandsOn graph)
    (firstSteady : Token.Steady interpreter.rules (Token.scan first))
    (secondSteady : Token.Steady interpreter.rules (Token.scan second))
    (closed : ∀ token ∈ Token.scan first, token.literal.isUnclosed = false)
    (separate : second.head? ≠ some '(') :
    ∃ middle earlier between,
      interpreter.run first turtle graph = .ok (middle, earlier, between) ∧
      (earlier.openBranches = 0 →
        ∃ last later final, middle.run second earlier.turtle between = .ok (last, later, final) ∧
          ∃ whole, interpreter.run (first ++ second) turtle graph =
            .ok (whole, earlier.followedBy later, final)) := by
  let start : Run := ⟨⟨turtle, [], graph⟩, {}⟩
  have inStep : start.drawing.InStep := ⟨stands, by simp [start]⟩
  obtain ⟨reached, taken⟩ := start.exists_takeAll consistent inStep firstSteady interpreter.runs 0
  refine ⟨_, _, _, run_eq_ok.mpr ⟨reached, taken, rfl, rfl, rfl⟩, fun noneOpen => ?_⟩
  have noneSaved : reached.drawing.saved = [] := List.eq_nil_of_length_eq_zero noneOpen
  obtain ⟨betweenConsistent, betweenInStep⟩ := Run.inStep_of_takeAll consistent inStep taken
  obtain ⟨finished, done⟩ := Run.exists_takeAll ⟨reached.drawing, {}⟩ betweenConsistent
    betweenInStep secondSteady (interpreter.runs + 1) 0
  -- In the whole script the second part starts with counts from before, and later.
  have continued := Run.takeAll_following secondSteady reached.counters interpreter.runs
    (0 + ((Token.scan first).flatMap Token.written).length) done
  rw [Run.following, Counters.followedBy_start] at continued
  have whole := Run.takeAll_append.mpr ⟨_, taken, continued⟩
  rw [← Token.scan_append closed separate] at whole
  have summed := Run.summary_following noneSaved (Run.takeAll_grown taken).extends.size_le
    (Run.takeAll_grown done).extends.size_le
  refine ⟨_, _, _, run_eq_ok.mpr ⟨finished, ?_, rfl, rfl, rfl⟩, _,
    run_eq_ok.mpr ⟨_, whole, rfl, summed.symm, rfl⟩⟩
  rw [← noneSaved]
  exact done

/-- A branch that is closed and one closing too many, then a turn with a number, a segment that
leaves the map and a branch that is never closed: counted apart and together. -/
theorem Interpreter.run_append_unbalanced :
    ∃ middle earlier between last later final whole,
      (Interpreter.standard 1 none).run "F[+F]]".toList (TurtleSettings.spawn {} Point.origin 0)
        ((Graph.empty ⟨[.bounds Terrain.mapBounds], false⟩).addNode Point.origin) =
          .ok (middle, earlier, between) ∧
      middle.run "-(30)F(9)[[F".toList earlier.turtle between = .ok (last, later, final) ∧
      (Interpreter.standard 1 none).run "F[+F]]-(30)F(9)[[F".toList
        (TurtleSettings.spawn {} Point.origin 0)
        ((Graph.empty ⟨[.bounds Terrain.mapBounds], false⟩).addNode Point.origin) =
          .ok (whole, earlier.followedBy later, final) ∧
      earlier.counters = ⟨6, 0, 1, 1, 1, 1, 0⟩ ∧
      (earlier.followedBy later).counters = ⟨10, 1, 3, 1, 1, 2, 1⟩ := by
  let interpreter := Interpreter.standard 1 none
  let turtle := TurtleSettings.spawn {} Point.origin 0
  let graph := (Graph.empty ⟨[.bounds Terrain.mapBounds], false⟩).addNode Point.origin
  have consistent : graph.Consistent :=
    (Graph.Reachable.added (.empty _ Graph.usualSnapDistance) Point.origin).consistent
  have stands : turtle.StandsOn graph := ⟨_, rfl, rfl⟩
  have firstSteady : Token.Steady interpreter.rules (Token.scan "F[+F]]".toList) := by decide
  have secondSteady : Token.Steady interpreter.rules (Token.scan "-(30)F(9)[[F".toList) := by
    decide
  obtain ⟨middle, earlier, between, first, continued⟩ :=
    run_append consistent stands firstSteady secondSteady (by decide) (by decide)
  have firstCounts : (interpreter.run "F[+F]]".toList turtle graph).toOption.map
      (fun outcome => (outcome.2.1.openBranches, outcome.2.1.counters)) =
        some (0, ⟨6, 0, 1, 1, 1, 1, 0⟩) := by
    decide +kernel
  have wholeCounts : (interpreter.run "F[+F]]-(30)F(9)[[F".toList turtle graph).toOption.map
      (fun outcome => outcome.2.1.counters) = some ⟨10, 1, 3, 1, 1, 2, 1⟩ := by
    decide +kernel
  rw [first] at firstCounts
  obtain ⟨noneOpen, counted⟩ := Prod.mk.inj (Option.some.inj firstCounts)
  obtain ⟨last, later, final, second, whole, together⟩ := continued noneOpen
  have joined : "F[+F]]".toList ++ "-(30)F(9)[[F".toList = "F[+F]]-(30)F(9)[[F".toList := by
    decide
  rw [joined] at together
  rw [together] at wholeCounts
  exact ⟨middle, earlier, between, last, later, final, whole, first, second, together, counted,
    Option.some.inj wholeCounts⟩

end RoadGrowth
