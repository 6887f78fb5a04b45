import RoadGrowth.Proofs.Network.Symbols

/-!
# Accounts of a run

Above a turtle that has ended all saved turtles have ended too, so closing a branch never
ends the turtle that it takes back. A branch is therefore found to have ended just where
its turtle ends: where a segment is rejected and where a branch starts in water. With
that, each token of a script is accounted for in what a run counts.
-/

namespace RoadGrowth

/-! ## Ended turtles -/

namespace Drawing

/-- Above a turtle that has ended every turtle has ended; the active one is on top. -/
def EndedUpward (drawing : Drawing) : Prop :=
  (drawing.turtle :: drawing.saved).Pairwise fun upper lower =>
    lower.ended = true → upper.ended = true

variable {drawing next : Drawing} {kind : RuleKind}

theorem EndedUpward.acted (upward : drawing.EndedUpward) (acted : drawing.Acted kind next) :
    next.EndedUpward := by
  obtain ⟨above, saved⟩ := List.pairwise_cons.mp upward
  cases acted with
  | adjusted => exact List.pairwise_cons.mpr ⟨above, saved⟩
  | walked => exact List.pairwise_cons.mpr ⟨above, saved⟩
  | blocked => exact List.pairwise_cons.mpr ⟨fun _ _ _ => rfl, saved⟩
  | opened land =>
    refine List.pairwise_cons.mpr ⟨fun lower member ended => ?_, upward⟩
    have active : drawing.turtle.ended = true := by
      rcases List.mem_cons.mp member with rfl | older
      · exact ended
      · exact above lower older ended
    simp [openBranch, active]
  | closed =>
    unfold closeBranch
    split
    · exact upward
    · rename_i turtle rest savedEq
      rwa [savedEq] at saved

/-- Closing a branch does not end a turtle. -/
theorem EndedUpward.active_closeBranch (upward : drawing.EndedUpward)
    (active : drawing.turtle.ended = false) : drawing.closeBranch.turtle.ended = false := by
  obtain ⟨above, -⟩ := List.pairwise_cons.mp upward
  have saved : ∀ turtle ∈ drawing.saved, turtle.ended = false := by
    intro turtle member
    have implied := above turtle member
    rw [active] at implied
    simpa using implied
  exact (forall_turtles_closeBranch active saved).1

end Drawing

namespace Run

variable {rules : SymbolTable Rule} {number : UInt32} {run next : Run}

theorem endedUpward_of_take {site : UInt64} {token : Token} (upward : run.drawing.EndedUpward)
    (done : take rules run site token = .ok next) : next.drawing.EndedUpward := by
  rcases acted_of_take done with same | ⟨_, _, acted⟩
  · rwa [same]
  · exact upward.acted acted

theorem endedUpward_of_takeAll {offset : Nat} {tokens : List Token}
    (upward : run.drawing.EndedUpward)
    (done : takeAll rules number offset tokens run = .ok next) : next.drawing.EndedUpward :=
  takeAll_invariant (fun drawing => drawing.EndedUpward) (fun acted holds => holds.acted acted)
    upward done

end Run

/-! ## What a rule draws and ends -/

theorem Graph.Grew.size_segments {graph next : Graph} {candidate : Candidate}
    {growth : Option Growth} (grew : Grew graph candidate next growth) :
    next.segments.size = graph.segments.size + if growth.isSome then 1 else 0 := by
  cases grew <;> simp

namespace Rule

variable {rule : Rule} {site : UInt64} {given : Option Float32} {drawing next : Drawing}

/-- A rule that draws adds a segment, or changes nothing but that the turtle has ended. -/
theorem drawn_of_apply (draws : rule.draws = true)
    (done : rule.apply site given drawing = .ok next) :
    next.graph.segments.size = drawing.graph.segments.size + 1 ∧
        next.turtle.ended = drawing.turtle.ended ∨
      next.graph = drawing.graph ∧ next.turtle.ended = true := by
  obtain ⟨length, forward⟩ : ∃ length, drawing.forward length = .ok next := by
    cases rule with
    | draw => exact ⟨_, done⟩
    | span => exact ⟨_, done⟩
    | _ => cases draws
  rcases Drawing.forward_cases forward with ⟨graph, growth, grown, rfl⟩ | ⟨-, rfl⟩
  · obtain ⟨node, -, grew⟩ := Graph.grew_of_grow grown
    exact .inl ⟨grew.size_segments, rfl⟩
  · exact .inr ⟨rfl, rfl⟩

/-- Any other rule for geometry leaves the graph alone and ends no branch. -/
theorem adjusted_of_apply (geometry : rule.kind = .geometry) (draws : rule.draws = false)
    (done : rule.apply site given drawing = .ok next) :
    next.graph = drawing.graph ∧ next.turtle.ended = drawing.turtle.ended := by
  cases rule with
  | draw | span => cases draws
  | openBranch | closeBranch => cases geometry
  | jitter seed limit =>
    obtain ⟨offset, -, turned⟩ := bind_eq_ok.mp done
    cases turned
    exact ⟨rfl, rfl⟩
  | turnLeft | turnRight | scaleLength | scaleAngle | towardPopulation | awayFromPopulation =>
    cases done
    exact ⟨rfl, rfl⟩

end Rule

/-! ## Steps -/

/-- A token that is taken, with the run before and after it. -/
structure Step where
  before : Run
  token : Token
  after : Run

namespace Step

/-- Whether a turtle that has not ended takes a token that draws. -/
def draws (rules : SymbolTable Rule) (step : Step) : Bool :=
  !step.before.drawing.turtle.ended && rules.contains step.token.symbol &&
    (step.token.symbol == 'F' || step.token.symbol == 'S')

/-- Whether a token draws and no segment is added. -/
def rejected (rules : SymbolTable Rule) (step : Step) : Bool :=
  step.draws rules &&
    step.after.drawing.graph.segments.size == step.before.drawing.graph.segments.size

/-- Whether a turtle that has not ended opens a branch in water, if that is checked. -/
def startsInWater (rules : SymbolTable Rule) (step : Step) : Bool :=
  !step.before.drawing.turtle.ended && step.token.symbol == '[' &&
    match rules.get? '[' with
    | some (.openBranch (some terrain)) =>
      !terrain.isLand step.before.drawing.turtle.position
    | _ => false

end Step

/-- The steps of a run over tokens, up to a token that fails. -/
def Run.steps (rules : SymbolTable Rule) (number : UInt32) :
    (offset : Nat) → List Token → Run → List Step
  | _, [], _ => []
  | offset, token :: rest, run =>
    match take rules run (siteOf number offset) token with
    | .ok next => ⟨run, token, next⟩ :: steps rules number (offset + token.written.length) rest next
    | .error _ => []

/-- The steps of replaying a script with a turtle on a graph. -/
def Interpreter.steps (interpreter : Interpreter) (script : Script) (turtle : Turtle)
    (graph : Graph) : List Step :=
  Run.steps interpreter.rules interpreter.runs 0 (Token.scan script) ⟨⟨turtle, [], graph⟩, {}⟩

/-! ## Accounts -/

/-- What the steps of a run add to its graph and to the branches it found to have ended. -/
structure Accounts (rules : SymbolTable Rule) (before : Run) (steps : List Step) (after : Run) :
    Prop where
  segments : after.drawing.graph.segments.size + steps.countP (Step.rejected rules) =
    before.drawing.graph.segments.size + steps.countP (Step.draws rules)
  deadEnds : after.counters.deadEnds = before.counters.deadEnds +
    steps.countP (Step.rejected rules) + steps.countP (Step.startsInWater rules)

variable {rules : SymbolTable Rule} {number : UInt32} {run middle next : Run} {site : UInt64}
  {token : Token} {steps more : List Step}

theorem accounts_nil (run : Run) : Accounts rules run [] run where
  segments := rfl
  deadEnds := rfl

theorem Accounts.append (first : Accounts rules run steps middle)
    (second : Accounts rules middle more next) : Accounts rules run (steps ++ more) next where
  segments := by
    have before := first.segments
    have after := second.segments
    simp only [List.countP_append]
    omega
  deadEnds := by
    have before := first.deadEnds
    have after := second.deadEnds
    simp only [List.countP_append]
    omega

/-- A step that neither draws nor starts in water changes none of the accounts. -/
theorem accounts_idle (noDrawing : (Step.mk run token next).draws rules = false)
    (onLand : (Step.mk run token next).startsInWater rules = false)
    (sameGraph : next.drawing.graph = run.drawing.graph)
    (sameEnds : next.counters.deadEnds = run.counters.deadEnds) :
    Accounts rules run [⟨run, token, next⟩] next where
  segments := by
    rw [sameGraph]
    simp [noDrawing, Step.rejected]
  deadEnds := by
    rw [sameEnds]
    simp [noDrawing, onLand, Step.rejected]

namespace Step

theorem startsInWater_of_other {step : Step} (noOpening : step.token.symbol ≠ '[') :
    step.startsInWater rules = false := by
  simp [startsInWater, noOpening]

theorem startsInWater_of_opening {step : Step} {land : Option Terrain}
    (opening : step.token.symbol = '[') (bound : rules.get? '[' = some (.openBranch land)) :
    step.startsInWater rules = (!step.before.drawing.turtle.ended &&
      land.any fun terrain => !terrain.isLand step.before.drawing.turtle.position) := by
  cases land with
  | none => simp [startsInWater, opening, bound]
  | some terrain => simp [startsInWater, opening, bound]

/-- A turtle that has not ended takes a rule that draws where the symbol draws. -/
theorem draws_of_bound {step : Step} {rule : Rule} (drawing : DrawingSymbols rules)
    (bound : rules.get? step.token.symbol = some rule)
    (active : step.before.drawing.turtle.ended = false) : step.draws rules = rule.draws := by
  have known : rules.contains step.token.symbol = true := by
    rw [SymbolTable.contains, bound]
    rfl
  rw [Bool.eq_iff_iff, drawing _ _ bound]
  simp [draws, known, active]

end Step

/-- A rule for geometry adds a segment, finds the branch to have ended, or does neither. -/
theorem accounts_of_geometry (drawing : DrawingSymbols rules) {rule : Rule}
    (bound : rules.get? token.symbol = some rule) (geometry : rule.kind = .geometry)
    (noOpening : token.symbol ≠ '[') (active : run.drawing.turtle.ended = false)
    (applied : rule.apply site token.literal.value? run.drawing = .ok next.drawing)
    (counted : next.counters.deadEnds =
      run.counters.deadEnds + if next.drawing.turtle.ended then 1 else 0) :
    Accounts rules run [⟨run, token, next⟩] next := by
  have onLand : (Step.mk run token next).startsInWater rules = false :=
    Step.startsInWater_of_other noOpening
  have drawn : (Step.mk run token next).draws rules = rule.draws :=
    Step.draws_of_bound drawing bound active
  cases draws : rule.draws with
  | false =>
    obtain ⟨sameGraph, sameEnded⟩ := Rule.adjusted_of_apply geometry draws applied
    refine accounts_idle (drawn.trans draws) onLand sameGraph ?_
    simp [counted, sameEnded, active]
  | true =>
    rw [draws] at drawn
    rcases Rule.drawn_of_apply draws applied with ⟨grew, sameEnded⟩ | ⟨sameGraph, ended⟩
    · have kept : (Step.mk run token next).rejected rules = false := by
        simp [Step.rejected, grew]
      constructor
      · simp [kept, drawn, grew]
      · simp [kept, onLand, counted, sameEnded, active]
    · have rejected : (Step.mk run token next).rejected rules = true := by
        simp [Step.rejected, drawn, sameGraph]
      constructor
      · simp [rejected, drawn, sameGraph]
      · simp [rejected, onLand, counted, ended]

/-- An opening bracket ends a branch exactly when it starts in water. -/
theorem accounts_of_opening {land : Option Terrain}
    (bound : rules.get? '[' = some (.openBranch land)) (opening : token.symbol = '[')
    (opened : next.drawing = run.drawing.openBranch land)
    (counted : next.counters.deadEnds = run.counters.deadEnds +
      if !run.drawing.turtle.ended && next.drawing.turtle.ended then 1 else 0) :
    Accounts rules run [⟨run, token, next⟩] next := by
  have noDrawing : (Step.mk run token next).draws rules = false := by
    simp [Step.draws, opening]
  have inWater : (Step.mk run token next).startsInWater rules =
      (!run.drawing.turtle.ended && next.drawing.turtle.ended) := by
    rw [Step.startsInWater_of_opening opening bound, opened, Drawing.openBranch]
    cases run.drawing.turtle.ended <;> rfl
  constructor
  · simp [Step.rejected, noDrawing, opened, Drawing.openBranch]
  · simp [Step.rejected, noDrawing, inWater, counted]

theorem accounts_of_take (usual : UsualRules rules) (upward : run.drawing.EndedUpward)
    (done : Run.take rules run site token = .ok next) :
    Accounts rules run [⟨run, token, next⟩] next := by
  obtain ⟨land, openingBound⟩ := usual.brackets.opening
  by_cases opening : token.symbol = '['
  · obtain ⟨drawing, opened, rfl⟩ :=
      Run.counted_of_take (opening ▸ openingBound) (by simp [Rule.kind]) done
    cases opened
    exact accounts_of_opening openingBound opening rfl (by simp)
  · have onLand : (Step.mk run token next).startsInWater rules = false :=
      Step.startsInWater_of_other opening
    cases Run.take_eq_ok.mp done with
    | passed unbound =>
      refine accounts_idle ?_ onLand rfl rfl
      simp [Step.draws, SymbolTable.contains, unbound]
    | skipped bound ended geometry =>
      refine accounts_idle ?_ onLand rfl rfl
      simp [Step.draws, ended]
    | @applied rule drawing bound heeded applied =>
      by_cases closing : token.symbol = ']'
      · rw [closing, usual.brackets.closing] at bound
        cases bound
        cases applied
        refine accounts_idle ?_ onLand run.drawing.graph_closeBranch ?_
        · simp [Step.draws, closing]
        · have kept := upward.active_closeBranch
          cases ended : run.drawing.turtle.ended with
          | false => simp [kept ended]
          | true => simp
      · have geometry := usual.brackets.others _ rule opening closing bound
        have active : run.drawing.turtle.ended = false := by
          simpa [geometry] using heeded
        exact accounts_of_geometry usual.drawing bound geometry opening active applied
          (by simp [active])

/-- By induction on the tokens: above an ended turtle all turtles have ended throughout. -/
theorem accounts_of_takeAll (usual : UsualRules rules) {run : Run} {tokens : List Token}
    {offset : Nat} (upward : run.drawing.EndedUpward)
    (done : Run.takeAll rules number offset tokens run = .ok next) :
    Accounts rules run (Run.steps rules number offset tokens run) next := by
  induction tokens generalizing offset run with
  | nil =>
    cases done
    exact accounts_nil next
  | cons token rest ih =>
    obtain ⟨middle, taken, done⟩ := Run.takeAll_cons.mp done
    rw [Run.steps, taken]
    exact (accounts_of_take usual upward taken).append
      (ih (Run.endedUpward_of_take upward taken) done)

/-- Every token whose symbol has a rule is either applied or skipped. -/
theorem heeded_of_takeAll {run : Run} {tokens : List Token} {offset : Nat}
    (done : Run.takeAll rules number offset tokens run = .ok next) :
    next.counters.applied + next.counters.skipped =
      run.counters.applied + run.counters.skipped +
        tokens.countP fun token => rules.contains token.symbol := by
  induction tokens generalizing offset run with
  | nil =>
    cases done
    rfl
  | cons token rest ih =>
    obtain ⟨middle, taken, done⟩ := Run.takeAll_cons.mp done
    rw [ih done, List.countP_cons]
    cases Run.take_eq_ok.mp taken with
    | passed unbound => simp [SymbolTable.contains, unbound]
    | skipped bound =>
      simp [SymbolTable.contains, bound]
      omega
    | applied bound =>
      simp [SymbolTable.contains, bound]
      omega

/-- In a run under the usual rules or those of a network, every turtle above one that has ended
has ended, so that no closing bracket ends the turtle. Every token with a rule is applied or
skipped, every token that draws adds a segment or ends a branch, and a branch is counted as
ended once for each rejected segment and for each start in water. -/
theorem run_accounts {interpreter after : Interpreter} (usual : UsualRules interpreter.rules)
    {script : Script} {turtle : Turtle} {graph final : Graph} {summary : RunSummary}
    (done : interpreter.run script turtle graph = .ok (after, summary, final)) :
    (∀ before rest, Token.scan script = before ++ rest →
      ∃ run, Run.takeAll interpreter.rules interpreter.runs 0 before
          ⟨⟨turtle, [], graph⟩, {}⟩ = .ok run ∧
        run.drawing.EndedUpward ∧ (run.drawing.turtle.ended = false →
          run.drawing.closeBranch.turtle.ended = false)) ∧
    summary.counters.applied + summary.counters.skipped =
      (Token.scan script).countP (fun token => interpreter.rules.contains token.symbol) ∧
    summary.segmentsAdded + summary.counters.deadEnds =
      (interpreter.steps script turtle graph).countP (Step.draws interpreter.rules) +
        (interpreter.steps script turtle graph).countP (Step.startsInWater interpreter.rules) ∧
    summary.counters.deadEnds =
      (interpreter.steps script turtle graph).countP (Step.rejected interpreter.rules) +
        (interpreter.steps script turtle graph).countP (Step.startsInWater interpreter.rules) := by
  obtain ⟨finished, taken, rfl, rfl, rfl⟩ := Interpreter.run_eq_ok.mp done
  have upward : (⟨turtle, [], graph⟩ : Drawing).EndedUpward := List.pairwise_singleton _ _
  obtain ⟨segments, deadEnds⟩ := accounts_of_takeAll usual upward taken
  have heeded := heeded_of_takeAll taken
  have fewer : (interpreter.steps script turtle graph).countP (Step.rejected interpreter.rules) ≤
      (interpreter.steps script turtle graph).countP (Step.draws interpreter.rules) := by
    apply List.countP_mono_left
    intro step _ rejected
    exact (Bool.and_eq_true_iff.mp rejected).1
  refine ⟨fun before rest split => ?_, ?_, ?_, ?_⟩
  · rw [split] at taken
    obtain ⟨run, reached, -⟩ := Run.takeAll_append.mp taken
    have upwards := Run.endedUpward_of_takeAll upward reached
    exact ⟨run, reached, upwards, upwards.active_closeBranch⟩
  · simpa [Run.summary] using heeded
  · simp only [Run.summary, Interpreter.steps] at fewer ⊢
    dsimp only at segments deadEnds
    omega
  · simpa [Run.summary, Interpreter.steps] using deadEnds

/-- A first segment, a branch that starts in water and is left out, a span, a segment that leaves
the map, and a branch after that; one symbol has no rule. -/
theorem run_accounts_at_sea :
    ∃ (interpreter after : Interpreter) (turtle : Turtle) (graph final : Graph)
      (summary : RunSummary), UsualRules interpreter.rules ∧
      interpreter.run "F[F]SXF(9)[F]".toList turtle graph = .ok (after, summary, final) ∧
      summary.segmentsAdded = 2 ∧ summary.counters.deadEnds = 2 ∧
      summary.counters.applied + summary.counters.skipped = 9 ∧
      summary.segmentsAdded + summary.counters.deadEnds =
        (interpreter.steps "F[F]SXF(9)[F]".toList turtle graph).countP
            (Step.draws interpreter.rules) +
          (interpreter.steps "F[F]SXF(9)[F]".toList turtle graph).countP
            (Step.startsInWater interpreter.rules) := by
  let sea : Terrain := .level ⟨1, 1⟩ .zero (by decide)
  let interpreter := ({} : NetworkSettings).interpreter sea
  let turtle := TurtleSettings.spawn {} Point.origin 0
  let graph := (Graph.empty ⟨[.bounds Terrain.mapBounds], false⟩).addNode Point.origin
  have drawn : (interpreter.run "F[F]SXF(9)[F]".toList turtle graph).toOption.map
      (fun outcome => (outcome.2.1.segmentsAdded, outcome.2.1.counters.deadEnds)) =
        some (2, 2) := by
    decide +kernel
  obtain ⟨⟨after, summary, final⟩, ran, counted⟩ := Option.map_eq_some_iff.mp drawn
  rw [toOption_eq_some] at ran
  obtain ⟨added, ended⟩ := Prod.mk.inj counted
  obtain ⟨-, heeded, accounts, -⟩ := run_accounts (.network {} sea) ran
  exact ⟨interpreter, after, turtle, graph, final, summary, .network {} sea, ran, added, ended,
    heeded.trans (by decide +kernel), accounts⟩

end RoadGrowth
