import RoadGrowth.Proofs.Network.Symbols

/-!
# Branches that have ended

A turtle whose branch has ended takes no rule for geometry, and a branch that it opens
has ended as well. So all that a text can do to it is to save copies of it and to take
them back: nothing is drawn and nothing fails, until a closing bracket takes back a
turtle that was saved before the branch ended.
-/

namespace RoadGrowth

namespace Drawing

/-- The drawing of an ended turtle with copies of it saved above other turtles. -/
def abandoned (turtle : Turtle) (copies : Nat) (frame : List Turtle) (graph : Graph) : Drawing :=
  ⟨turtle, List.replicate copies turtle ++ frame, graph⟩

variable {turtle : Turtle} {copies : Nat} {frame : List Turtle} {graph : Graph}

theorem openBranch_abandoned (ended : turtle.ended = true) (land : Option Terrain) :
    (abandoned turtle copies frame graph).openBranch land =
      abandoned turtle (copies + 1) frame graph := by
  obtain ⟨position, direction, roadClass, segmentLength, lengthScale, angle, angleScale, node, _⟩ :=
    turtle
  cases ended
  simp [openBranch, abandoned, List.replicate_succ]

theorem closeBranch_abandoned :
    (abandoned turtle (copies + 1) frame graph).closeBranch = abandoned turtle copies frame graph :=
  rfl

theorem closeBranch_abandoned_nil :
    (abandoned turtle 0 [] graph).closeBranch = abandoned turtle 0 [] graph :=
  rfl

end Drawing

namespace Run

variable {rules : SymbolTable Rule} {number : UInt32} {run : Run}

/-- An ended turtle takes any token. Only a bracket does something, and no branch ends. -/
theorem take_of_ended (brackets : BracketRules rules) (ended : run.drawing.turtle.ended = true)
    (site : UInt64) (token : Token) :
    ∃ next, take rules run site token = .ok next ∧
      next.counters.deadEnds = run.counters.deadEnds ∧
      (token.symbol ≠ '[' → token.symbol ≠ ']' → next.drawing = run.drawing) := by
  cases bound : rules.get? token.symbol with
  | none => exact ⟨run, take_eq_ok.mpr (.passed bound), rfl, fun _ _ => rfl⟩
  | some rule =>
    by_cases geometry : rule.kind = .geometry
    · exact ⟨_, take_eq_ok.mpr (.skipped bound ended geometry), rfl, fun _ _ => rfl⟩
    · obtain ⟨drawing, done⟩ : ∃ drawing,
          rule.apply site token.literal.value? run.drawing = .ok drawing := by
        cases rule with
        | openBranch land => exact ⟨_, rfl⟩
        | closeBranch => exact ⟨_, rfl⟩
        | _ => exact absurd rfl geometry
      refine ⟨_, take_eq_ok.mpr (.applied bound (fun _ => geometry) done), ?_, ?_⟩
      · simp [ended]
      · intro noOpening noClosing
        exact absurd (brackets.others _ rule noOpening noClosing bound) geometry

variable {turtle : Turtle} {copies : Nat} {frame : List Turtle} {graph : Graph}
  {token : Token} {rest : List Token}

/-- A token pushes a copy of an ended turtle, takes one back, or changes nothing. Other turtles
stay saved, as long as no branch below the copies is closed. -/
theorem take_abandoned (brackets : BracketRules rules) (ended : turtle.ended = true)
    (started : run.drawing = .abandoned turtle copies frame graph)
    (within : frame = [] ∨ Token.Enclosed copies (token :: rest)) (site : UInt64) :
    ∃ next left, take rules run site token = .ok next ∧
      next.counters.deadEnds = run.counters.deadEnds ∧
      next.drawing = .abandoned turtle left frame graph ∧
      (frame = [] ∨ Token.Enclosed left rest) := by
  have asleep : run.drawing.turtle.ended = true := by rw [started]; exact ended
  obtain ⟨next, taken, sameEnds, sameDrawing⟩ := take_of_ended brackets asleep site token
  by_cases opening : token.symbol = '['
  · obtain ⟨land, opened⟩ := opened_of_take brackets opening taken
    rw [started, Drawing.openBranch_abandoned ended] at opened
    exact ⟨next, copies + 1, taken, sameEnds, opened, within.imp_right (·.opened opening)⟩
  · by_cases closing : token.symbol = ']'
    · have closed := closed_of_take brackets closing taken
      rw [started] at closed
      rcases within with rfl | enclosed
      · cases copies with
        | zero =>
          rw [Drawing.closeBranch_abandoned_nil] at closed
          exact ⟨next, 0, taken, sameEnds, closed, .inl rfl⟩
        | succ outer =>
          rw [Drawing.closeBranch_abandoned] at closed
          exact ⟨next, outer, taken, sameEnds, closed, .inl rfl⟩
      · obtain ⟨outer, rfl, inner⟩ := enclosed.closed closing
        rw [Drawing.closeBranch_abandoned] at closed
        exact ⟨next, outer, taken, sameEnds, closed, .inr inner⟩
    · have same := sameDrawing opening closing
      rw [started] at same
      exact ⟨next, copies, taken, sameEnds, same, within.imp_right (·.passed opening closing)⟩

theorem takeAll_abandoned (brackets : BracketRules rules) (ended : turtle.ended = true)
    {tokens : List Token} {offset : Nat}
    (started : run.drawing = .abandoned turtle copies frame graph)
    (within : frame = [] ∨ Token.Enclosed copies tokens) :
    ∃ next left, takeAll rules number offset tokens run = .ok next ∧
      next.counters.deadEnds = run.counters.deadEnds ∧
      next.drawing = .abandoned turtle left frame graph := by
  induction tokens generalizing offset run copies with
  | nil => exact ⟨run, copies, rfl, rfl, started⟩
  | cons token rest ih =>
    obtain ⟨middle, between, taken, tokenEnds, reached, inner⟩ :=
      take_abandoned brackets ended started within (siteOf number offset)
    obtain ⟨next, left, done, restEnds, finished⟩ := ih reached inner
    exact ⟨next, left, takeAll_cons.mpr ⟨middle, taken, done⟩, restEnds.trans tokenEnds, finished⟩

end Run

/-- While its branch has ended, a turtle draws nothing and does not fail. Tokens that close no
branch but their own leave the graph and the turtle as they are, and only copies of the turtle
above those saved before. A whole run does nothing, even if it closes what it has not opened. -/
theorem ended_turtle_inert {interpreter : Interpreter} (brackets : BracketRules interpreter.rules)
    {turtle : Turtle} (ended : turtle.ended = true) :
    (∀ number offset tokens saved graph counters, Token.Enclosed 0 tokens →
      ∃ next, Run.takeAll interpreter.rules number offset tokens
          ⟨⟨turtle, saved, graph⟩, counters⟩ = .ok next ∧
        next.drawing.graph = graph ∧ next.drawing.turtle = turtle ∧
        next.drawing.saved =
          List.replicate (Token.openings tokens - Token.closings tokens) turtle ++ saved ∧
        next.counters.deadEnds = counters.deadEnds) ∧
    ∀ script graph, ∃ after summary,
      interpreter.run script turtle graph = .ok (after, summary, graph) ∧
        summary.turtle = turtle ∧ summary.segmentsAdded = 0 ∧ summary.counters.deadEnds = 0 := by
  constructor
  · intro number offset tokens saved graph counters enclosed
    let run : Run := ⟨.abandoned turtle 0 saved graph, counters⟩
    obtain ⟨next, copies, done, sameEnds, finished⟩ :=
      run.takeAll_abandoned brackets ended rfl (.inr enclosed)
    obtain ⟨left, count, upper, length, above⟩ :=
      Run.savedAbove_of_takeAll brackets enclosed run.drawing.savedAbove_self done
    -- The brackets of the tokens say how many copies there are.
    have sizes : copies + saved.length = left + saved.length := by
      change _ = upper ++ saved at above
      rw [← length, ← List.length_append, ← above, finished]
      simp [Drawing.abandoned]
    obtain rfl : copies = Token.openings tokens - Token.closings tokens := by omega
    refine ⟨next, done, ?_, ?_, ?_, sameEnds⟩
    all_goals rw [finished]; rfl
  · intro script graph
    let run : Run := ⟨.abandoned turtle 0 [] graph, {}⟩
    obtain ⟨finished, copies, done, sameEnds, same⟩ :=
      run.takeAll_abandoned brackets ended rfl (.inl rfl)
    have drawn : finished.drawing.graph = graph := by rw [same]; rfl
    refine ⟨_, finished.summary graph, Interpreter.run_eq_ok.mpr ⟨finished, done, rfl, rfl, ?_⟩,
      ?_, ?_, sameEnds⟩
    · exact drawn.symm
    · rw [Run.summary, same]
      rfl
    · rw [Run.summary, drawn]
      exact Nat.sub_self _

/-- An ended turtle in the sea, under the rules of a network: it draws nothing, opens a branch,
closes it and opens two more. In a whole run it closes branches that were never opened. -/
theorem ended_turtle_inert_at_sea :
    ∃ (interpreter : Interpreter) (turtle : Turtle),
      (∃ terrain : Terrain, terrain.isLand turtle.position = false ∧
        interpreter = ({} : NetworkSettings).interpreter terrain) ∧
      turtle.ended = true ∧ Token.Enclosed 0 (Token.scan "F[S+(30)F]~[F[".toList) ∧
      (∃ next, Run.takeAll interpreter.rules 0 0 (Token.scan "F[S+(30)F]~[F[".toList)
          ⟨⟨turtle, [{ turtle with ended := false }], Graph.empty {}⟩, {}⟩ = .ok next ∧
        next.drawing.saved = [turtle, turtle, { turtle with ended := false }]) ∧
      ∃ after summary, interpreter.run "]F]S[~".toList turtle (Graph.empty {}) =
          .ok (after, summary, Graph.empty {}) ∧ summary.turtle = turtle := by
  let terrain : Terrain := .level ⟨1, 1⟩ .zero (by decide)
  let turtle : Turtle := { TurtleSettings.spawn {} Point.origin 0 with ended := true }
  have ended : turtle.ended = true := rfl
  have enclosed : Token.Enclosed 0 (Token.scan "F[S+(30)F]~[F[".toList) := by decide
  obtain ⟨texts, runs⟩ := ended_turtle_inert (BracketRules.network {} terrain) ended
  obtain ⟨next, done, -, -, saved, -⟩ :=
    texts 0 0 _ [{ turtle with ended := false }] (Graph.empty {}) {} enclosed
  obtain ⟨after, summary, ran, same, -⟩ := runs "]F]S[~".toList (Graph.empty {})
  exact ⟨_, turtle, ⟨terrain, by decide +kernel, rfl⟩, ended, enclosed, ⟨next, done, saved⟩,
    after, summary, ran, same⟩

end RoadGrowth
