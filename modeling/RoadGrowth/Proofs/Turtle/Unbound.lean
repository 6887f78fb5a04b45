import RoadGrowth.Proofs.Turtle.Sequence
import RoadGrowth.Proofs.Turtle.Spelling

/-!
# Symbols without a rule

A token whose symbol has no rule does nothing, and its literal is passed over with it. It may
be left out of the script altogether: what is left is scanned as the same tokens, since none of
those begins with an opening parenthesis, and no rule but one that turns at random notices that it
is applied at another site.
-/

namespace RoadGrowth

/-- The tokens whose symbols have a rule. -/
def Token.bound (rules : SymbolTable Rule) (tokens : List Token) : List Token :=
  tokens.filter fun token => rules.contains token.symbol

/-- The text of the tokens whose symbols have a rule. -/
def Script.bound (rules : SymbolTable Rule) (script : Script) : Script :=
  (Token.bound rules (Token.scan script)).flatMap Token.written

variable {rules : SymbolTable Rule} {tokens : List Token}

namespace Token

/-- Without the tokens that have no rule the others stay separate, if an opening parenthesis is one
of those. -/
theorem Spelled.bound (spelled : Spelled tokens) (noOpening : rules.get? '(' = none) :
    Spelled (bound rules tokens) := by
  induction tokens with
  | nil => exact spelled
  | cons token tokens ih =>
    obtain ⟨inside, ends, rest⟩ := spelled_cons.mp spelled
    rw [Token.bound, List.filter_cons]
    split
    · refine spelled_cons.mpr ⟨inside, fun next first => ?_, ih rest⟩
      -- The next token that is kept has a rule; it need not be the next one of the script.
      obtain ⟨member, hasRule⟩ := List.mem_filter.mp (List.mem_of_mem_head? first)
      constructor
      case closed =>
        cases tokens with
        | nil => cases member
        | cons follower tokens => exact (ends follower rfl).closed
      case separate =>
        intro _ opening
        rw [opening, SymbolTable.contains, noOpening] at hasRule
        cases hasRule
    · exact ih rest

/-- What is left of a script is scanned as the tokens that were kept. -/
theorem scan_bound (script : Script) (noOpening : rules.get? '(' = none) :
    scan (Script.bound rules script) = bound rules (scan script) :=
  scan_written ((spelled_scan script).bound noOpening)

end Token

namespace Run

variable {run : Run} {token : Token}

theorem take_site_eq (steady : ∀ rule ∈ rules.get? token.symbol, rule.isJitter = false)
    (site other : UInt64) : take rules run site token = take rules run other token := by
  unfold take
  cases bound : rules.get? token.symbol with
  | none => rfl
  | some rule =>
    obtain ⟨drawing, counters⟩ := run
    simp only [apply, Rule.apply_site_eq (steady rule bound) site other]

/-- A run does the same without the tokens that have no rule, wherever the others then stand. -/
theorem takeAll_bound (steady : Token.Steady rules tokens) (number : UInt32) (place offset : Nat) :
    takeAll rules number place (Token.bound rules tokens) run =
      takeAll rules number offset tokens run := by
  induction tokens generalizing run place offset with
  | nil => rfl
  | cons token rest ih =>
    have first := steady token List.mem_cons_self
    have others : Token.Steady rules rest :=
      fun token member => steady token (List.mem_cons_of_mem _ member)
    rw [Token.bound, List.filter_cons]
    split_ifs with hasRule
    · simp only [takeAll, take_site_eq first (siteOf number place) (siteOf number offset)]
      cases take rules run (siteOf number offset) token with
      | ok next => exact ih others _ _
      | error fault => rfl
    · have passed : take rules run (siteOf number offset) token = .ok run := by
        rw [take, Option.not_isSome_iff_eq_none.mp hasRule]
      simp only [takeAll, passed]
      exact ih others _ _

end Run

/-- A turtle on a node runs any script without rules that turn at random. -/
theorem Interpreter.exists_run {interpreter : Interpreter} {script : Script} {turtle : Turtle}
    {graph : Graph} (consistent : graph.Consistent) (stands : turtle.StandsOn graph)
    (steady : Token.Steady interpreter.rules (Token.scan script)) :
    ∃ after summary final, interpreter.run script turtle graph = .ok (after, summary, final) := by
  have inStep : Drawing.InStep ⟨turtle, [], graph⟩ := ⟨stands, by simp⟩
  obtain ⟨finished, taken⟩ :=
    Run.exists_takeAll ⟨⟨turtle, [], graph⟩, {}⟩ consistent inStep steady interpreter.runs 0
  exact ⟨_, _, _, run_eq_ok.mpr ⟨finished, taken, rfl, rfl, rfl⟩⟩

/-- A script without rules that turn at random, where an opening parenthesis has no rule: it may be
run without the tokens whose symbols have none, on any graph and with any turtle. The turtle, all
counts and the graph are the same, and so is the fault of a run that fails; none does if the turtle
stands on a node. -/
theorem Interpreter.run_bound {interpreter : Interpreter} {script : Script}
    (noOpening : interpreter.rules.get? '(' = none)
    (steady : Token.Steady interpreter.rules (Token.scan script))
    (turtle : Turtle) (graph : Graph) :
    interpreter.run (script.bound interpreter.rules) turtle graph =
        interpreter.run script turtle graph ∧
      (graph.Consistent → turtle.StandsOn graph →
        ∃ after summary final,
          interpreter.run script turtle graph = .ok (after, summary, final)) := by
  refine ⟨?_, fun consistent stands => exists_run consistent stands steady⟩
  unfold run
  rw [Token.scan_bound script noOpening, Run.takeAll_bound steady interpreter.runs 0 0]

/-- Symbols left over from a grammar, with literals of their own, an opening parenthesis that
follows a literal and one that the script ends behind: only what the turtle heeds is left, and it
comes to the same. -/
theorem Interpreter.run_bound_of_leftovers :
    ∃ (turtle : Turtle) (graph final : Graph) (after : Interpreter) (summary : RunSummary),
      Script.bound (Interpreter.standard 1 none).rules "X(3)F(0.03)LB+(30)(9)F]X(F".toList =
        "F(0.03)+(30)F]".toList ∧
      (Interpreter.standard 1 none).run "F(0.03)+(30)F]".toList turtle graph =
        .ok (after, summary, final) ∧
      (Interpreter.standard 1 none).run "X(3)F(0.03)LB+(30)(9)F]X(F".toList turtle graph =
        .ok (after, summary, final) ∧
      summary.segmentsAdded = 2 ∧ summary.counters = ⟨4, 0, 0, 0, 1, 0, 0⟩ := by
  let interpreter := Interpreter.standard 1 none
  let turtle := TurtleSettings.spawn {} Point.origin 0
  let graph := (Graph.empty ⟨[.bounds Terrain.mapBounds], false⟩).addNode Point.origin
  have consistent : graph.Consistent :=
    (Graph.Reachable.added (.empty _ Graph.usualSnapDistance) Point.origin).consistent
  have reduced : Script.bound interpreter.rules "X(3)F(0.03)LB+(30)(9)F]X(F".toList =
      "F(0.03)+(30)F]".toList := by
    decide
  have noOpening : interpreter.rules.get? '(' = none := by decide
  have steady : Token.Steady interpreter.rules
      (Token.scan "X(3)F(0.03)LB+(30)(9)F]X(F".toList) := by
    decide
  obtain ⟨same, finishes⟩ := run_bound noOpening steady turtle graph
  obtain ⟨after, summary, final, ran⟩ := finishes consistent ⟨_, rfl, rfl⟩
  have counted : (interpreter.run "F(0.03)+(30)F]".toList turtle graph).toOption.map
      (fun outcome => (outcome.2.1.segmentsAdded, outcome.2.1.counters)) =
        some (2, ⟨4, 0, 0, 0, 1, 0, 0⟩) := by
    decide +kernel
  rw [reduced] at same
  rw [same, ran] at counted
  obtain ⟨added, counts⟩ := Prod.mk.inj (Option.some.inj counted)
  exact ⟨turtle, graph, final, after, summary, reduced, same.trans ran, ran, added, counts⟩

end RoadGrowth
