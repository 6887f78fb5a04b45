import RoadGrowth.Proofs.Network.Symbols
import RoadGrowth.Proofs.Turtle.Tokens

/-!
# Depth of branches

A plain counter passes over the symbols of a text and looks at brackets only. A run keeps
the same books: what it counts of its branches, and how many turtles are saved, is what
the counter says of the tokens taken so far. Neither the terrain nor the graph nor the
turtle matters for it, and no rejected segment. So a script whose brackets balance is run
with every branch closed, and scripts expanded by plain grammars are such scripts.
-/

namespace RoadGrowth

/-- What a plain counter knows of the brackets that it has passed. -/
structure BranchCount where
  started : Nat := 0
  closed : Nat := 0
  /-- Closings with no branch open. -/
  unmatched : Nat := 0
  /-- Branches open now. -/
  depth : Nat := 0
  /-- Most branches open at once. -/
  deepest : Nat := 0
  deriving DecidableEq

namespace BranchCount

/-- Pass an opening bracket. -/
def passOpening (count : BranchCount) : BranchCount :=
  { count with
    started := count.started + 1
    depth := count.depth + 1
    deepest := max count.deepest (count.depth + 1) }

/-- Pass a closing bracket. With no branch open it only counts as unmatched. -/
def passClosing (count : BranchCount) : BranchCount :=
  match count.depth with
  | 0 => { count with unmatched := count.unmatched + 1 }
  | depth + 1 => { count with closed := count.closed + 1, depth }

/-- Pass a symbol. -/
def pass (count : BranchCount) (symbol : Char) : BranchCount :=
  if symbol = '[' then
    count.passOpening
  else if symbol = ']' then
    count.passClosing
  else
    count

/-- The count over all symbols of a text. -/
def ofSymbols (symbols : List Char) : BranchCount := symbols.foldl pass {}

@[simp] theorem pass_opening (count : BranchCount) : count.pass '[' = count.passOpening := rfl

@[simp] theorem pass_closing (count : BranchCount) : count.pass ']' = count.passClosing := rfl

theorem pass_other (count : BranchCount) {symbol : Char} (noOpening : symbol ≠ '[')
    (noClosing : symbol ≠ ']') : count.pass symbol = count := by
  rw [pass, if_neg noOpening, if_neg noClosing]

theorem passClosing_of_zero {count : BranchCount} (outside : count.depth = 0) :
    count.passClosing = { count with unmatched := count.unmatched + 1 } := by
  rw [passClosing, outside]

theorem passClosing_of_succ {count : BranchCount} {outer : Nat} (inside : count.depth = outer + 1) :
    count.passClosing = { count with closed := count.closed + 1, depth := outer } := by
  rw [passClosing, inside]

/-! ## What a count adds up to -/

/-- How the counts before and after some symbols differ. -/
structure Tallies (before : BranchCount) (symbols : List Char) (after : BranchCount) : Prop where
  started : after.started = before.started + symbols.count '['
  closings : after.closed + after.unmatched = before.closed + before.unmatched + symbols.count ']'
  depth : after.closed + after.depth + before.started = before.closed + before.depth + after.started
  unmatched : before.unmatched ≤ after.unmatched

variable {symbols more : List Char} {count middle last : BranchCount}

theorem tallies_pass (count : BranchCount) (symbol : Char) :
    Tallies count [symbol] (count.pass symbol) := by
  by_cases opening : symbol = '['
  · subst opening
    constructor <;> simp [passOpening]
    omega
  · by_cases closing : symbol = ']'
    · subst closing
      rw [pass_closing]
      cases inside : count.depth with
      | zero =>
        rw [passClosing_of_zero inside]
        constructor <;> simp [inside, Nat.add_assoc]
      | succ outer =>
        rw [passClosing_of_succ inside]
        constructor <;> simp [inside]
        all_goals omega
    · rw [pass_other count opening closing]
      constructor <;> simp [opening, closing]

theorem Tallies.trans (first : Tallies count symbols middle) (second : Tallies middle more last) :
    Tallies count (symbols ++ more) last where
  started := by
    rw [second.started, first.started, List.count_append, Nat.add_assoc]
  closings := by
    rw [second.closings, first.closings, List.count_append, Nat.add_assoc]
  depth := by
    have inner := first.depth
    have outer := second.depth
    omega
  unmatched := Nat.le_trans first.unmatched second.unmatched

theorem tallies_foldl (symbols : List Char) (count : BranchCount) :
    Tallies count symbols (symbols.foldl pass count) := by
  induction symbols generalizing count with
  | nil => constructor <;> simp
  | cons symbol rest ih => exact (tallies_pass count symbol).trans (ih (count.pass symbol))

/-- No closing bracket is unmatched where no branch is closed before it was opened. -/
theorem unmatched_foldl_eq : (symbols.foldl pass count).unmatched = count.unmatched ↔
    Script.Enclosed count.depth symbols := by
  induction symbols generalizing count with
  | nil => simp
  | cons symbol rest ih =>
    rw [List.foldl_cons]
    by_cases opening : symbol = '['
    · subst opening
      rw [Script.enclosed_opening]
      exact ih
    · by_cases closing : symbol = ']'
      · subst closing
        rw [Script.enclosed_closing, pass_closing]
        cases inside : count.depth with
        | zero =>
          -- The unmatched bracket stays counted, whatever follows it.
          have counted := (tallies_foldl rest count.passClosing).unmatched
          rw [passClosing_of_zero inside] at counted ⊢
          constructor
          · intro same
            rw [same] at counted
            exact absurd counted (Nat.not_succ_le_self _)
          · rintro ⟨outer, deeper, -⟩
            cases deeper
        | succ outer =>
          rw [passClosing_of_succ inside]
          simpa using @ih { count with closed := count.closed + 1, depth := outer }
      · rw [pass_other count opening closing, ih, Script.enclosed_other opening closing]

theorem started_ofSymbols (symbols : List Char) : (ofSymbols symbols).started = symbols.count '[' := by
  simpa [ofSymbols] using (tallies_foldl symbols {}).started

theorem closings_ofSymbols (symbols : List Char) :
    (ofSymbols symbols).closed + (ofSymbols symbols).unmatched = symbols.count ']' := by
  simpa [ofSymbols] using (tallies_foldl symbols {}).closings

theorem started_eq_ofSymbols (symbols : List Char) :
    (ofSymbols symbols).started = (ofSymbols symbols).closed + (ofSymbols symbols).depth := by
  simpa [ofSymbols] using (tallies_foldl symbols {}).depth.symm

theorem unmatched_ofSymbols : (ofSymbols symbols).unmatched = 0 ↔ Script.Enclosed 0 symbols :=
  unmatched_foldl_eq

/-- The count of a text shows whether its brackets balance. -/
theorem balanced_iff :
    (ofSymbols symbols).depth = 0 ∧ (ofSymbols symbols).unmatched = 0 ↔ Script.Balanced symbols := by
  have started := started_ofSymbols symbols
  have closings := closings_ofSymbols symbols
  have depth := started_eq_ofSymbols symbols
  constructor
  · rintro ⟨noneOpen, matched⟩
    refine ⟨unmatched_ofSymbols.mp matched, ?_⟩
    omega
  · intro balanced
    have matched := unmatched_ofSymbols.mpr balanced.enclosed
    have closed := balanced.closed
    exact ⟨by omega, matched⟩

end BranchCount

/-! ## Runs -/

/-- The books that a run keeps of its branches. -/
def Run.branchCount (run : Run) : BranchCount where
  started := run.counters.started
  closed := run.counters.closed
  unmatched := run.counters.unmatched
  depth := run.drawing.saved.length
  deepest := run.counters.deepest

/-- The books that a finished run kept of its branches. -/
def RunSummary.branchCount (summary : RunSummary) : BranchCount where
  started := summary.counters.started
  closed := summary.counters.closed
  unmatched := summary.counters.unmatched
  depth := summary.openBranches
  deepest := summary.counters.deepest

namespace Run

variable {rules : SymbolTable Rule} {number : UInt32} {run next : Run} {site : UInt64}
  {token : Token}

theorem branchCount_of_take (brackets : BracketRules rules)
    (done : take rules run site token = .ok next) :
    next.branchCount = run.branchCount.pass token.symbol := by
  by_cases opening : token.symbol = '['
  · obtain ⟨land, bound⟩ := brackets.opening
    obtain ⟨drawing, opened, rfl⟩ := counted_of_take (opening ▸ bound) (by simp [Rule.kind]) done
    cases opened
    rw [opening]
    rfl
  · by_cases closing : token.symbol = ']'
    · obtain ⟨drawing, closed, rfl⟩ :=
        counted_of_take (closing ▸ brackets.closing) (by simp [Rule.kind]) done
      cases closed
      rw [closing]
      obtain ⟨⟨turtle, saved, graph⟩, counters⟩ := run
      cases saved with
      | nil => rfl
      | cons last saved => simp [branchCount, BranchCount.passClosing, Counters.applying,
          Rule.kind, Drawing.closeBranch]
    · rw [BranchCount.pass_other _ opening closing]
      cases take_eq_ok.mp done with
      | passed => rfl
      | skipped => rfl
      | applied bound _ applied =>
        have acted := Rule.acted_of_apply applied
        rw [brackets.others _ _ opening closing bound] at acted ⊢
        simp [branchCount, Counters.applying, acted.saved_of_geometry]

/-- A run counts its branches as the plain counter does. -/
theorem branchCount_of_takeAll (brackets : BracketRules rules) {tokens : List Token}
    {offset : Nat} (done : takeAll rules number offset tokens run = .ok next) :
    next.branchCount = (tokens.map Token.symbol).foldl BranchCount.pass run.branchCount := by
  induction tokens generalizing offset run with
  | nil =>
    cases done
    rfl
  | cons token rest ih =>
    obtain ⟨middle, taken, done⟩ := takeAll_cons.mp done
    rw [ih done, branchCount_of_take brackets taken, List.map_cons, List.foldl_cons]

end Run

section Finished

variable {interpreter after : Interpreter} {script : Script} {turtle : Turtle}
  {graph final : Graph} {summary : RunSummary}

theorem Interpreter.branchCount_of_run (brackets : BracketRules interpreter.rules)
    (done : interpreter.run script turtle graph = .ok (after, summary, final)) :
    summary.branchCount = .ofSymbols ((Token.scan script).map Token.symbol) := by
  obtain ⟨finished, taken, rfl, rfl, rfl⟩ := run_eq_ok.mp done
  exact Run.branchCount_of_takeAll brackets taken

/-- What a run says of branches is what a plain counter says of the symbols of its script. So it
ends with the branches open that were started and not closed, and it ends with none open and no
closing unmatched exactly when the brackets of the script balance. -/
theorem run_counts_branches (brackets : BracketRules interpreter.rules)
    (done : interpreter.run script turtle graph = .ok (after, summary, final)) :
    summary.branchCount = .ofSymbols ((Token.scan script).map Token.symbol) ∧
    summary.counters.started = summary.counters.closed + summary.openBranches ∧
    (summary.openBranches = 0 ∧ summary.counters.unmatched = 0 ↔
      Token.Balanced (Token.scan script)) := by
  have counted := Interpreter.branchCount_of_run brackets done
  refine ⟨counted, ?_, ?_⟩
  · have kept := BranchCount.started_eq_ofSymbols ((Token.scan script).map Token.symbol)
    rwa [← counted] at kept
  · rw [Token.balanced_iff, ← BranchCount.balanced_iff, ← counted]
    rfl

end Finished

/-- A closing bracket too many, brackets inside literals, a segment that leaves the map, and two
branches that are never closed, the closing bracket of one being part of a literal. -/
theorem run_counts_branches_unbalanced :
    ∃ after summary final, (Interpreter.standard 1 none).run "][+(4])F(9)[F]F[-(]".toList
        (TurtleSettings.spawn {} Point.origin 0)
        ((Graph.empty ⟨[.bounds Terrain.mapBounds], false⟩).addNode Point.origin) =
          .ok (after, summary, final) ∧
      summary.counters.deadEnds = 1 ∧ summary.branchCount = ⟨3, 1, 1, 2, 2⟩ ∧
      ¬Token.Balanced (Token.scan "][+(4])F(9)[F]F[-(]".toList) := by
  have drawn : ((Interpreter.standard 1 none).run "][+(4])F(9)[F]F[-(]".toList
      (TurtleSettings.spawn {} Point.origin 0)
      ((Graph.empty ⟨[.bounds Terrain.mapBounds], false⟩).addNode Point.origin)).toOption.map
        (fun outcome => outcome.2.1.counters.deadEnds) = some 1 := by
    decide +kernel
  obtain ⟨⟨after, summary, final⟩, ran, ends⟩ := Option.map_eq_some_iff.mp drawn
  rw [toOption_eq_some] at ran
  obtain ⟨counted, -, closed⟩ := run_counts_branches (BracketRules.standard 1 none) ran
  have books : summary.branchCount = ⟨3, 1, 1, 2, 2⟩ := counted.trans (by decide)
  refine ⟨after, summary, final, ran, ends, books, fun balanced => ?_⟩
  have noneOpen : summary.branchCount.depth = 0 := (closed.mpr balanced).1
  rw [books] at noneOpen
  cases noneOpen

/-! ## Expanded scripts -/

/-- What a plain grammar expands to is balanced, whatever its number of rounds, and a run of it
opens and closes a branch for each opening bracket and leaves none open. -/
theorem Grammar.Plain.run_balanced {grammar : Grammar} (plain : grammar.Plain) :
    Script.Balanced grammar.expand ∧
    ∀ (interpreter after : Interpreter) (turtle : Turtle) (graph final : Graph)
      (summary : RunSummary), BracketRules interpreter.rules →
      interpreter.run grammar.expand turtle graph = .ok (after, summary, final) →
        summary.openBranches = 0 ∧ summary.counters.unmatched = 0 ∧
        summary.counters.started = grammar.expand.count '[' ∧
        summary.counters.closed = grammar.expand.count '[' := by
  have expanded := plain.expand
  refine ⟨expanded.balanced, fun interpreter after turtle graph final summary brackets done => ?_⟩
  have counted := Interpreter.branchCount_of_run brackets done
  rw [Token.symbols_scan expanded.noLiteral] at counted
  obtain ⟨noneOpen, matched⟩ := BranchCount.balanced_iff.mpr expanded.balanced
  have started := BranchCount.started_ofSymbols grammar.expand
  have closed := BranchCount.started_eq_ofSymbols grammar.expand
  rw [← counted] at noneOpen matched started closed
  refine ⟨noneOpen, matched, started, ?_⟩
  rw [← started, closed, noneOpen]
  rfl

/-- Two rounds of a grammar that puts a side road and itself in the place of a symbol, and the
usual grammar of highways. -/
theorem Grammar.Plain.run_balanced_side_roads :
    ∃ (settings : GrammarSettings) (after : Interpreter) (summary : RunSummary) (final : Graph),
      settings.grammar.Plain ∧ settings.grammar.expand = "F[-F][-F]X".toList ∧
      (Interpreter.standard 1 none).run settings.grammar.expand
        (TurtleSettings.spawn {} Point.origin 0) ((Graph.empty {}).addNode Point.origin) =
          .ok (after, summary, final) ∧
      summary.segmentsAdded = 3 ∧ summary.openBranches = 0 ∧ summary.counters.started = 2 ∧
      summary.counters.closed = 2 ∧ Script.Balanced GrammarSettings.highway.grammar.expand := by
  let settings : GrammarSettings := ⟨"FX".toList, .ofList [('X', "[-F]X".toList)], 2⟩
  have plain : settings.grammar.Plain := GrammarSettings.plain_grammar (by decide) (by decide)
  have expanded : settings.grammar.expand = "F[-F][-F]X".toList := by decide
  have drawn : ((Interpreter.standard 1 none).run settings.grammar.expand
      (TurtleSettings.spawn {} Point.origin 0)
      ((Graph.empty {}).addNode Point.origin)).toOption.map
        (fun outcome => outcome.2.1.segmentsAdded) = some 3 := by
    decide +kernel
  obtain ⟨⟨after, summary, final⟩, ran, added⟩ := Option.map_eq_some_iff.mp drawn
  rw [toOption_eq_some] at ran
  obtain ⟨-, runs⟩ := plain.run_balanced
  obtain ⟨noneOpen, -, started, closed⟩ :=
    runs _ after _ _ final summary (BracketRules.standard 1 none) ran
  have opens : settings.grammar.expand.count '[' = 2 := by decide
  obtain ⟨highway, -⟩ := GrammarSettings.plain_usual.1.run_balanced
  exact ⟨settings, after, summary, final, plain, expanded, ran, added, noneOpen,
    started.trans opens, closed.trans opens, highway⟩

end RoadGrowth
