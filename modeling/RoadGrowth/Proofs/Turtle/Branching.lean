import RoadGrowth.Placement.Bounds
import RoadGrowth.Proofs.Grammar.Brackets
import RoadGrowth.Proofs.Grammar.SymbolTable
import RoadGrowth.Proofs.Turtle.Steps

/-!
# Branches

A closing bracket takes back the turtle that its opening bracket saved. What lies
between the two saves and takes back turtles above that one only: the turtles saved
before stay where they are, whatever is drawn, rejected or left out. So nothing of
a balanced branch is left on the turtle, only in the graph.
-/

namespace RoadGrowth

namespace Token

/-- Number of opening brackets. -/
def openings (tokens : List Token) : Nat := tokens.countP fun token => token.symbol = '['

/-- Number of closing brackets. -/
def closings (tokens : List Token) : Nat := tokens.countP fun token => token.symbol = ']'

/-- At no point more branches were closed than there were open, `depth` of them from before. -/
def Enclosed (depth : Nat) (tokens : List Token) : Prop :=
  ∀ before, before <+: tokens → closings before ≤ openings before + depth

/-- Every branch is opened before it is closed, and every branch is closed. -/
structure Balanced (tokens : List Token) : Prop where
  enclosed : Enclosed 0 tokens
  closed : closings tokens = openings tokens

instance (depth : Nat) (tokens : List Token) : Decidable (Enclosed depth tokens) :=
  decidable_of_iff (∀ before ∈ tokens.inits, closings before ≤ openings before + depth) <| by
    simp only [List.mem_inits, Enclosed]

instance (tokens : List Token) : Decidable (Balanced tokens) :=
  decidable_of_iff (Enclosed 0 tokens ∧ closings tokens = openings tokens)
    ⟨fun ⟨enclosed, closed⟩ => ⟨enclosed, closed⟩, fun balanced => ⟨balanced.1, balanced.2⟩⟩

variable {token : Token} {rest : List Token} {depth : Nat}

theorem openings_cons : openings (token :: rest) =
    openings rest + if token.symbol = '[' then 1 else 0 := by
  simp [openings, List.countP_cons]

theorem closings_cons : closings (token :: rest) =
    closings rest + if token.symbol = ']' then 1 else 0 := by
  simp [closings, List.countP_cons]

theorem openings_eq (tokens : List Token) :
    openings tokens = (tokens.map symbol).count '[' := by
  rw [List.count_eq_countP, List.countP_map, openings]
  rfl

theorem closings_eq (tokens : List Token) :
    closings tokens = (tokens.map symbol).count ']' := by
  rw [List.count_eq_countP, List.countP_map, closings]
  rfl

/-- Brackets of tokens are those of the text of their symbols. -/
theorem enclosed_iff {tokens : List Token} :
    Enclosed depth tokens ↔ Script.Enclosed depth (tokens.map symbol) := by
  constructor
  · intro enclosed before start
    obtain ⟨first, within, rfl⟩ := List.prefix_map_iff.mp start
    have bound := enclosed first within
    rwa [openings_eq, closings_eq] at bound
  · intro enclosed before start
    rw [openings_eq, closings_eq]
    exact enclosed _ (start.map symbol)

theorem balanced_iff {tokens : List Token} :
    Balanced tokens ↔ Script.Balanced (tokens.map symbol) := by
  constructor
  · intro balanced
    refine ⟨enclosed_iff.mp balanced.enclosed, ?_⟩
    rw [← openings_eq, ← closings_eq]
    exact balanced.closed
  · intro balanced
    refine ⟨enclosed_iff.mpr balanced.enclosed, ?_⟩
    rw [openings_eq, closings_eq]
    exact balanced.closed

theorem Enclosed.opened (enclosed : Enclosed depth (token :: rest))
    (opening : token.symbol = '[') : Enclosed (depth + 1) rest := by
  rw [enclosed_iff, List.map_cons, opening, Script.enclosed_opening] at enclosed
  exact enclosed_iff.mpr enclosed

/-- A closing bracket closes one of the branches open before it. -/
theorem Enclosed.closed (enclosed : Enclosed depth (token :: rest))
    (closing : token.symbol = ']') : ∃ outer, depth = outer + 1 ∧ Enclosed outer rest := by
  rw [enclosed_iff, List.map_cons, closing, Script.enclosed_closing] at enclosed
  obtain ⟨outer, same, inner⟩ := enclosed
  exact ⟨outer, same, enclosed_iff.mpr inner⟩

theorem Enclosed.passed (enclosed : Enclosed depth (token :: rest))
    (noOpening : token.symbol ≠ '[') (noClosing : token.symbol ≠ ']') : Enclosed depth rest := by
  rw [enclosed_iff, List.map_cons, Script.enclosed_other noOpening noClosing] at enclosed
  exact enclosed_iff.mpr enclosed

end Token

/-- Rules that open and close branches at brackets; any other symbol is bound to geometry, or
not bound. -/
structure BracketRules (rules : SymbolTable Rule) : Prop where
  opening : ∃ land, rules.get? '[' = some (.openBranch land)
  closing : rules.get? ']' = some .closeBranch
  others : ∀ symbol rule, symbol ≠ '[' → symbol ≠ ']' → rules.get? symbol = some rule →
    rule.kind = .geometry

namespace BracketRules

variable {rules : SymbolTable Rule}

/-- A symbol that is no bracket may be bound to any rule for geometry. -/
theorem insert (brackets : BracketRules rules) {symbol : Char} {rule : Rule}
    (noOpening : symbol ≠ '[') (noClosing : symbol ≠ ']') (geometry : rule.kind = .geometry) :
    BracketRules (rules.insert symbol rule) where
  opening := by
    obtain ⟨land, bound⟩ := brackets.opening
    exact ⟨land, by rw [SymbolTable.get?_insert, if_neg noOpening.symm, bound]⟩
  closing := by rw [SymbolTable.get?_insert, if_neg noClosing.symm, brackets.closing]
  others other found notOpening notClosing bound := by
    rw [SymbolTable.get?_insert] at bound
    split at bound
    · cases bound
      exact geometry
    · exact brackets.others other found notOpening notClosing bound

theorem standard (seed : UInt64) (land : Option Terrain) :
    BracketRules (Interpreter.standard seed land).rules where
  opening := ⟨land, by simp [Interpreter.standard, SymbolTable.ofList, SymbolTable.get?_insert]⟩
  closing := by simp [Interpreter.standard, SymbolTable.ofList, SymbolTable.get?_insert]
  others symbol rule noOpening noClosing bound := by
    simp only [Interpreter.standard, SymbolTable.ofList, List.foldl_cons, List.foldl_nil,
      SymbolTable.get?_insert, SymbolTable.get?_empty, noOpening, noClosing, if_false] at bound
    repeat' split at bound
    all_goals cases bound
    all_goals rfl

end BracketRules

namespace Drawing

/-- The saved turtles are `depth` of them above the given ones. -/
def SavedAbove (frame : List Turtle) (depth : Nat) (drawing : Drawing) : Prop :=
  ∃ upper : List Turtle, upper.length = depth ∧ drawing.saved = upper ++ frame

variable {drawing next : Drawing} {frame : List Turtle} {depth : Nat}

theorem savedAbove_self (drawing : Drawing) : drawing.SavedAbove drawing.saved 0 :=
  ⟨[], rfl, rfl⟩

theorem SavedAbove.eq (above : drawing.SavedAbove frame 0) : drawing.saved = frame := by
  obtain ⟨upper, none, saved⟩ := above
  rw [saved, List.eq_nil_of_length_eq_zero none, List.nil_append]

theorem SavedAbove.opened (above : drawing.SavedAbove frame depth) (land : Option Terrain) :
    (drawing.openBranch land).SavedAbove frame (depth + 1) := by
  obtain ⟨upper, count, saved⟩ := above
  exact ⟨drawing.turtle :: upper, by rw [List.length_cons, count],
    by rw [openBranch, saved, List.cons_append]⟩

theorem SavedAbove.closed (above : drawing.SavedAbove frame (depth + 1)) :
    drawing.closeBranch.SavedAbove frame depth := by
  obtain ⟨upper, count, saved⟩ := above
  obtain ⟨turtle, upper, rfl⟩ := List.exists_cons_of_length_eq_add_one count
  refine ⟨upper, Nat.succ.inj count, ?_⟩
  rw [closeBranch, saved, List.cons_append]

theorem Acted.saved_of_geometry (acted : drawing.Acted .geometry next) :
    next.saved = drawing.saved := by
  cases acted <;> rfl

end Drawing

namespace Run

variable {rules : SymbolTable Rule} {number : UInt32} {run next : Run} {site : UInt64}
  {token : Token} {frame : List Turtle} {depth : Nat}

theorem opened_of_take (brackets : BracketRules rules) (opening : token.symbol = '[')
    (done : take rules run site token = .ok next) :
    ∃ land, next.drawing = run.drawing.openBranch land := by
  obtain ⟨land, bound⟩ := brackets.opening
  obtain ⟨drawing, opened, rfl⟩ := counted_of_take (opening ▸ bound) (by simp [Rule.kind]) done
  cases opened
  exact ⟨land, rfl⟩

theorem closed_of_take (brackets : BracketRules rules) (closing : token.symbol = ']')
    (done : take rules run site token = .ok next) :
    next.drawing = run.drawing.closeBranch := by
  obtain ⟨drawing, closed, rfl⟩ :=
    counted_of_take (closing ▸ brackets.closing) (by simp [Rule.kind]) done
  cases closed
  rfl

theorem saved_of_take (brackets : BracketRules rules) (noOpening : token.symbol ≠ '[')
    (noClosing : token.symbol ≠ ']') (done : take rules run site token = .ok next) :
    next.drawing.saved = run.drawing.saved := by
  rcases acted_of_take done with same | ⟨rule, bound, acted⟩
  · rw [same]
  · rw [brackets.others _ rule noOpening noClosing bound] at acted
    exact acted.saved_of_geometry

/-- Tokens that close no branch from below a frame leave the frame, with the branches that they
leave open above it. By induction on the tokens; each is a bracket or leaves the saved turtles. -/
theorem savedAbove_of_takeAll (brackets : BracketRules rules) {tokens : List Token} {offset : Nat}
    (enclosed : Token.Enclosed depth tokens) (above : run.drawing.SavedAbove frame depth)
    (done : takeAll rules number offset tokens run = .ok next) :
    ∃ left, left + Token.closings tokens = depth + Token.openings tokens ∧
      next.drawing.SavedAbove frame left := by
  induction tokens generalizing offset run depth with
  | nil =>
    cases done
    exact ⟨depth, rfl, above⟩
  | cons token rest ih =>
    obtain ⟨middle, taken, done⟩ := takeAll_cons.mp done
    rw [Token.openings_cons, Token.closings_cons]
    by_cases opening : token.symbol = '['
    · obtain ⟨land, opened⟩ := opened_of_take brackets opening taken
      obtain ⟨left, count, leaves⟩ :=
        ih (enclosed.opened opening) (opened ▸ above.opened land) done
      refine ⟨left, ?_, leaves⟩
      simp [opening]
      omega
    · by_cases closing : token.symbol = ']'
      · obtain ⟨outer, rfl, inner⟩ := enclosed.closed closing
        obtain ⟨left, count, leaves⟩ :=
          ih inner (closed_of_take brackets closing taken ▸ above.closed) done
        refine ⟨left, ?_, leaves⟩
        simp [closing]
        omega
      · have kept : middle.drawing.SavedAbove frame depth := by
          rwa [Drawing.SavedAbove, saved_of_take brackets opening closing taken]
        obtain ⟨left, count, leaves⟩ := ih (enclosed.passed opening closing) kept done
        refine ⟨left, ?_, leaves⟩
        simpa [opening, closing] using count

/-- A balanced branch leaves the turtle and the saved turtles as they were, in every field, and
only adds to the graph. -/
theorem branch_leaves_no_trace (brackets : BracketRules rules) {opening closing : Token}
    {body : List Token} (opens : opening.symbol = '[') (closes : closing.symbol = ']')
    (balanced : Token.Balanced body) {offset : Nat}
    (done : takeAll rules number offset (opening :: body ++ [closing]) run = .ok next) :
    next.drawing.turtle = run.drawing.turtle ∧ next.drawing.saved = run.drawing.saved ∧
      run.drawing.graph.Grown next.drawing.graph := by
  obtain ⟨inside, branch, last⟩ := takeAll_append.mp done
  obtain ⟨start, opened, within⟩ := takeAll_cons.mp branch
  obtain ⟨finish, closed, finished⟩ := takeAll_cons.mp last
  cases finished
  obtain ⟨land, opened⟩ := opened_of_take brackets opens opened
  obtain ⟨left, count, above⟩ :=
    savedAbove_of_takeAll brackets balanced.enclosed (Drawing.savedAbove_self _) within
  -- The body leaves no branch of its own open, so the turtle saved at the opening is on top.
  obtain rfl : left = 0 := by
    have same := balanced.closed
    omega
  have saved : inside.drawing.saved = run.drawing.turtle :: run.drawing.saved := by
    rw [above.eq, opened, Drawing.openBranch]
  have restored := closed_of_take brackets closes closed
  rw [Drawing.closeBranch, saved] at restored
  refine ⟨by rw [restored], by rw [restored], ?_⟩
  exact takeAll_grown done

/-- A branch that turns, opens a second one that leaves the map and ends, and shortens its
segments: two segments are drawn in it, and the turtle is as before. -/
theorem branch_leaves_no_trace_of_dead_end :
    ∃ run next, takeAll (Interpreter.standard 1 none).rules 0 0 (Token.scan "F[F".toList)
        ⟨⟨TurtleSettings.spawn {} Point.origin 0, [],
          (Graph.empty ⟨[.bounds Terrain.mapBounds], false⟩).addNode Point.origin⟩, {}⟩ = .ok run ∧
      takeAll (Interpreter.standard 1 none).rules 0 3 (Token.scan "[+F[F(9)F]\"F]".toList) run =
        .ok next ∧
      (run.drawing.saved.length, run.drawing.graph.segments.size) = (1, 2) ∧
      (next.counters.deadEnds, next.drawing.graph.segments.size) = (1, 4) ∧
      next.drawing.turtle = run.drawing.turtle ∧ next.drawing.saved = run.drawing.saved := by
  have drawn : ((do
      let run ← takeAll (Interpreter.standard 1 none).rules 0 0 (Token.scan "F[F".toList)
        ⟨⟨TurtleSettings.spawn {} Point.origin 0, [],
          (Graph.empty ⟨[.bounds Terrain.mapBounds], false⟩).addNode Point.origin⟩, {}⟩
      let next ← takeAll (Interpreter.standard 1 none).rules 0 3
        (Token.scan "[+F[F(9)F]\"F]".toList) run
      return ((run.drawing.saved.length, run.drawing.graph.segments.size),
        (next.counters.deadEnds, next.drawing.graph.segments.size))) :
      Except Fault ((Nat × Nat) × (Nat × Nat))).toOption = some ((1, 2), (1, 4)) := by
    decide +kernel
  rw [toOption_eq_some] at drawn
  obtain ⟨run, before, drawn⟩ := bind_eq_ok.mp drawn
  obtain ⟨next, done, counted⟩ := bind_eq_ok.mp drawn
  obtain ⟨beforehand, afterwards⟩ := Prod.mk.inj (Except.ok.inj counted)
  have branch : Token.scan "[+F[F(9)F]\"F]".toList =
      ⟨'[', .absent⟩ :: Token.scan "+F[F(9)F]\"F".toList ++ [⟨']', .absent⟩] := by decide
  obtain ⟨turtle, saved, -⟩ := branch_leaves_no_trace (BracketRules.standard 1 none) rfl rfl
    (by decide) (branch ▸ done)
  exact ⟨run, next, before, done, beforehand, afterwards, turtle, saved⟩

end Run

end RoadGrowth
