import RoadGrowth.Proofs.Turtle.Acts
import RoadGrowth.Turtle.Interpreter

/-!
# What a token can do

`Took` lists what taking a token can come to: its symbol has no rule, its rule is left
out because the branch has ended, or its rule is applied and counted. Whatever a run
does or counts is read off these three cases, and what each token keeps a whole run
keeps.
-/

namespace RoadGrowth

namespace Counters

variable (counters : Counters) (kind : RuleKind) (before after : Nat) (ends : Bool)

@[simp] theorem applied_applying :
    (counters.applying kind before after ends).applied = counters.applied + 1 := by
  cases kind with
  | geometry | branchStart => rfl
  | branchEnd =>
    simp only [applying]
    split <;> rfl

@[simp] theorem skipped_applying :
    (counters.applying kind before after ends).skipped = counters.skipped := by
  cases kind with
  | geometry | branchStart => rfl
  | branchEnd =>
    simp only [applying]
    split <;> rfl

@[simp] theorem deadEnds_applying :
    (counters.applying kind before after ends).deadEnds =
      counters.deadEnds + if ends then 1 else 0 := by
  cases kind with
  | geometry | branchStart => rfl
  | branchEnd =>
    simp only [applying]
    split <;> rfl

end Counters

namespace Run

/-- What taking a token at a site can make of a run. -/
inductive Took (rules : SymbolTable Rule) (run : Run) (site : UInt64) (token : Token) :
    Run → Prop where
  /-- The symbol has no rule. -/
  | passed (unbound : rules.get? token.symbol = none) : Took rules run site token run
  /-- The rule draws or turns, and the branch has ended. -/
  | skipped {rule : Rule} (bound : rules.get? token.symbol = some rule)
    (ended : run.drawing.turtle.ended = true) (geometry : rule.kind = .geometry) :
    Took rules run site token
      ⟨run.drawing, { run.counters with skipped := run.counters.skipped + 1 }⟩
  /-- The rule is applied. -/
  | applied {rule : Rule} {drawing : Drawing} (bound : rules.get? token.symbol = some rule)
    (heeded : run.drawing.turtle.ended = true → rule.kind ≠ .geometry)
    (done : rule.apply site token.literal.value? run.drawing = .ok drawing) :
    Took rules run site token
      ⟨drawing, run.counters.applying rule.kind run.drawing.saved.length drawing.saved.length
        (!run.drawing.turtle.ended && drawing.turtle.ended)⟩

variable {rules : SymbolTable Rule} {number : UInt32} {run next : Run} {site : UInt64}
  {token : Token}

theorem take_eq_ok : take rules run site token = .ok next ↔ Took rules run site token next := by
  obtain ⟨drawing, counters⟩ := run
  constructor
  · intro done
    unfold take at done
    cases bound : rules.get? token.symbol with
    | none =>
      rw [bound] at done
      cases done
      exact .passed bound
    | some rule =>
      rw [bound] at done
      simp only [apply] at done
      split at done
      · rename_i left
        cases done
        rw [Bool.and_eq_true, decide_eq_true_eq] at left
        exact .skipped bound left.1 left.2
      · rename_i heeded
        rw [Bool.and_eq_true, decide_eq_true_eq, not_and] at heeded
        obtain ⟨after, applied, counted⟩ := bind_eq_ok.mp done
        cases counted
        exact .applied bound heeded applied
  · intro took
    cases took with
    | passed unbound => rw [take, unbound]
    | skipped bound ended geometry =>
      simp only [take, bound, apply]
      rw [if_pos (by rw [Bool.and_eq_true, decide_eq_true_eq]; exact ⟨ended, geometry⟩)]
      rfl
    | applied bound heeded done =>
      simp only [take, bound, apply]
      rw [if_neg (by rw [Bool.and_eq_true, decide_eq_true_eq, not_and]; exact heeded)]
      exact bind_eq_ok.mpr ⟨_, done, rfl⟩

/-- A rule that opens or closes a branch is always applied and counted. -/
theorem counted_of_take {rule : Rule} (bound : rules.get? token.symbol = some rule)
    (branching : rule.kind ≠ .geometry) (done : take rules run site token = .ok next) :
    ∃ drawing, rule.apply site token.literal.value? run.drawing = .ok drawing ∧
      next = ⟨drawing, run.counters.applying rule.kind run.drawing.saved.length
        drawing.saved.length (!run.drawing.turtle.ended && drawing.turtle.ended)⟩ := by
  cases take_eq_ok.mp done with
  | passed unbound =>
    rw [bound] at unbound
    cases unbound
  | skipped found _ geometry =>
    rw [bound] at found
    cases found
    exact absurd geometry branching
  | applied found _ applied =>
    rw [bound] at found
    cases found
    exact ⟨_, applied, rfl⟩

/-- A token leaves the drawing as it is, or the rule of its symbol acts on it. -/
theorem acted_of_take (done : take rules run site token = .ok next) :
    next.drawing = run.drawing ∨
      ∃ rule, rules.get? token.symbol = some rule ∧ run.drawing.Acted rule.kind next.drawing := by
  cases take_eq_ok.mp done with
  | passed => exact .inl rfl
  | skipped => exact .inl rfl
  | applied bound _ applied => exact .inr ⟨_, bound, Rule.acted_of_apply applied⟩

/-- A token fails only where its rule does. -/
theorem jitter_of_failed_take {fault : Fault}
    (failed : take rules run site token = .error fault) :
    (∃ seed limit, rules.get? token.symbol = some (.jitter seed limit) ∧
        jitterAt seed site ((token.literal.value?.map radians).getD limit) = .error fault) ∨
      run.drawing.graph.nodes[run.drawing.turtle.node]? = none := by
  obtain ⟨drawing, counters⟩ := run
  unfold take at failed
  cases bound : rules.get? token.symbol with
  | none =>
    rw [bound] at failed
    cases failed
  | some rule =>
    rw [bound] at failed
    simp only [apply] at failed
    split at failed
    · cases failed
    · rcases bind_eq_error.mp failed with failed | ⟨after, -, failed⟩
      · rcases Rule.jitter_of_failed_apply failed with ⟨seed, limit, rfl, unbounded⟩ | missing
        · exact .inl ⟨seed, limit, rfl, unbounded⟩
        · exact .inr missing
      · cases failed

/-- A token fails only for a jitter without bounds, or where the turtle has no node. -/
theorem fault_of_take {fault : Fault}
    (failed : take rules run site token = .error fault) :
    fault = .unboundedRange ∨ run.drawing.graph.nodes[run.drawing.turtle.node]? = none := by
  rcases jitter_of_failed_take failed with ⟨_, _, _, failed⟩ | missing
  · exact .inl (Rule.fault_of_jitterAt failed)
  · exact .inr missing

theorem takeAll_cons {offset : Nat} {rest : List Token} :
    takeAll rules number offset (token :: rest) run = .ok next ↔
      ∃ middle, take rules run (siteOf number offset) token = .ok middle ∧
        takeAll rules number (offset + token.written.length) rest middle = .ok next := by
  simp only [takeAll]
  cases take rules run (siteOf number offset) token <;> simp

/-- A run over a text is a run over its first part, then one over the rest. -/
theorem takeAll_append {offset : Nat} {first last : List Token} :
    takeAll rules number offset (first ++ last) run = .ok next ↔
      ∃ middle, takeAll rules number offset first run = .ok middle ∧
        takeAll rules number (offset + (first.flatMap Token.written).length) last middle =
          .ok next := by
  induction first generalizing offset run with
  | nil => simp [takeAll]
  | cons token rest ih =>
    simp only [List.cons_append, takeAll_cons, ih, List.flatMap_cons, List.length_append,
      ← Nat.add_assoc]
    constructor
    · rintro ⟨between, taken, middle, first, last⟩
      exact ⟨middle, ⟨between, taken, first⟩, last⟩
    · rintro ⟨middle, ⟨between, taken, first⟩, last⟩
      exact ⟨between, taken, middle, first, last⟩

/-- What every act of a rule keeps holds throughout a run. -/
theorem takeAll_invariant (property : Drawing → Prop)
    (kept : ∀ {drawing next : Drawing} {kind : RuleKind},
      drawing.Acted kind next → property drawing → property next)
    {offset : Nat} {tokens : List Token} (holds : property run.drawing)
    (done : takeAll rules number offset tokens run = .ok next) : property next.drawing := by
  induction tokens generalizing offset run with
  | nil =>
    cases done
    exact holds
  | cons token rest ih =>
    obtain ⟨after, taken, done⟩ := takeAll_cons.mp done
    refine ih ?_ done
    rcases acted_of_take taken with same | ⟨_, _, acted⟩
    · rwa [same]
    · exact kept acted holds

/-- A run grows the graph and does nothing else to it. -/
theorem takeAll_grown {offset : Nat} {tokens : List Token}
    (done : takeAll rules number offset tokens run = .ok next) :
    run.drawing.graph.Grown next.drawing.graph :=
  takeAll_invariant (fun drawing => run.drawing.graph.Grown drawing.graph)
    (fun acted grown => grown.trans acted.grown) .refl done

/-- A run that fails stops at a token that fails after those before it were taken. -/
theorem fault_of_takeAll {offset : Nat} {tokens : List Token} {fault : Fault}
    (failed : takeAll rules number offset tokens run = .error fault) :
    ∃ before token after reached, tokens = before ++ token :: after ∧
      takeAll rules number offset before run = .ok reached ∧
      ∃ site, take rules reached site token = .error fault := by
  induction tokens generalizing offset run with
  | nil => cases failed
  | cons token rest ih =>
    simp only [takeAll] at failed
    cases taken : take rules run (siteOf number offset) token with
    | error found =>
      rw [taken] at failed
      cases failed
      exact ⟨[], token, rest, run, rfl, rfl, _, taken⟩
    | ok middle =>
      rw [taken] at failed
      obtain ⟨before, last, after, reached, rfl, reaches, stops⟩ := ih failed
      refine ⟨token :: before, last, after, reached, rfl, ?_, stops⟩
      simp only [takeAll, taken]
      exact reaches

end Run

/-- What is left of a finished run. -/
def Run.summary (run : Run) (before : Graph) : RunSummary where
  turtle := run.drawing.turtle
  counters := run.counters
  openBranches := run.drawing.saved.length
  segmentsAdded := run.drawing.graph.segments.size - before.segments.size

section Finished

variable {interpreter after : Interpreter} {script : Script} {turtle : Turtle}
  {graph final : Graph} {summary : RunSummary}

/-- A run finishes when all tokens of its script are taken. -/
theorem Interpreter.run_eq_ok :
    interpreter.run script turtle graph = .ok (after, summary, final) ↔
      ∃ finished, Run.takeAll interpreter.rules interpreter.runs 0 (Token.scan script)
          ⟨⟨turtle, [], graph⟩, {}⟩ = .ok finished ∧
        after = { interpreter with runs := interpreter.runs + 1 } ∧
        summary = finished.summary graph ∧ final = finished.drawing.graph := by
  unfold run
  constructor
  · intro done
    obtain ⟨finished, taken, summed⟩ := bind_eq_ok.mp done
    cases summed
    exact ⟨finished, taken, rfl, rfl, rfl⟩
  · rintro ⟨finished, taken, rfl, rfl, rfl⟩
    exact bind_eq_ok.mpr ⟨finished, taken, rfl⟩

/-- A finished run took all tokens of its script. -/
theorem Interpreter.takeAll_of_run
    (done : interpreter.run script turtle graph = .ok (after, summary, final)) :
    ∃ finished, Run.takeAll interpreter.rules interpreter.runs 0 (Token.scan script)
        ⟨⟨turtle, [], graph⟩, {}⟩ = .ok finished ∧
      finished.drawing.turtle = summary.turtle ∧ finished.drawing.graph = final := by
  obtain ⟨finished, taken, rfl, rfl, rfl⟩ := run_eq_ok.mp done
  exact ⟨finished, taken, rfl, rfl⟩

/-- A run keeps the rules. -/
theorem Interpreter.rules_of_run
    (done : interpreter.run script turtle graph = .ok (after, summary, final)) :
    after.rules = interpreter.rules := by
  obtain ⟨finished, -, rfl, rfl, rfl⟩ := run_eq_ok.mp done
  rfl

/-- A run counts itself. -/
theorem Interpreter.runs_of_run
    (done : interpreter.run script turtle graph = .ok (after, summary, final)) :
    after.runs = interpreter.runs + 1 := by
  obtain ⟨finished, -, rfl, rfl, rfl⟩ := run_eq_ok.mp done
  rfl

end Finished

theorem Interpreter.takeAll_of_failed_run {interpreter : Interpreter} {script : Script}
    {turtle : Turtle} {graph : Graph} {fault : Fault}
    (failed : interpreter.run script turtle graph = .error fault) :
    Run.takeAll interpreter.rules interpreter.runs 0 (Token.scan script)
      ⟨⟨turtle, [], graph⟩, {}⟩ = .error fault := by
  unfold run at failed
  rcases bind_eq_error.mp failed with failed | ⟨finished, -, failed⟩
  · exact failed
  · cases failed

end RoadGrowth
