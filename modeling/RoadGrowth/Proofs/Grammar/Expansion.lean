import RoadGrowth.Network.Settings
import RoadGrowth.Proofs.Grammar.SymbolTable

/-!
# Expansion symbol by symbol

A round goes over the whole text before the next round begins. One may as well follow a
single symbol through all rounds before looking at the next one: `expandFrom_eq_flatMap`
says that both orders give the same text. So a text expands part by part, and what becomes
of a symbol depends neither on its neighbors nor on what a round has put in other places.
If the number of a round does not matter, rounds can be interrupted and taken up again.
-/

namespace RoadGrowth.Grammar

variable {grammar : Grammar}

/-- What a symbol becomes in a number of rounds, the first of which has a given number. The symbols
of its production are followed through all later rounds one after the other. -/
def offspring (grammar : Grammar) (round : Nat) : (count : Nat) → Char → Script
  | 0, symbol => [symbol]
  | count + 1, symbol =>
    (grammar.produce round symbol).flatMap (offspring grammar (round + 1) count)

/-- By induction on the rounds, for every text at once: the text that the first round leaves is
followed through the later ones. -/
theorem expandFrom_eq_flatMap (grammar : Grammar) (round count : Nat) (text : Script) :
    grammar.expandFrom round count text = text.flatMap (grammar.offspring round count) := by
  induction count generalizing round text with
  | zero => exact (List.flatMap_singleton' text).symm
  | succ count ih =>
    calc grammar.expandFrom (round + 1) count (grammar.expandOnce round text)
      _ = (text.flatMap (grammar.produce round)).flatMap (grammar.offspring (round + 1) count) :=
        ih (round + 1) _
      _ = text.flatMap (grammar.offspring round (count + 1)) := List.flatMap_assoc

/-- The later of two groups of rounds goes on with the text that the first one leaves. -/
theorem expandFrom_add (grammar : Grammar) (round first later : Nat) (text : Script) :
    grammar.expandFrom round (first + later) text =
      grammar.expandFrom (round + first) later (grammar.expandFrom round first text) := by
  induction first generalizing round text with
  | zero => rw [Nat.zero_add, expandFrom, Nat.add_zero]
  | succ first ih =>
    rw [Nat.add_right_comm, expandFrom, expandFrom, ih, Nat.add_right_comm, Nat.add_assoc]

theorem expandFrom_of_rules {other : Grammar} (same : grammar.rules = other.rules)
    (round count : Nat) (text : Script) :
    grammar.expandFrom round count text = other.expandFrom round count text := by
  have produced : grammar.produce = other.produce := by
    funext round symbol
    rw [produce, produce, same]
  induction count generalizing round text with
  | zero => rfl
  | succ count ih =>
    rw [expandFrom, expandFrom, expandOnce, expandOnce, produced]
    exact ih (round + 1) _

/-- What a number of rounds does to a text is a matter of the productions alone. -/
theorem expand_restarted (grammar : Grammar) (start : Script) (rounds : Nat) :
    { grammar with start, rounds }.expand = grammar.expandFrom 0 rounds start := by
  have same : { grammar with start, rounds }.rules = grammar.rules := rfl
  exact expandFrom_of_rules same 0 rounds start

/-! ## Fixed texts -/

/-- Each production always gives the same text. -/
def Fixed (grammar : Grammar) : Prop :=
  ∀ symbol rule, grammar.rules.get? symbol = some rule → ∃ text, rule = Production.constant text

theorem fixed_grammar (settings : GrammarSettings) : settings.grammar.Fixed := by
  intro symbol rule bound
  rw [GrammarSettings.grammar, SymbolTable.get?_map] at bound
  obtain ⟨text, -, rfl⟩ := Option.map_eq_some_iff.mp bound
  exact ⟨text, rfl⟩

theorem Fixed.produce_eq (fixed : grammar.Fixed) (round other : Nat) :
    grammar.produce round = grammar.produce other := by
  funext symbol
  unfold produce
  cases bound : grammar.rules.get? symbol with
  | none => rfl
  | some rule =>
    obtain ⟨text, rfl⟩ := fixed symbol rule bound
    rfl

theorem Fixed.expandFrom_eq (fixed : grammar.Fixed) (round other count : Nat) (text : Script) :
    grammar.expandFrom round count text = grammar.expandFrom other count text := by
  induction count generalizing round other text with
  | zero => rfl
  | succ count ih =>
    rw [expandFrom, expandFrom, expandOnce, fixed.produce_eq round other]
    exact ih (round + 1) (other + 1) _

/-- Texts that stand side by side expand side by side, so a text becomes what its symbols become,
each followed on its own. With fixed texts an expansion can be interrupted after any round and taken
up again from the text that it has reached. -/
theorem expand_contextFree (grammar : Grammar) :
    (∀ first last : Script, { grammar with start := first ++ last }.expand =
      { grammar with start := first }.expand ++ { grammar with start := last }.expand) ∧
    grammar.expand =
      grammar.start.flatMap (fun symbol => { grammar with start := [symbol] }.expand) ∧
    (∀ symbol, { grammar with start := [symbol] }.expand =
      grammar.offspring 0 grammar.rounds symbol) ∧
    (grammar.Fixed → ∀ first later : Nat, { grammar with rounds := first + later }.expand =
      { grammar with start := { grammar with rounds := first }.expand, rounds := later }.expand) := by
  have single : ∀ symbol, { grammar with start := [symbol] }.expand =
      grammar.offspring 0 grammar.rounds symbol := by
    intro symbol
    rw [expand_restarted, expandFrom_eq_flatMap, List.flatMap_singleton]
  refine ⟨fun first last => ?_, ?_, single, fun fixed first later => ?_⟩
  · simp only [expand_restarted, expandFrom_eq_flatMap, List.flatMap_append]
  · simp only [single]
    exact expandFrom_eq_flatMap grammar 0 grammar.rounds grammar.start
  · simp only [expand_restarted]
    rw [expandFrom_add, fixed.expandFrom_eq (0 + first) 0]

/-- Three rounds and four more of a growth whose lengths are Fibonacci numbers. -/
theorem expand_contextFree_of_algae :
    ∃ algae : Grammar, algae.Fixed ∧
      { algae with rounds := 3 }.expand = "ABAAB".toList ∧
      { algae with rounds := 3 + 4 }.expand =
        { algae with start := "ABAAB".toList, rounds := 4 }.expand ∧
      { algae with rounds := 3 + 4 }.expand.length = 34 := by
  let settings : GrammarSettings :=
    ⟨['A'], .ofList [('A', "AB".toList), ('B', "A".toList)], 7⟩
  have third : { settings.grammar with rounds := 3 }.expand = "ABAAB".toList := by decide +kernel
  have length : { settings.grammar with rounds := 3 + 4 }.expand.length = 34 := by decide +kernel
  obtain ⟨-, -, -, interrupted⟩ := expand_contextFree settings.grammar
  have later := interrupted (fixed_grammar settings) 3 4
  rw [third] at later
  exact ⟨settings.grammar, fixed_grammar settings, third, later, length⟩

end RoadGrowth.Grammar
