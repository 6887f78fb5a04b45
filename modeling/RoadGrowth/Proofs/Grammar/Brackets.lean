import Mathlib.Data.List.Infix
import RoadGrowth.Grammar.Basic

/-!
# Brackets in expanded texts

A text is balanced when each closing bracket has an opening one before it and no
opening one is left over. `enclosed_append` says how the brackets of two texts add up
when one follows the other. A round that keeps brackets and puts balanced texts in
the place of all other symbols therefore keeps the depth at which each symbol stands,
and a text that is balanced stays so for any number of rounds.
-/

namespace RoadGrowth

namespace Script

/-- At no point does a text close more branches than are open, `depth` of them from before. -/
def Enclosed (depth : Nat) (text : Script) : Prop :=
  ∀ before, before <+: text → before.count ']' ≤ before.count '[' + depth

/-- Every branch is opened before it is closed, and every branch is closed. -/
structure Balanced (text : Script) : Prop where
  enclosed : Enclosed 0 text
  closed : text.count ']' = text.count '['

instance (depth : Nat) (text : Script) : Decidable (Enclosed depth text) :=
  decidable_of_iff (∀ before ∈ text.inits, before.count ']' ≤ before.count '[' + depth) <| by
    simp only [List.mem_inits, Enclosed]

instance (text : Script) : Decidable (Balanced text) :=
  decidable_of_iff (Enclosed 0 text ∧ text.count ']' = text.count '[')
    ⟨fun ⟨enclosed, closed⟩ => ⟨enclosed, closed⟩, fun balanced => ⟨balanced.1, balanced.2⟩⟩

variable {first last text : Script} {depth : Nat} {symbol : Char}

@[simp] theorem enclosed_nil : Enclosed depth [] := by
  intro before start
  rw [List.prefix_nil.mp start]
  simp

/-- The second of two texts starts with the branches that the first one leaves open. -/
theorem enclosed_append : Enclosed depth (first ++ last) ↔
    Enclosed depth first ∧
      ∀ left, left + first.count ']' = depth + first.count '[' → Enclosed left last := by
  constructor
  · intro enclosed
    constructor
    · intro before start
      exact enclosed before (start.trans (List.prefix_append first last))
    · intro left count before start
      have bound := enclosed (first ++ before) ((List.prefix_append_right_inj first).mpr start)
      rw [List.count_append, List.count_append] at bound
      omega
  · rintro ⟨inFirst, inLast⟩ before start
    rcases List.prefix_or_prefix_of_prefix start (List.prefix_append first last) with
      within | ⟨more, rfl⟩
    · exact inFirst before within
    · have whole := inFirst first (List.prefix_refl first)
      have bound := inLast (depth + first.count '[' - first.count ']') (by omega) more
        ((List.prefix_append_right_inj first).mp start)
      rw [List.count_append, List.count_append]
      omega

@[simp] theorem enclosed_singleton : Enclosed depth [symbol] ↔ (symbol = ']' → 0 < depth) := by
  constructor
  · rintro enclosed rfl
    have bound := enclosed [']'] (List.prefix_refl _)
    simp at bound
    omega
  · intro opened before start
    rcases List.prefix_cons_iff.mp start with rfl | ⟨rest, rfl, atEnd⟩
    · simp
    · rw [List.prefix_nil.mp atEnd]
      by_cases closing : symbol = ']'
      · have positive := opened closing
        simp [closing]
        omega
      · simp [closing]

theorem enclosed_opening : Enclosed depth ('[' :: text) ↔ Enclosed (depth + 1) text := by
  rw [← List.singleton_append, enclosed_append]
  simp

theorem enclosed_closing :
    Enclosed depth (']' :: text) ↔ ∃ outer, depth = outer + 1 ∧ Enclosed outer text := by
  rw [← List.singleton_append, enclosed_append]
  cases depth with
  | zero => simp
  | succ outer => simp

theorem enclosed_other (noOpening : symbol ≠ '[') (noClosing : symbol ≠ ']') :
    Enclosed depth (symbol :: text) ↔ Enclosed depth text := by
  rw [← List.singleton_append, enclosed_append]
  simp [noOpening, noClosing]

theorem Balanced.enclosed_at (balanced : Balanced text) (depth : Nat) : Enclosed depth text := by
  intro before start
  exact Nat.le_trans (balanced.enclosed before start) (Nat.le_add_right _ _)

theorem balanced_singleton (noOpening : symbol ≠ '[') (noClosing : symbol ≠ ']') :
    Balanced [symbol] where
  enclosed := by simp [noClosing]
  closed := by simp [noOpening, noClosing]

/-! ## Substitution -/

/-- What stands for a symbol has the brackets that the symbol has, or is balanced. -/
structure KeepsBrackets (produce : Char → Script) : Prop where
  opening : produce '[' = ['[']
  closing : produce ']' = [']']
  others : ∀ symbol, symbol ≠ '[' → symbol ≠ ']' → Balanced (produce symbol)

variable {produce : Char → Script}

theorem KeepsBrackets.enclosed (keeps : KeepsBrackets produce)
    (enclosed : Enclosed depth [symbol]) : Enclosed depth (produce symbol) := by
  by_cases opening : symbol = '['
  · rwa [opening, keeps.opening, ← opening]
  · by_cases closing : symbol = ']'
    · rwa [closing, keeps.closing, ← closing]
    · exact (keeps.others symbol opening closing).enclosed_at depth

/-- A symbol and what stands for it open equally many branches more than they close. -/
theorem KeepsBrackets.count_eq (keeps : KeepsBrackets produce) (symbol : Char) :
    (produce symbol).count ']' + [symbol].count '[' =
      (produce symbol).count '[' + [symbol].count ']' := by
  by_cases opening : symbol = '['
  · rw [opening, keeps.opening]
    exact Nat.add_comm _ _
  · by_cases closing : symbol = ']'
    · rw [closing, keeps.closing]
      exact Nat.add_comm _ _
    · rw [(keeps.others symbol opening closing).closed]
      simp [opening, closing]

/-- By induction on the text: each symbol is reached at the depth that it had before. -/
theorem Enclosed.flatMap (keeps : KeepsBrackets produce) (enclosed : Enclosed depth text) :
    Enclosed depth (text.flatMap produce) := by
  induction text generalizing depth with
  | nil => exact enclosed
  | cons symbol rest ih =>
    rw [← List.singleton_append, enclosed_append] at enclosed
    rw [List.flatMap_cons, enclosed_append]
    obtain ⟨first, later⟩ := enclosed
    refine ⟨keeps.enclosed first, fun left count => ih (later left ?_)⟩
    have same := keeps.count_eq symbol
    omega

theorem count_flatMap (keeps : KeepsBrackets produce) (text : Script) :
    (text.flatMap produce).count ']' + text.count '[' =
      (text.flatMap produce).count '[' + text.count ']' := by
  induction text with
  | nil => rfl
  | cons symbol rest ih =>
    have first := keeps.count_eq symbol
    rw [← List.singleton_append, List.flatMap_append, List.flatMap_singleton]
    simp only [List.count_append]
    omega

theorem Balanced.flatMap (keeps : KeepsBrackets produce) (balanced : Balanced text) :
    Balanced (text.flatMap produce) where
  enclosed := balanced.enclosed.flatMap keeps
  closed := by
    have same := count_flatMap keeps text
    have before := balanced.closed
    omega

/-- A balanced text without literals. -/
structure Plain (text : Script) : Prop where
  balanced : Balanced text
  noLiteral : '(' ∉ text

instance (text : Script) : Decidable (Plain text) :=
  decidable_of_iff (Balanced text ∧ '(' ∉ text)
    ⟨fun ⟨balanced, noLiteral⟩ => ⟨balanced, noLiteral⟩, fun plain => ⟨plain.1, plain.2⟩⟩

end Script

namespace Grammar

/-- A grammar of plain fixed texts that has no productions for brackets. -/
structure Plain (grammar : Grammar) : Prop where
  start : Script.Plain grammar.start
  fixed : ∀ symbol rule, grammar.rules.get? symbol = some rule →
    ∃ text, rule = Production.constant text ∧ Script.Plain text
  opening : grammar.rules.get? '[' = none
  closing : grammar.rules.get? ']' = none

variable {grammar : Grammar} {text : Script}

theorem Plain.produce (plain : grammar.Plain) (round : Nat) (symbol : Char) :
    grammar.produce round symbol = [symbol] ∨ Script.Plain (grammar.produce round symbol) := by
  unfold Grammar.produce
  cases bound : grammar.rules.get? symbol with
  | none => exact .inl rfl
  | some rule =>
    obtain ⟨text, rfl, textPlain⟩ := plain.fixed symbol rule bound
    exact .inr textPlain

theorem Plain.keepsBrackets (plain : grammar.Plain) (round : Nat) :
    Script.KeepsBrackets (grammar.produce round) where
  opening := by rw [Grammar.produce, plain.opening]
  closing := by rw [Grammar.produce, plain.closing]
  others := by
    intro symbol noOpening noClosing
    rcases plain.produce round symbol with same | replaced
    · rw [same]
      exact Script.balanced_singleton noOpening noClosing
    · exact replaced.balanced

/-- A round of a plain grammar leaves a plain text plain. -/
theorem Plain.expandOnce (plain : grammar.Plain) (round : Nat) (textPlain : Script.Plain text) :
    Script.Plain (grammar.expandOnce round text) where
  balanced := textPlain.balanced.flatMap (plain.keepsBrackets round)
  noLiteral := by
    intro member
    obtain ⟨symbol, inText, produced⟩ := List.mem_flatMap.mp member
    rcases plain.produce round symbol with same | replaced
    · rw [same, List.mem_singleton] at produced
      exact textPlain.noLiteral (produced ▸ inText)
    · exact replaced.noLiteral produced

theorem Plain.expandFrom (plain : grammar.Plain) (round count : Nat)
    (textPlain : Script.Plain text) : Script.Plain (grammar.expandFrom round count text) := by
  induction count generalizing round text with
  | zero => exact textPlain
  | succ count ih => exact ih (round + 1) (plain.expandOnce round textPlain)

/-- What a plain grammar expands to is plain, for any number of rounds. -/
theorem Plain.expand (plain : grammar.Plain) : Script.Plain grammar.expand :=
  plain.expandFrom 0 grammar.rounds plain.start

end Grammar

end RoadGrowth
