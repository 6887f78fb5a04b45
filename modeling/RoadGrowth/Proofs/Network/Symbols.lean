import RoadGrowth.Network.Growth
import RoadGrowth.Proofs.Turtle.Branching

/-!
# The symbols in use

Scripts are run with one of two tables of rules: the usual one, or that of a network,
which adds the rules that look at the population. In both, brackets open and close
branches, and `F` and `S` are the only symbols that may draw. The grammars that scripts
usually come from leave brackets alone and put balanced texts in the place of symbols.
-/

namespace RoadGrowth

/-! ## Rule tables -/

/-- The rule tables in use. -/
inductive UsualRules : SymbolTable Rule → Prop where
  | standard (seed : UInt64) (land : Option Terrain) :
    UsualRules (Interpreter.standard seed land).rules
  | network (settings : NetworkSettings) (terrain : Terrain) :
    UsualRules (settings.interpreter terrain).rules

/-- The rules of a network open and close branches at brackets. -/
theorem BracketRules.network (settings : NetworkSettings) (terrain : Terrain) :
    BracketRules (settings.interpreter terrain).rules := by
  refine BracketRules.insert (BracketRules.insert (BracketRules.insert
    (BracketRules.insert (BracketRules.standard _ _) ?_ ?_ ?_) ?_ ?_ ?_) ?_ ?_ ?_) ?_ ?_ ?_
  all_goals first | decide | rfl

/-- Whether a rule draws a segment. -/
def Rule.draws : Rule → Bool
  | .draw => true
  | .span .. => true
  | _ => false

/-- The symbols `F` and `S` draw where they are bound, and no other symbol does. -/
def DrawingSymbols (rules : SymbolTable Rule) : Prop :=
  ∀ symbol rule, rules.get? symbol = some rule →
    (rule.draws = true ↔ symbol = 'F' ∨ symbol = 'S')

namespace DrawingSymbols

variable {rules : SymbolTable Rule}

theorem insert (drawing : DrawingSymbols rules) {symbol : Char} {rule : Rule}
    (fits : rule.draws = true ↔ symbol = 'F' ∨ symbol = 'S') :
    DrawingSymbols (rules.insert symbol rule) := by
  intro other found bound
  rw [SymbolTable.get?_insert] at bound
  split at bound
  · rename_i same
    cases bound
    rwa [same]
  · exact drawing other found bound

theorem standard (seed : UInt64) (land : Option Terrain) :
    DrawingSymbols (Interpreter.standard seed land).rules := by
  intro symbol rule bound
  have member := SymbolTable.mem_of_get?_ofList bound
  simp only [List.mem_cons, Prod.mk.injEq, List.not_mem_nil, or_false] at member
  rcases member with ⟨rfl, rfl⟩ | ⟨rfl, rfl⟩ | ⟨rfl, rfl⟩ | ⟨rfl, rfl⟩ | ⟨rfl, rfl⟩ | ⟨rfl, rfl⟩ |
    ⟨rfl, rfl⟩ | ⟨rfl, rfl⟩ <;> simp [Rule.draws]

theorem network (settings : NetworkSettings) (terrain : Terrain) :
    DrawingSymbols (settings.interpreter terrain).rules := by
  refine (((standard _ _).insert ?_).insert ?_).insert ?_ |>.insert ?_
  all_goals simp [Rule.draws]

end DrawingSymbols

namespace UsualRules

variable {rules : SymbolTable Rule}

theorem brackets (usual : UsualRules rules) : BracketRules rules := by
  cases usual with
  | standard seed land => exact .standard seed land
  | network settings terrain => exact .network settings terrain

theorem drawing (usual : UsualRules rules) : DrawingSymbols rules := by
  cases usual with
  | standard seed land => exact .standard seed land
  | network settings terrain => exact .network settings terrain

end UsualRules

/-! ## Grammars -/

/-- Grammar settings are plain when each of their texts is. -/
theorem GrammarSettings.plain_grammar {settings : GrammarSettings}
    (start : Script.Plain settings.start)
    (texts : ∀ entry ∈ settings.rules.entries,
      entry.1 ≠ '[' ∧ entry.1 ≠ ']' ∧ Script.Plain entry.2) : settings.grammar.Plain := by
  have listed : ∀ symbol rule, settings.grammar.rules.get? symbol = some rule →
      symbol ≠ '[' ∧ symbol ≠ ']' ∧ ∃ text, rule = Production.constant text ∧ Script.Plain text := by
    intro symbol rule bound
    rw [GrammarSettings.grammar, SymbolTable.get?_map] at bound
    obtain ⟨text, found, rfl⟩ := Option.map_eq_some_iff.mp bound
    obtain ⟨noOpening, noClosing, plain⟩ := texts _ (SymbolTable.mem_entries_of_get? found)
    exact ⟨noOpening, noClosing, text, rfl, plain⟩
  refine ⟨start, fun symbol rule bound => (listed symbol rule bound).2.2, ?_, ?_⟩
  · refine Option.eq_none_iff_forall_ne_some.mpr fun rule bound => ?_
    exact (listed '[' rule bound).1 rfl
  · refine Option.eq_none_iff_forall_ne_some.mpr fun rule bound => ?_
    exact (listed ']' rule bound).2.1 rfl

/-- The usual grammars are plain. -/
theorem GrammarSettings.plain_usual :
    GrammarSettings.highway.grammar.Plain ∧ GrammarSettings.streets.grammar.Plain :=
  ⟨plain_grammar (by decide +kernel) (by decide +kernel),
    plain_grammar (by decide +kernel) (by decide +kernel)⟩

end RoadGrowth
