import Mathlib.Data.List.Chain
import RoadGrowth.Proofs.Turtle.Tokens
import RoadGrowth.Turtle.Interpreter

/-!
# Spelled tokens

Tokens are spelled when they can be read back: no literal has a closing parenthesis inside,
a token without a literal does not stand before an opening one, and only the last literal
may be left open. A script is the text of exactly one list of spelled tokens, and that list
is what is scanned. A run takes its tokens at positions that rise from the start of the
script to its end. What is written in a literal decides on the number that its rule is given
and on nothing else.
-/

namespace RoadGrowth

/-- The same literal with nothing inside the parentheses. -/
def Literal.emptied : Literal → Literal
  | absent => absent
  | closed _ => closed []
  | unclosed _ => unclosed []

@[simp] theorem Literal.isUnclosed_emptied (literal : Literal) :
    literal.emptied.isUnclosed = literal.isUnclosed := by
  cases literal <;> rfl

@[simp] theorem Literal.emptied_eq_absent {literal : Literal} :
    literal.emptied = absent ↔ literal = absent := by
  cases literal <;> simp [emptied]

namespace Token

/-- The same token with nothing inside the parentheses of its literal. -/
def emptied (token : Token) : Token := ⟨token.symbol, token.literal.emptied⟩

/-- A token ends where another one begins. -/
@[mk_iff] structure EndsBefore (token next : Token) : Prop where
  closed : token.literal.isUnclosed = false
  separate : token.literal = .absent → next.symbol ≠ '('

/-- Tokens that can be read back from their text. -/
structure Spelled (tokens : List Token) : Prop where
  inside : ∀ token ∈ tokens, ')' ∉ token.literal.text
  chained : tokens.IsChain EndsBefore

/-! ## Scanning the first token -/

variable {symbol : Char} {text rest script : Script} {tokens : List Token} {token : Token}

theorem scan_absent (separate : rest.head? ≠ some '(') :
    scan (symbol :: rest) = ⟨symbol, .absent⟩ :: scan rest := by
  have closed : ∀ token ∈ scan [symbol], token.literal.isUnclosed = false := by
    simp [scan, scanFrom, Literal.isUnclosed]
  exact scan_append closed separate

/-- Inside a literal only a closing parenthesis is not a part of it. -/
theorem scanFrom_literal (done : List Token) (read : List Char) (inside : ')' ∉ text) :
    scanFrom done (.literal symbol read) (text ++ rest) =
      scanFrom done (.literal symbol (text.reverse ++ read)) rest := by
  induction text generalizing read with
  | nil => rfl
  | cons next text ih =>
    obtain ⟨plain, inside⟩ := List.ne_and_not_mem_of_not_mem_cons inside
    simpa [scanFrom, plain.symm] using ih (next :: read) inside

/-- A literal runs to the first closing parenthesis. -/
theorem scan_closed (inside : ')' ∉ text) :
    scan (symbol :: '(' :: (text ++ ')' :: rest)) = ⟨symbol, .closed text⟩ :: scan rest := by
  calc scan (symbol :: '(' :: (text ++ ')' :: rest))
    _ = scanFrom [] (.literal symbol []) (text ++ ')' :: rest) := by simp [scan, scanFrom]
    _ = scanFrom [] (.literal symbol (text.reverse ++ [])) (')' :: rest) :=
      scanFrom_literal [] [] inside
    _ = scanFrom [⟨symbol, .closed text⟩] .nothing rest := by simp [scanFrom]
    _ = ⟨symbol, .closed text⟩ :: scan rest := scanFrom_eq_append _ _ _

/-- Without a closing parenthesis a literal runs to the end of the script. -/
theorem scan_unclosed (inside : ')' ∉ text) :
    scan (symbol :: '(' :: text) = [⟨symbol, .unclosed text⟩] := by
  calc scan (symbol :: '(' :: text)
    _ = scanFrom [] (.literal symbol []) (text ++ []) := by simp [scan, scanFrom]
    _ = scanFrom [] (.literal symbol (text.reverse ++ [])) [] := scanFrom_literal [] [] inside
    _ = [⟨symbol, .unclosed text⟩] := by simp [scanFrom]

/-! ## Reading back -/

theorem head?_written (tokens : List Token) :
    (tokens.flatMap written).head? = tokens.head?.map Token.symbol := by
  cases tokens <;> rfl

theorem spelled_cons : Spelled (token :: tokens) ↔
    ')' ∉ token.literal.text ∧ (∀ next ∈ tokens.head?, token.EndsBefore next) ∧
      Spelled tokens := by
  constructor
  · rintro ⟨inside, chained⟩
    obtain ⟨first, inside⟩ := List.forall_mem_cons.mp inside
    obtain ⟨ends, chained⟩ := List.isChain_cons.mp chained
    exact ⟨first, ends, inside, chained⟩
  · rintro ⟨first, ends, inside, chained⟩
    exact ⟨List.forall_mem_cons.mpr ⟨first, inside⟩, List.isChain_cons.mpr ⟨ends, chained⟩⟩

/-- Spelled tokens are scanned from their text. -/
theorem scan_written (spelled : Spelled tokens) : scan (tokens.flatMap written) = tokens := by
  induction tokens with
  | nil => rfl
  | cons token tokens ih =>
    obtain ⟨inside, ends, rest⟩ := spelled_cons.mp spelled
    obtain ⟨symbol, literal⟩ := token
    cases literal with
    | absent =>
      have separate : (tokens.flatMap written).head? ≠ some '(' := by
        rw [head?_written, Ne, Option.map_eq_some_iff]
        rintro ⟨next, first, opening⟩
        exact (ends next first).separate rfl opening
      exact (scan_absent separate).trans (congrArg _ (ih rest))
    | closed text =>
      change ')' ∉ text at inside
      have first : scan (symbol :: '(' :: (text ++ ')' :: tokens.flatMap written)) =
          ⟨symbol, .closed text⟩ :: scan (tokens.flatMap written) := scan_closed inside
      rw [ih rest] at first
      simpa [written, Literal.written] using first
    | unclosed text =>
      change ')' ∉ text at inside
      cases tokens with
      | nil => simpa [written, Literal.written] using scan_unclosed inside
      | cons next tokens => cases (ends next rfl).closed

/-- By recursion on the length of the script: it is empty, or it starts with a token without a
literal, with a closed one or with one that is left open. -/
theorem spelled_scan (script : Script) : Spelled (scan script) := by
  match script with
  | [] => exact ⟨by simp [scan, scanFrom], .nil⟩
  | symbol :: rest =>
    by_cases literal : rest.head? = some '('
    · obtain ⟨body, rfl⟩ := List.head?_eq_some_iff.mp literal
      by_cases closes : ')' ∈ body
      · obtain ⟨text, after, rfl, inside⟩ := List.eq_append_cons_of_mem closes
        rw [scan_closed inside, spelled_cons]
        exact ⟨inside, fun next _ => ⟨rfl, by simp⟩, spelled_scan after⟩
      · rw [scan_unclosed closes, spelled_cons]
        exact ⟨closes, by simp, by simp, .nil⟩
    · rw [scan_absent literal, spelled_cons]
      refine ⟨by simp [Literal.text], fun next first => ⟨rfl, fun _ opening => ?_⟩,
        spelled_scan rest⟩
      have start := head?_written (scan rest)
      rw [written_scan, Option.mem_def.mp first, Option.map_some, opening] at start
      exact literal start
termination_by script.length

theorem scan_eq_iff : scan script = tokens ↔ Spelled tokens ∧ tokens.flatMap written = script := by
  constructor
  · rintro rfl
    exact ⟨spelled_scan script, written_scan script⟩
  · rintro ⟨spelled, rfl⟩
    exact scan_written spelled

theorem endsBefore_emptied {next : Token} :
    token.emptied.EndsBefore next.emptied ↔ token.EndsBefore next := by
  simp [endsBefore_iff, emptied]

theorem isChain_emptied :
    (tokens.map emptied).IsChain EndsBefore ↔ tokens.IsChain EndsBefore := by
  rw [List.isChain_map]
  simp only [endsBefore_emptied]

/-- Whatever is written inside the parentheses, tokens stay separate. -/
theorem Spelled.of_emptied_eq {others : List Token} (spelled : Spelled tokens)
    (same : others.map emptied = tokens.map emptied)
    (inside : ∀ token ∈ others, ')' ∉ token.literal.text) : Spelled others where
  inside := inside
  chained := by
    rw [← isChain_emptied, same, isChain_emptied]
    exact spelled.chained

/-! ## Positions -/

/-- The positions between tokens, from an offset before the first one up to the end of the last. -/
def positions : (offset : Nat) → List Token → List Nat
  | offset, [] => [offset]
  | offset, token :: rest => offset :: positions (offset + token.written.length) rest

theorem head?_positions (offset : Nat) (tokens : List Token) :
    (positions offset tokens).head? = some offset := by
  cases tokens <;> rfl

theorem positions_ne_nil (offset : Nat) (tokens : List Token) : positions offset tokens ≠ [] := by
  cases tokens <;> simp [positions]

theorem getLast?_positions (offset : Nat) (tokens : List Token) :
    (positions offset tokens).getLast? = some (offset + (tokens.flatMap written).length) := by
  induction tokens generalizing offset with
  | nil => simp [positions]
  | cons token rest ih =>
    rw [positions, List.getLast?_cons_of_ne_nil (positions_ne_nil _ rest), ih, List.flatMap_cons,
      List.length_append, Nat.add_assoc]

theorem le_of_mem_positions {offset position : Nat} (member : position ∈ positions offset tokens) :
    offset ≤ position := by
  induction tokens generalizing offset with
  | nil => exact (List.mem_singleton.mp member).ge
  | cons token rest ih =>
    rcases List.mem_cons.mp member with same | later
    · exact same.ge
    · exact (Nat.le_add_right _ _).trans (ih later)

theorem positions_rise (offset : Nat) (tokens : List Token) :
    (positions offset tokens).Pairwise (· < ·) := by
  induction tokens generalizing offset with
  | nil => exact List.pairwise_singleton _ _
  | cons token rest ih =>
    refine List.pairwise_cons.mpr ⟨fun position later => ?_, ih _⟩
    have progress : 0 < token.written.length := Nat.succ_pos _
    have above := le_of_mem_positions later
    omega

/-- At its position each token stands in the text. -/
theorem written_prefix_drop (before : Script) {position : Nat}
    (member : (position, token) ∈ (positions before.length tokens).zip tokens) :
    token.written <+: (before ++ tokens.flatMap written).drop position := by
  induction tokens generalizing before with
  | nil => simp at member
  | cons first rest ih =>
    rw [positions, List.zip_cons_cons, ← List.length_append] at member
    rw [List.flatMap_cons]
    rcases List.mem_cons.mp member with here | later
    · obtain ⟨rfl, rfl⟩ := Prod.mk.inj here
      rw [List.drop_left]
      exact List.prefix_append _ _
    · rw [← List.append_assoc]
      exact ih (before ++ first.written) later

end Token

namespace Run

variable {rules : SymbolTable Rule} {number : UInt32} {run : Run} {site : UInt64}

/-- A run takes each token at its position. -/
theorem takeAll_eq_foldlM (offset : Nat) (tokens : List Token) :
    takeAll rules number offset tokens run =
      ((Token.positions offset tokens).zip tokens).foldlM
        (fun run stop => take rules run (siteOf number stop.1) stop.2) run := by
  induction tokens generalizing offset run with
  | nil => rfl
  | cons token rest ih =>
    rw [takeAll, Token.positions, List.zip_cons_cons, List.foldlM_cons]
    cases take rules run (siteOf number offset) token with
    | ok next => exact ih _
    | error fault => rfl

/-- A literal that gives no number is as good as none. -/
theorem take_of_value?_eq_none {token : Token} (none : token.literal.value? = none) :
    take rules run site token = take rules run site ⟨token.symbol, .absent⟩ := by
  unfold take
  rw [none]
  rfl

end Run

/-- All that scanning does to a script. A run takes its tokens at positions that begin at the
start of the script, rise, and stop at its end; at its position each token stands in the script. Of
all lists of tokens, what is scanned is the one that is spelled and has the script as its text: so
spelled tokens, and no others, are scanned from their text. The text inside parentheses can be
exchanged for any other without a closing one, and the same symbols are scanned. A literal gives a
number if a finite one is written in it, and otherwise its token is taken like one without a
literal. -/
theorem Token.scan_lossless (script : Script) :
    (∀ (rules : SymbolTable Rule) (number : UInt32) (run : Run),
      Run.takeAll rules number 0 (scan script) run =
        ((positions 0 (scan script)).zip (scan script)).foldlM
          (fun run stop => Run.take rules run (siteOf number stop.1) stop.2) run) ∧
    ((positions 0 (scan script)).head? = some 0 ∧
      (positions 0 (scan script)).Pairwise (· < ·) ∧
      (positions 0 (scan script)).getLast? = some script.length) ∧
    (∀ position token, (position, token) ∈ (positions 0 (scan script)).zip (scan script) →
      token.written <+: script.drop position) ∧
    (∀ tokens, scan script = tokens ↔ Spelled tokens ∧ tokens.flatMap written = script) ∧
    (∀ others : List Token, others.map emptied = (scan script).map emptied →
      (∀ token ∈ others, ')' ∉ token.literal.text) →
        scan (others.flatMap written) = others ∧
          others.map symbol = (scan script).map symbol) ∧
    ∀ token ∈ scan script,
      (∀ value, token.literal.value? = some value ↔ token.literal ≠ .absent ∧
        Numeric.single? (Text.trim token.literal.text) = some value ∧ value.isFinite) ∧
      (token.literal.value? = none → ∀ (rules : SymbolTable Rule) (run : Run) (site : UInt64),
        Run.take rules run site token = Run.take rules run site ⟨token.symbol, .absent⟩) := by
  refine ⟨fun rules number run => Run.takeAll_eq_foldlM 0 _,
    ⟨head?_positions 0 _, positions_rise 0 _, ?_⟩, fun position token member => ?_,
    fun tokens => scan_eq_iff, fun others same inside => ⟨?_, ?_⟩, fun token _ =>
      ⟨fun value => Literal.value?_eq_some_iff, fun none rules run site =>
        Run.take_of_value?_eq_none none⟩⟩
  · rw [getLast?_positions, written_scan, Nat.zero_add]
  · have stands := written_prefix_drop [] member
    rwa [List.nil_append, written_scan] at stands
  · exact scan_written ((spelled_scan script).of_emptied_eq same inside)
  · have symbols := congrArg (List.map symbol) same
    rwa [List.map_map, List.map_map] at symbols

/-- Opening parentheses belong to the literal that they stand in; one that follows a literal is a
symbol, and one at the end of the script opens a literal without text. -/
example : Token.scan "F(4((5)(2)+(".toList =
    [⟨'F', .closed "4((5".toList⟩, ⟨'(', .absent⟩, ⟨'2', .absent⟩, ⟨')', .absent⟩,
      ⟨'+', .unclosed []⟩] := by
  decide

end RoadGrowth
