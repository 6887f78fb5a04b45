import Mathlib.Data.List.Basic
import RoadGrowth.Turtle.Token

/-!
# Scanned texts

The tokens of a script are its parts: written one after another they give the script
again, so no character is read twice or left out, inside literals neither. A script
without literals is read one symbol at a time. Two scripts in a row are read one after the
other, unless a literal of the first runs on into the second.
-/

namespace RoadGrowth

/-- Whether the script ends inside the parentheses. -/
def Literal.isUnclosed : Literal → Bool
  | .unclosed _ => true
  | _ => false

/-- The text inside the parentheses. -/
def Literal.text : Literal → List Char
  | absent => []
  | closed text => text
  | unclosed text => text

/-- A literal gives a number if a finite one is written in it. -/
theorem Literal.value?_eq_some_iff {literal : Literal} {value : Float32} :
    literal.value? = some value ↔
      literal ≠ absent ∧ Numeric.single? (Text.trim literal.text) = some value ∧
        value.isFinite := by
  cases literal with
  | absent => simp [value?]
  | closed text => simp [value?, Literal.text, Option.filter_eq_some_iff]
  | unclosed text => simp [value?, Literal.text, Option.filter_eq_some_iff]

namespace Token

/-- The part of a token that was read. -/
def Pending.written : Pending → Script
  | .nothing => []
  | .symbol first => [first]
  | .literal first text => first :: '(' :: text.reverse

/-- By the recursion of the scan: what is read moves from the rest into the pending token, and
from there to the tokens that are done. -/
theorem written_scanFrom (done : List Token) (pending : Pending) (rest : Script) :
    (scanFrom done pending rest).flatMap written =
      done.reverse.flatMap written ++ pending.written ++ rest := by
  fun_induction scanFrom done pending rest with
  | case1 done => simp [Pending.written]
  | case2 done symbol rest ih => simpa [Pending.written] using ih
  | case3 done symbol => simp [Pending.written, written, Literal.written]
  | case4 done symbol rest ih => simpa [Pending.written] using ih
  | case5 done symbol next rest noLiteral ih =>
    simpa [Pending.written, written, Literal.written] using ih
  | case6 done symbol text => simp [Pending.written, written, Literal.written]
  | case7 done symbol text rest ih =>
    simpa [Pending.written, written, Literal.written] using ih
  | case8 done symbol text next rest inside ih => simpa [Pending.written] using ih

/-- The tokens of a script, written one after another, give the script. -/
theorem written_scan (script : Script) : (scan script).flatMap written = script :=
  written_scanFrom [] .nothing script

theorem written_eq_singleton {token : Token} (noLiteral : '(' ∉ token.written) :
    token.written = [token.symbol] := by
  obtain ⟨symbol, literal⟩ := token
  cases literal with
  | absent => rfl
  | closed text => simp [written, Literal.written] at noLiteral
  | unclosed text => simp [written, Literal.written] at noLiteral

/-- Without literals every character is a token of its own. -/
theorem symbols_scan {script : Script} (noLiteral : '(' ∉ script) :
    (scan script).map Token.symbol = script := by
  have single : ∀ token ∈ scan script, token.written = [token.symbol] := by
    intro token member
    refine written_eq_singleton fun opened => noLiteral ?_
    rw [← written_scan script]
    exact List.mem_flatMap.mpr ⟨token, member, opened⟩
  calc (scan script).map Token.symbol
    _ = (scan script).flatMap fun token => [token.symbol] := List.map_eq_flatMap
    _ = (scan script).flatMap written := (List.flatMap_congr single).symm
    _ = script := written_scan script

/-- The tokens already read come first and have no part in the scan. -/
theorem scanFrom_eq_append (done : List Token) (pending : Pending) (rest : Script) :
    scanFrom done pending rest = done.reverse ++ scanFrom [] pending rest := by
  induction rest generalizing done pending with
  | nil => cases pending <;> simp [scanFrom]
  | cons next rest ih =>
    cases pending with
    | nothing => exact ih done (.symbol next)
    | symbol symbol =>
      by_cases opens : next = '('
      · simpa [scanFrom, opens] using ih done (.literal symbol [])
      · have later := ih (⟨symbol, .absent⟩ :: done) (.symbol next)
        simpa [scanFrom, opens, ih [⟨symbol, .absent⟩] (.symbol next)] using later
    | literal symbol text =>
      by_cases closes : next = ')'
      · have later := ih (⟨symbol, .closed text.reverse⟩ :: done) .nothing
        simpa [scanFrom, closes, ih [⟨symbol, .closed text.reverse⟩] .nothing] using later
      · simpa [scanFrom, closes] using ih done (.literal symbol (next :: text))

/-- By the recursion of the scan of the first text: where it ends, the second one is read anew. -/
theorem scanFrom_append (done : List Token) (pending : Pending) (first : Script) {second : Script}
    (closed : ∀ token ∈ scanFrom done pending first, token.literal.isUnclosed = false)
    (separate : second.head? ≠ some '(') :
    scanFrom done pending (first ++ second) = scanFrom done pending first ++ scan second := by
  fun_induction scanFrom done pending first with
  | case1 done => exact scanFrom_eq_append done .nothing second
  | case2 done symbol rest ih => exact ih closed
  | case3 done symbol =>
    cases second with
    | nil => simp [scanFrom, scan]
    | cons next rest =>
      have plain : next ≠ '(' := fun same => separate (congrArg some same)
      rw [List.nil_append, scanFrom, if_neg plain]
      exact scanFrom_eq_append _ (.symbol next) rest
  | case4 done symbol rest ih => exact ih closed
  | case5 done symbol next rest noLiteral ih =>
    rw [List.cons_append, scanFrom, if_neg noLiteral]
    exact ih closed
  | case6 done symbol text =>
    have unclosed := closed ⟨symbol, .unclosed text.reverse⟩ (by simp)
    cases unclosed
  | case7 done symbol text rest ih => exact ih closed
  | case8 done symbol text next rest inside ih =>
    rw [List.cons_append, scanFrom, if_neg inside]
    exact ih closed

/-- Two scripts in a row are read one after the other, if the first ends outside literals and the
second does not start with one. -/
theorem scan_append {first second : Script}
    (closed : ∀ token ∈ scan first, token.literal.isUnclosed = false)
    (separate : second.head? ≠ some '(') : scan (first ++ second) = scan first ++ scan second :=
  scanFrom_append [] .nothing first closed separate

end Token

end RoadGrowth
