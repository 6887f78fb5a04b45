import RoadGrowth.Grammar.SymbolTable

/-!
# Grammars

A grammar expands a text in rounds. A round goes over the text once and puts the
text of its production in the place of every symbol that has one. A production sees
only the symbol and the number of the round, so a round works on each symbol alone.
-/

namespace RoadGrowth

/-- A text as a list of symbols. -/
abbrev Script := List Char

/-- What stands for a symbol after a round. -/
abbrev Production := Char → Nat → Script

/-- The production that always gives the same text. -/
def Production.constant (text : Script) : Production := fun _ _ => text

/-- Size of a text in UTF-8. -/
def Script.byteCount (text : Script) : Nat :=
  text.foldl (fun total symbol => total + symbol.utf8Size) 0

/-- A bounded expansion that was given up. -/
structure Overflow where
  start : Script
  bytes : Nat
  /-- Rounds that were carried out. -/
  round : Nat
  rounds : Nat
  limit : Nat
  deriving DecidableEq

/-- The text of an overflow. -/
def Overflow.message (overflow : Overflow) : String :=
  s!"expansion of '{String.ofList overflow.start}' reached {overflow.bytes} bytes after " ++
    s!"{overflow.round} of {overflow.rounds} rounds (limit {overflow.limit})"

/-- A first text, the productions, and the number of rounds. -/
structure Grammar where
  start : Script
  rules : SymbolTable Production
  rounds : Nat

namespace Grammar

/-- What stands for one symbol after a round. -/
def produce (grammar : Grammar) (round : Nat) (symbol : Char) : Script :=
  match grammar.rules.get? symbol with
  | some rule => rule symbol round
  | none => [symbol]

/-- One round. -/
def expandOnce (grammar : Grammar) (round : Nat) (text : Script) : Script :=
  text.flatMap (grammar.produce round)

/-- A number of rounds, the first of which has a given number. -/
def expandFrom (grammar : Grammar) (round : Nat) : (count : Nat) → Script → Script
  | 0, text => text
  | count + 1, text => expandFrom grammar (round + 1) count (grammar.expandOnce round text)

/-- The text after all rounds. -/
def expand (grammar : Grammar) : Script :=
  grammar.expandFrom 0 grammar.rounds grammar.start

/-- A number of rounds, given up after the first one that leaves more than `limit` bytes. -/
def expandFromWithin (grammar : Grammar) (limit round : Nat) :
    (count : Nat) → Script → Except Overflow Script
  | 0, text => .ok text
  | count + 1, text =>
    let next := grammar.expandOnce round text
    let bytes := Script.byteCount next
    if limit < bytes then
      .error ⟨grammar.start, bytes, round + 1, grammar.rounds, limit⟩
    else
      expandFromWithin grammar limit (round + 1) count next

/-- The text after all rounds, if no round leaves more than `limit` bytes. -/
def expandWithin (grammar : Grammar) (limit : Nat) : Except Overflow Script :=
  grammar.expandFromWithin limit 0 grammar.rounds grammar.start

end Grammar

end RoadGrowth
