import RoadGrowth.Turtle.Rule
import RoadGrowth.Turtle.Token

/-!
# Running scripts

An interpreter binds rules to symbols and replays a script token by token. Every
token is a site of its own: the number of the run and the offset in the script.
A token whose symbol has no rule does nothing. On a branch that has ended only the
rules that open and close branches apply.
-/

namespace RoadGrowth

/-- Rules bound to symbols, and the number of runs so far. -/
structure Interpreter where
  rules : SymbolTable Rule := .empty
  runs : UInt32 := 0

/-- What a run counts. -/
structure Counters where
  applied : Nat := 0
  /-- Rules left out because their branch had ended. -/
  skipped : Nat := 0
  started : Nat := 0
  closed : Nat := 0
  /-- Closings with no branch open. -/
  unmatched : Nat := 0
  /-- Most branches open at once. -/
  deepest : Nat := 0
  /-- Branches that ended. -/
  deadEnds : Nat := 0
  deriving DecidableEq

/-- A run in progress. -/
structure Run where
  drawing : Drawing
  counters : Counters

/-- What is left of a finished run besides the graph. -/
structure RunSummary where
  turtle : Turtle
  counters : Counters
  /-- Branches never closed. -/
  openBranches : Nat
  segmentsAdded : Nat
  deriving DecidableEq

/-- The site of an offset in a run. -/
def siteOf (run : UInt32) (offset : Nat) : UInt64 :=
  run.toUInt64 <<< 32 ||| UInt64.ofNat offset

namespace Counters

/-- Count a rule that was applied, given how many turtles were saved before and after it and
whether it ended the branch. -/
def applying (counters : Counters) (kind : RuleKind) (before after : Nat) (ends : Bool) :
    Counters :=
  let counters := { counters with
    applied := counters.applied + 1
    deadEnds := counters.deadEnds + if ends then 1 else 0 }
  match kind with
  | .geometry => counters
  | .branchStart =>
    { counters with
      started := counters.started + 1
      deepest := max counters.deepest after }
  | .branchEnd =>
    if after = before then
      { counters with unmatched := counters.unmatched + 1 }
    else
      { counters with closed := counters.closed + 1 }

end Counters

namespace Run

/-- Apply a rule. -/
def apply (run : Run) (rule : Rule) (site : UInt64) (given : Option Float32) : Except Fault Run :=
  match run with
  | ⟨drawing, counters⟩ => do
    let wasEnded := drawing.turtle.ended
    let before := drawing.saved.length
    if wasEnded && rule.kind = .geometry then
      return ⟨drawing, { counters with skipped := counters.skipped + 1 }⟩
    else
      let drawing ← rule.apply site given drawing
      return ⟨drawing, counters.applying rule.kind before drawing.saved.length
        (!wasEnded && drawing.turtle.ended)⟩

/-- Take a token at a site. -/
def take (rules : SymbolTable Rule) (run : Run) (site : UInt64) (token : Token) : Except Fault Run :=
  match rules.get? token.symbol with
  | some rule => run.apply rule site token.literal.value?
  | none => .ok run

/-- Take tokens, the first of which stands at an offset of the script. -/
def takeAll (rules : SymbolTable Rule) (number : UInt32) :
    (offset : Nat) → List Token → Run → Except Fault Run
  | _, [], run => .ok run
  | offset, token :: rest, run =>
    match take rules run (siteOf number offset) token with
    | .ok run => takeAll rules number (offset + token.written.length) rest run
    | .error fault => .error fault

end Run

namespace Interpreter

/-- Bind a rule to a symbol, in place of the one bound before. -/
def bind (interpreter : Interpreter) (symbol : Char) (rule : Rule) : Interpreter :=
  { interpreter with rules := interpreter.rules.insert symbol rule }

/-- The usual symbols. With a terrain, branches that open in water end at once. -/
def standard (seed : UInt64) (land : Option Terrain) : Interpreter where
  rules := .ofList [
    ('F', .draw), ('+', .turnRight), ('-', .turnLeft), ('[', .openBranch land), (']', .closeBranch),
    ('~', .jitter seed Numeric.eighthPi), ('"', .scaleLength), (';', .scaleAngle)]

/-- Replay a script with a turtle on a graph. -/
def run (interpreter : Interpreter) (script : Script) (turtle : Turtle) (graph : Graph) :
    Except Fault (Interpreter × RunSummary × Graph) := do
  let before := graph.segments.size
  let finished ← Run.takeAll interpreter.rules interpreter.runs 0 (Token.scan script)
    ⟨⟨turtle, [], graph⟩, {}⟩
  let ⟨turtle, saved, graph⟩ := finished.drawing
  let added := graph.segments.size - before
  return ({ interpreter with runs := interpreter.runs + 1 },
    ⟨turtle, finished.counters, saved.length, added⟩, graph)

end Interpreter

end RoadGrowth
