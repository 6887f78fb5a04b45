import RoadGrowth.Grammar.Basic
import RoadGrowth.Numeric.Literal
import RoadGrowth.Text.Blank

/-!
# Tokens of a script

A token is a symbol, and a literal in parentheses if an opening one follows it at
once. A literal runs to the first closing parenthesis, or to the end of the script
if there is none. Every character of a script belongs to exactly one token.
-/

namespace RoadGrowth

open Numeric

/-- What follows a symbol in its token. -/
inductive Literal where
  | absent
  | closed (text : List Char)
  /-- The script ends inside the parentheses. -/
  | unclosed (text : List Char)
  deriving DecidableEq

/-- A symbol with its literal. -/
structure Token where
  symbol : Char
  literal : Literal
  deriving DecidableEq

namespace Literal

/-- The text of a literal, parentheses included. -/
def written : Literal → List Char
  | absent => []
  | closed text => '(' :: text ++ [')']
  | unclosed text => '(' :: text

/-- The finite number that a literal gives, blanks around it ignored. -/
def value? : Literal → Option Float32
  | absent => none
  | closed text => (single? (Text.trim text)).filter Float32.isFinite
  | unclosed text => (single? (Text.trim text)).filter Float32.isFinite

end Literal

namespace Token

/-- The text of a token. -/
def written (token : Token) : Script := token.symbol :: token.literal.written

/-- What was read of the token that a scan is in. -/
inductive Pending where
  | nothing
  | symbol (symbol : Char)
  /-- A symbol and its literal so far, last character first. -/
  | literal (symbol : Char) (text : List Char)

/-- The tokens of a text after those already read, which are given last one first. -/
def scanFrom (done : List Token) : Pending → Script → List Token
  | .nothing, [] => done.reverse
  | .nothing, symbol :: rest => scanFrom done (.symbol symbol) rest
  | .symbol symbol, [] => (⟨symbol, .absent⟩ :: done).reverse
  | .symbol symbol, next :: rest =>
    if next = '(' then
      scanFrom done (.literal symbol []) rest
    else
      scanFrom (⟨symbol, .absent⟩ :: done) (.symbol next) rest
  | .literal symbol text, [] => (⟨symbol, .unclosed text.reverse⟩ :: done).reverse
  | .literal symbol text, next :: rest =>
    if next = ')' then
      scanFrom (⟨symbol, .closed text.reverse⟩ :: done) .nothing rest
    else
      scanFrom done (.literal symbol (next :: text)) rest

/-- The tokens of a script. -/
def scan (script : Script) : List Token := scanFrom [] .nothing script

end Token

end RoadGrowth
