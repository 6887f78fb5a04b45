import RoadGrowth.Numeric.Decimal

/-!
# Number literals

A literal is an optional sign, then digits with an optional point and at least
one digit beside it, then an optional exponent; or a sign and one of the words
for infinity and NaN. The whole text must be consumed. A decimal is rounded once.
-/

namespace RoadGrowth.Numeric

namespace Literal

/-- Whether a literal starts with a minus sign, and what follows its sign. -/
def takeSign : List Char → Bool × List Char
  | '-' :: rest => (true, rest)
  | '+' :: rest => (false, rest)
  | text => (false, text)

/-- The exponent part of a literal up to its end; an absent one is zero. -/
def exponent? : List Char → Option Int
  | [] => some 0
  | mark :: rest =>
    let (negative, written) := takeSign rest
    if (mark = 'e' ∨ mark = 'E') ∧ written ≠ [] ∧ written.all Char.isDigit then
      some (if negative then -(countOfDigits written : Int) else countOfDigits written)
    else
      none

/-- Digits after a point, if the text starts with one, and the rest. -/
def takeFraction : List Char → List Char × List Char
  | '.' :: rest => (rest.takeWhile Char.isDigit, rest.dropWhile Char.isDigit)
  | text => ([], text)

/-- The number of an unsigned decimal literal. -/
def decimal? (text : List Char) : Option Decimal :=
  let whole := text.takeWhile Char.isDigit
  let (fraction, rest) := takeFraction (text.dropWhile Char.isDigit)
  if whole ++ fraction = [] then
    none
  else
    (exponent? rest).map fun exponent =>
      ⟨countOfDigits (whole ++ fraction), exponent - fraction.length⟩

/-- The value of a word that stands for a number, in any mixture of cases. -/
def word? (text : List Char) : Option Float32 :=
  let lower := text.map Char.toLower
  if lower = "inf".toList ∨ lower = "infinity".toList then
    some (1.0 / 0.0)
  else if lower = "nan".toList then
    some (0.0 / 0.0)
  else
    none

end Literal

/-- The value of a number literal, or nothing if the text is none. -/
def single? (text : List Char) : Option Float32 :=
  let (negative, body) := Literal.takeSign text
  let magnitude := (Literal.word? body).orElse fun _ => (Literal.decimal? body).map Decimal.toSingle
  magnitude.map fun value => if negative then -value else value

/-- The value of a literal for a count below `bound`: digits after an optional plus sign. -/
def count? (bound : Nat) (text : List Char) : Option Nat :=
  let body := match text with
    | '+' :: rest => rest
    | other => other
  if body ≠ [] ∧ body.all Char.isDigit ∧ countOfDigits body < bound then
    some (countOfDigits body)
  else
    none

end RoadGrowth.Numeric
