import RoadGrowth.Numeric.Shortest

/-!
# Numbers in JSON

A numeral keeps the digits of a number as they are written. Read as a count it
must be a plain integer. Read as a single it is first a double: the leading digits
that fit 64 bits are scaled by one power of ten, and a number beyond the doubles
is refused. A plain integer becomes a single without that detour.
-/

namespace RoadGrowth.Json

open Numeric

/-- A number by its written parts; an empty fraction is an absent one. -/
structure Numeral where
  negative : Bool
  whole : List Char
  fraction : List Char
  /-- Whether the exponent is negative, and its digits. -/
  exponent : Option (Bool × List Char)
  deriving DecidableEq

namespace Numeral

/-- Whether a minus sign comes first, and what follows it. -/
def takeMinus : List Char → Bool × List Char
  | '-' :: rest => (true, rest)
  | text => (false, text)

/-- Digits after a point, if the text starts with one, and the rest. -/
def takeFraction? : List Char → Option (List Char × List Char)
  | '.' :: rest =>
    let digits := rest.takeWhile Char.isDigit
    if digits = [] then none else some (digits, rest.dropWhile Char.isDigit)
  | text => some ([], text)

/-- Sign and digits of an exponent, if the text starts with one, and the rest. -/
def takeExponent? : List Char → Option (Option (Bool × List Char) × List Char)
  | [] => some (none, [])
  | mark :: rest =>
    if mark = 'e' ∨ mark = 'E' then
      let (negative, rest) := match rest with
        | '-' :: rest => (true, rest)
        | '+' :: rest => (false, rest)
        | rest => (false, rest)
      let digits := rest.takeWhile Char.isDigit
      if digits = [] then none else some (some (negative, digits), rest.dropWhile Char.isDigit)
    else
      some (none, mark :: rest)

/-- The numeral a text starts with, and the rest. A leading zero stands alone. -/
def read? (text : List Char) : Option (Numeral × List Char) := do
  let (negative, text) := takeMinus text
  let whole := text.takeWhile Char.isDigit
  if whole = [] ∨ (whole.head? = some '0' ∧ whole ≠ ['0']) then none else
    let (fraction, text) ← takeFraction? (text.dropWhile Char.isDigit)
    let (exponent, text) ← takeExponent? text
    return (⟨negative, whole, fraction, exponent⟩, text)

/-- The text of a numeral, in front of what follows it. The sign of an exponent is always written. -/
def write (numeral : Numeral) (rest : List Char) : List Char :=
  let exponent := match numeral.exponent with
    | none => []
    | some (negative, digits) => 'e' :: (if negative then '-' else '+') :: digits
  (if numeral.negative then ['-'] else []) ++ numeral.whole ++
    (if numeral.fraction = [] then [] else '.' :: numeral.fraction) ++ exponent ++ rest

/-- The numeral of a count. -/
def ofCount (count : Nat) : Numeral := ⟨false, digits count, [], none⟩

/-- The numeral of a positive decimal: positional from `10 ^ -6` to below `10 ^ 13` and
with a power of ten elsewhere. -/
def ofDecimal (negative : Bool) (decimal : Decimal) : Numeral :=
  let order := decimal.order
  if -6 ≤ order ∧ order ≤ 12 then
    let written := decimal.positional
    let fraction := (written.dropWhile (· ≠ '.')).drop 1
    ⟨negative, written.takeWhile (· ≠ '.'), if fraction = [] then ['0'] else fraction, none⟩
  else
    let written := digits decimal.significand
    ⟨negative, written.take 1, written.drop 1, some (order < 0, digits order.natAbs)⟩

/-- The numeral with the fewest digits of a finite single. -/
def ofSingle? (value : Float32) : Option Numeral :=
  if value.isFinite then
    some (ofDecimal (0x80000000 ≤ value.toBits.toNat) (shortestDecimal .toEven value))
  else
    none

/-- The count that a numeral without sign, fraction and exponent stands for. -/
def count? (numeral : Numeral) : Option Nat :=
  if numeral.negative = false ∧ numeral.fraction = [] ∧ numeral.exponent = none then
    some (countOfDigits numeral.whole)
  else
    none

/-- Digits appended to a significand as long as it fits 64 bits, and the digits left. -/
def gather : Nat → List Char → Nat × List Char
  | total, [] => (total, [])
  | total, digit :: rest =>
    let longer := 10 * total + (digit.toNat - '0'.toNat)
    if longer < UInt64.size then gather longer rest else (total, digit :: rest)

/-- A double times a power of ten. The power is one double; a number too small for one
step is divided by `10 ^ 308` first, at most `steps` times. -/
def scaleByTen : (steps : Nat) → Float → Int → Option Float
  | 0, _, _ => some 0.0
  | steps + 1, value, exponent =>
    if exponent.natAbs ≤ 308 then
      let power := doubleOfInt (Nat.pow 10 exponent.natAbs)
      let scaled := if 0 ≤ exponent then value * power else value / power
      if scaled.isInf then none else some scaled
    else if value == 0.0 then
      some value
    else if 0 ≤ exponent then
      none
    else
      scaleByTen steps (value / doubleOfInt (Nat.pow 10 308)) (exponent + 308)

/-- The absolute value of a numeral as a double; nothing beyond the largest double. -/
def magnitude? (numeral : Numeral) : Option Float :=
  let (leading, left) := gather 0 numeral.whole
  let (significand, ignored) := gather leading numeral.fraction
  let shift : Int := left.length - (numeral.fraction.length - ignored.length : Nat)
  match numeral.exponent with
  | none => scaleByTen 4 (doubleOfInt significand) shift
  | some (negative, digits) =>
    let count := countOfDigits digits
    if 0x80000000 ≤ count then
      if significand ≠ 0 ∧ negative = false then none else some 0.0
    else
      scaleByTen 4 (doubleOfInt significand) (if negative then shift - count else shift + count)

/-- The single that a numeral stands for. -/
def single? (numeral : Numeral) : Option Float32 :=
  let count := countOfDigits numeral.whole
  let plain := numeral.fraction = [] ∧ numeral.exponent = none
  if plain ∧ count < (if numeral.negative then 0x8000000000000001 else UInt64.size) then
    some (if numeral.negative then -singleOfCount count else singleOfCount count)
  else
    numeral.magnitude?.map fun value => narrow (if numeral.negative then -value else value)

end Numeral

end RoadGrowth.Json
