import RoadGrowth.Json.Numeral

/-!
# Lexemes of JSON

A text is cut into marks, words, numerals and strings; blanks between them are
dropped. A string may escape half of a surrogate pair without its other half. It
is still well formed, but it has no content.
-/

namespace RoadGrowth.Json

/-- The smallest parts of a JSON text. -/
inductive Lexeme where
  | openArray
  | closeArray
  | openObject
  | closeObject
  | comma
  | colon
  | null
  | bool (value : Bool)
  | number (numeral : Numeral)
  | string (content : Option (List Char))
  deriving DecidableEq

/-- A piece of a string: a character, or a unit given by four hexadecimal digits. -/
inductive Piece where
  | plain (symbol : Char)
  | unit (value : Nat)
  deriving DecidableEq

/-- The value of a hexadecimal digit. -/
def hexadecimal? (symbol : Char) : Option Nat :=
  if symbol.isDigit then
    some (symbol.toNat - '0'.toNat)
  else if 'a' ≤ symbol ∧ symbol ≤ 'f' then
    some (symbol.toNat - 'a'.toNat + 10)
  else if 'A' ≤ symbol ∧ symbol ≤ 'F' then
    some (symbol.toNat - 'A'.toNat + 10)
  else
    none

/-- The unit of four hexadecimal digits. -/
def unit? (first second third fourth : Char) : Option Nat := do
  let a ← hexadecimal? first
  let b ← hexadecimal? second
  let c ← hexadecimal? third
  let d ← hexadecimal? fourth
  return ((a * 16 + b) * 16 + c) * 16 + d

/-- The character that follows a backslash to stand for another one. -/
def escaped? : Char → Option Char
  | '"' => some '"'
  | '\\' => some '\\'
  | '/' => some '/'
  | 'b' => some '\x08'
  | 'f' => some '\x0c'
  | 'n' => some '\n'
  | 'r' => some '\r'
  | 't' => some '\t'
  | _ => none

/-- The pieces of a string up to its closing quote, last piece first, and the rest. -/
def pieces? (done : List Piece) : List Char → Option (List Piece × List Char)
  | [] => none
  | '"' :: rest => some (done, rest)
  | '\\' :: 'u' :: first :: second :: third :: fourth :: rest =>
    match unit? first second third fourth with
    | some value => pieces? (.unit value :: done) rest
    | none => none
  | '\\' :: symbol :: rest =>
    match escaped? symbol with
    | some meant => pieces? (.plain meant :: done) rest
    | none => none
  | symbol :: rest =>
    if symbol.toNat < 0x20 ∨ symbol = '\\' then none else pieces? (.plain symbol :: done) rest

/-- The characters of pieces; nothing if a half of a surrogate pair stands alone. -/
def content? (done : List Char) : List Piece → Option (List Char)
  | [] => some done.reverse
  | .plain symbol :: rest => content? (symbol :: done) rest
  | .unit high :: .unit low :: rest =>
    if 0xd800 ≤ high ∧ high < 0xdc00 then
      if 0xdc00 ≤ low ∧ low < 0xe000 then
        content? (Char.ofNat (0x10000 + (high - 0xd800) * 0x400 + (low - 0xdc00)) :: done) rest
      else
        none
    else if 0xdc00 ≤ high ∧ high < 0xe000 then
      none
    else
      content? (Char.ofNat high :: done) (.unit low :: rest)
  | .unit value :: rest =>
    if 0xd800 ≤ value ∧ value < 0xe000 then none else content? (Char.ofNat value :: done) rest

namespace Lexeme

/-- The lexeme that a text starts with, and the rest. -/
def read? : List Char → Option (Lexeme × List Char)
  | '[' :: rest => some (.openArray, rest)
  | ']' :: rest => some (.closeArray, rest)
  | '\x7b' :: rest => some (.openObject, rest)
  | '\x7d' :: rest => some (.closeObject, rest)
  | ',' :: rest => some (.comma, rest)
  | ':' :: rest => some (.colon, rest)
  | 'n' :: 'u' :: 'l' :: 'l' :: rest => some (.null, rest)
  | 't' :: 'r' :: 'u' :: 'e' :: rest => some (.bool true, rest)
  | 'f' :: 'a' :: 'l' :: 's' :: 'e' :: rest => some (.bool false, rest)
  | '"' :: rest => (pieces? [] rest).map fun (done, rest) => (.string (content? [] done.reverse), rest)
  | text => (Numeral.read? text).map fun (numeral, rest) => (.number numeral, rest)

/-- Whether a character may stand between lexemes. -/
def isGap (symbol : Char) : Bool :=
  symbol = ' ' || symbol = '\n' || symbol = '\t' || symbol = '\r'

/-- The lexemes of a text after those already read, which are given last one first.
Every lexeme takes a character, so the length of the text is enough `fuel`. -/
def scan? (done : List Lexeme) : (fuel : Nat) → List Char → Option (List Lexeme)
  | 0, text => if text.all isGap then some done.reverse else none
  | fuel + 1, text =>
    match text.dropWhile isGap with
    | [] => some done.reverse
    | start =>
      match read? start with
      | some (lexeme, rest) => scan? (lexeme :: done) fuel rest
      | none => none

/-- The lexemes of a text. -/
def all? (text : List Char) : Option (List Lexeme) := scan? [] text.length text

end Lexeme

end RoadGrowth.Json
