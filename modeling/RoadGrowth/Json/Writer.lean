import RoadGrowth.Json.Value

/-!
# Writing JSON

The compact form has no blanks. The indented form has one item or member a line
and two spaces for each level; an empty container stays on its line. Each writer
puts a value in front of a text that is already there.
-/

namespace RoadGrowth.Json

/-- A lower-case hexadecimal digit. -/
def hexadecimalDigit (value : Nat) : Char :=
  if value < 10 then Char.ofNat (value + '0'.toNat) else Char.ofNat (value - 10 + 'a'.toNat)

/-- A character inside a string. Only quotes, backslashes and controls are escaped. -/
def escape : Char → List Char
  | '"' => ['\\', '"']
  | '\\' => ['\\', '\\']
  | '\x08' => ['\\', 'b']
  | '\x0c' => ['\\', 'f']
  | '\n' => ['\\', 'n']
  | '\r' => ['\\', 'r']
  | '\t' => ['\\', 't']
  | symbol =>
    if symbol.toNat < 0x20 then
      ['\\', 'u', '0', '0', hexadecimalDigit (symbol.toNat / 16), hexadecimalDigit (symbol.toNat % 16)]
    else
      [symbol]

/-- A string; one without content is written empty. -/
def writeString (content : Content) (rest : List Char) : List Char :=
  '"' :: (content.getD []).flatMap escape ++ '"' :: rest

/-- A line end and the indentation of a level. -/
def newline (level : Nat) (rest : List Char) : List Char :=
  '\n' :: List.replicate (2 * level) ' ' ++ rest

namespace Value

/-- A value without members. -/
def writeScalar : Value → List Char → List Char
  | .bool true, rest => "true".toList ++ rest
  | .bool false, rest => "false".toList ++ rest
  | .number numeral, rest => numeral.write rest
  | .string content, rest => writeString content rest
  | _, rest => "null".toList ++ rest

mutual

/-- The compact form of a value. -/
def compact : Value → List Char → List Char
  | .array [], rest => '[' :: ']' :: rest
  | .array (item :: items), rest => '[' :: item.compact (compactItems items rest)
  | .object [], rest => '\x7b' :: '\x7d' :: rest
  | .object ((key, value) :: members), rest =>
    '\x7b' :: writeString key (':' :: value.compact (compactMembers members rest))
  | other, rest => other.writeScalar rest

/-- Further items and the end of their array. -/
def compactItems : List Value → List Char → List Char
  | [], rest => ']' :: rest
  | item :: items, rest => ',' :: item.compact (compactItems items rest)

/-- Further members and the end of their object. -/
def compactMembers : List (Content × Value) → List Char → List Char
  | [], rest => '\x7d' :: rest
  | (key, value) :: members, rest =>
    ',' :: writeString key (':' :: value.compact (compactMembers members rest))

end

mutual

/-- The indented form of a value that stands at a level. -/
def indented (level : Nat) : Value → List Char → List Char
  | .array [], rest => '[' :: ']' :: rest
  | .array (item :: items), rest =>
    '[' :: newline (level + 1) (item.indented (level + 1) (indentedItems level items rest))
  | .object [], rest => '\x7b' :: '\x7d' :: rest
  | .object ((key, value) :: members), rest =>
    '\x7b' :: newline (level + 1) (writeString key
      (':' :: ' ' :: value.indented (level + 1) (indentedMembers level members rest)))
  | other, rest => other.writeScalar rest

/-- Further items and the end of their array. -/
def indentedItems (level : Nat) : List Value → List Char → List Char
  | [], rest => newline level (']' :: rest)
  | item :: items, rest =>
    ',' :: newline (level + 1) (item.indented (level + 1) (indentedItems level items rest))

/-- Further members and the end of their object. -/
def indentedMembers (level : Nat) : List (Content × Value) → List Char → List Char
  | [], rest => newline level ('\x7d' :: rest)
  | (key, value) :: members, rest =>
    ',' :: newline (level + 1) (writeString key
      (':' :: ' ' :: value.indented (level + 1) (indentedMembers level members rest)))

end

end Value

end RoadGrowth.Json
