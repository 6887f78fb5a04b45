import RoadGrowth.Json.Lexeme

/-!
# JSON values

A value is read from lexemes with a stack of open containers. Its depth is not
limited, where readers commonly refuse more than 128 levels. The difference is
deliberate: the records read here are a few levels deep, so that a deeper value either
stands under a key that no record asks for, and is passed over, or has a shape that the
record refuses. Members of an object stay in written order, repeated keys included.
-/

namespace RoadGrowth.Json

/-- A string, or nothing if it escapes half of a surrogate pair. -/
abbrev Content := Option (List Char)

/-- A JSON value. -/
inductive Value where
  | null
  | bool (value : Bool)
  | number (numeral : Numeral)
  | string (content : Content)
  | array (items : List Value)
  | object (members : List (Content × Value))

/-- A container not closed yet, its contents last one first. -/
inductive Frame where
  | array (items : List Value)
  | object (members : List (Content × Value)) (key : Content)

/-- What the next lexeme may be. -/
inductive Expectation where
  /-- An item; or the end of the array just opened. -/
  | item (first : Bool)
  /-- A key; or the end of the object just opened. -/
  | key (members : List (Content × Value)) (first : Bool)
  | colon (members : List (Content × Value)) (key : Content)
  /-- A comma or the end of the innermost container. -/
  | separator
  /-- Nothing more. -/
  | finished (value : Value)

/-- Open containers, innermost first, and what may come next. -/
structure Reading where
  frames : List Frame
  expectation : Expectation

namespace Reading

/-- The state before any lexeme. -/
def start : Reading := ⟨[], .item false⟩

/-- Put a complete value where it belongs. -/
def place (value : Value) : List Frame → Reading
  | [] => ⟨[], .finished value⟩
  | .array items :: frames => ⟨.array (value :: items) :: frames, .separator⟩
  | .object members key :: frames => ⟨.object ((key, value) :: members) key :: frames, .separator⟩

/-- Take the first lexeme of a value. -/
def beginValue (frames : List Frame) : Lexeme → Option Reading
  | .openArray => some ⟨.array [] :: frames, .item true⟩
  | .openObject => some ⟨frames, .key [] true⟩
  | .null => some (place .null frames)
  | .bool value => some (place (.bool value) frames)
  | .number numeral => some (place (.number numeral) frames)
  | .string content => some (place (.string content) frames)
  | _ => none

/-- Take a lexeme. -/
def step (reading : Reading) (lexeme : Lexeme) : Option Reading :=
  match reading.expectation, lexeme, reading.frames with
  | .item true, .closeArray, .array _ :: frames => some (place (.array []) frames)
  | .item _, lexeme, frames => beginValue frames lexeme
  | .key _ true, .closeObject, frames => some (place (.object []) frames)
  | .key members _, .string key, frames => some ⟨frames, .colon members key⟩
  | .colon members key, .colon, frames => some ⟨.object members key :: frames, .item false⟩
  | .separator, .comma, .array items :: frames => some ⟨.array items :: frames, .item false⟩
  | .separator, .closeArray, .array items :: frames => some (place (.array items.reverse) frames)
  | .separator, .comma, .object members _ :: frames => some ⟨frames, .key members false⟩
  | .separator, .closeObject, .object members _ :: frames =>
    some (place (.object members.reverse) frames)
  | _, _, _ => none

end Reading

namespace Value

/-- The value that a list of lexemes writes. -/
def ofLexemes? (lexemes : List Lexeme) : Option Value :=
  match lexemes.foldlM Reading.step Reading.start with
  | some ⟨_, .finished value⟩ => some value
  | _ => none

/-- The value that a text writes. -/
def read? (text : List Char) : Option Value := (Lexeme.all? text).bind ofLexemes?

end Value

end RoadGrowth.Json
