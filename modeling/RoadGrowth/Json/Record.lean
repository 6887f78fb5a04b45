import RoadGrowth.Json.Value

/-!
# Records in JSON

A record is an object with known keys, or an array of its fields in their declared
order that may stop early. Unknown keys are ignored and a known key may stand only
once. What a field is read as, and what an absent field means, is said where the
record is opened.
-/

namespace RoadGrowth.Json

/-- The written value of a field, if there is one. -/
abbrev Fields := String → Option Value

/-- Whether an object could be opened with these known keys. -/
def membersFit (names : List String) (members : List (Content × Value)) : Bool :=
  members.all (fun member => member.1.isSome) &&
    names.all fun name => (members.countP fun member => member.1 = some name.toList) ≤ 1

/-- The fields of a record. -/
def Value.fields? (names : List String) : Value → Option Fields
  | .object members =>
    if membersFit names members then
      some fun name => (members.find? fun member => member.1 = some name.toList).map Prod.snd
    else
      none
  | .array items =>
    if items.length ≤ names.length then
      some fun name => items[names.idxOf name]?
    else
      none
  | _ => none

/-- A field that must be there. -/
def Fields.required {α : Type} (fields : Fields) (name : String) (read : Value → Option α) :
    Option α :=
  (fields name).bind read

/-- A field with the value it has when it is absent. -/
def Fields.optional {α : Type} (fields : Fields) (name : String) (read : Value → Option α)
    (absent : α) : Option α :=
  match fields name with
  | some value => read value
  | none => some absent

namespace Value

/-- A count below a bound. -/
def count? (bound : Nat) : Value → Option Nat
  | .number numeral => numeral.count?.filter (· < bound)
  | _ => none

/-- A word of 32 bits. -/
def word32? (value : Value) : Option UInt32 := (value.count? UInt32.size).map UInt32.ofNat

/-- A word of 64 bits. -/
def word64? (value : Value) : Option UInt64 := (value.count? UInt64.size).map UInt64.ofNat

/-- A single; any number is one. -/
def single? : Value → Option Float32
  | .number numeral => numeral.single?
  | _ => none

/-- A truth value. -/
def truth? : Value → Option Bool
  | .bool value => some value
  | _ => none

/-- A text. -/
def text? : Value → Option (List Char)
  | .string content => content
  | _ => none

/-- Two values of one kind. -/
def pair? {α : Type} (read : Value → Option α) : Value → Option (α × α)
  | .array [first, second] => do return (← read first, ← read second)
  | _ => none

/-- The name of a choice: a string, or an object whose only key is the name and whose value is null. -/
def choice? : Value → Option (List Char)
  | .string content => content
  | .object [(key, .null)] => key
  | _ => none

/-- A word as a number. -/
def ofCount (count : Nat) : Value := .number (Numeral.ofCount count)

/-- A single, or null if it is not finite. -/
def ofSingle (value : Float32) : Value :=
  match Numeral.ofSingle? value with
  | some numeral => .number numeral
  | none => .null

/-- A text as a string. -/
def ofText (text : List Char) : Value := .string (some text)

/-- A key and its value. -/
def member (name : String) (value : Value) : Content × Value := (some name.toList, value)

end Value

end RoadGrowth.Json
