import RoadGrowth.Proofs.Json.Lexeme

/-!
# Values read back

A value is writable when its text says all about it: its numerals are well formed
and its strings have content. The writer puts the lexemes of a value in order and
the reader builds the value again from them, under whatever containers are open.
-/

namespace RoadGrowth.Json

namespace Value

/-- Values that their text determines. -/
inductive Writable : Value → Prop
  | null : Writable .null
  | bool (value : Bool) : Writable (.bool value)
  | number {numeral : Numeral} (formed : numeral.WellFormed) : Writable (.number numeral)
  | string (content : List Char) : Writable (.string (some content))
  | array {items : List Value} (each : ∀ item ∈ items, Writable item) : Writable (.array items)
  | object {members : List (Content × Value)} (keys : ∀ member ∈ members, member.1.isSome)
      (each : ∀ member ∈ members, Writable member.2) : Writable (.object members)

/-! ## Lexemes -/

mutual

/-- The lexemes of a value, in written order. -/
def lexemes : Value → List Lexeme
  | .null => [.null]
  | .bool value => [.bool value]
  | .number numeral => [.number numeral]
  | .string content => [.string content]
  | .array [] => [.openArray, .closeArray]
  | .array (item :: items) => .openArray :: (item.lexemes ++ itemLexemes items)
  | .object [] => [.openObject, .closeObject]
  | .object ((key, value) :: members) =>
    .openObject :: .string key :: .colon :: (value.lexemes ++ memberLexemes members)

/-- The lexemes of further items and of the end of their array. -/
def itemLexemes : List Value → List Lexeme
  | [] => [.closeArray]
  | item :: items => .comma :: (item.lexemes ++ itemLexemes items)

/-- The lexemes of further members and of the end of their object. -/
def memberLexemes : List (Content × Value) → List Lexeme
  | [] => [.closeObject]
  | (key, value) :: members =>
    .comma :: .string key :: .colon :: (value.lexemes ++ memberLexemes members)

end

/-! ## Reading -/

/-- The lexemes of a value are taken as that value, wherever a value may stand. -/
def TakenWhole (value : Value) : Prop := ∀ first frames,
  value.lexemes.foldlM Reading.step ⟨frames, .item first⟩ = some (Reading.place value frames)

theorem TakenWhole.foldlM_append {value : Value} (taken : value.TakenWhole) (first : Bool)
    (frames : List Frame) (later : List Lexeme) :
    (value.lexemes ++ later).foldlM Reading.step ⟨frames, .item first⟩ =
      later.foldlM Reading.step (Reading.place value frames) := by
  rw [List.foldlM_append, taken, Option.bind_eq_bind, Option.bind_some]

theorem foldlM_itemLexemes {items : List Value} (each : ∀ item ∈ items, item.TakenWhole)
    (done : List Value) (frames : List Frame) :
    (itemLexemes items).foldlM Reading.step ⟨.array done :: frames, .separator⟩ =
      some (Reading.place (.array (done.reverse ++ items)) frames) := by
  induction items generalizing done with
  | nil =>
    rw [List.append_nil]
    rfl
  | cons item items ih =>
    change (item.lexemes ++ itemLexemes items).foldlM Reading.step
      ⟨.array done :: frames, .item false⟩ = _
    rw [(each item List.mem_cons_self).foldlM_append]
    have later := ih (List.forall_mem_of_forall_mem_cons each) (item :: done)
    rwa [List.reverse_cons, List.append_assoc] at later

theorem foldlM_memberLexemes {members : List (Content × Value)}
    (each : ∀ member ∈ members, member.2.TakenWhole) (done : List (Content × Value))
    (key : Content) (frames : List Frame) :
    (memberLexemes members).foldlM Reading.step ⟨.object done key :: frames, .separator⟩ =
      some (Reading.place (.object (done.reverse ++ members)) frames) := by
  induction members generalizing done key with
  | nil =>
    rw [List.append_nil]
    rfl
  | cons member members ih =>
    obtain ⟨name, value⟩ := member
    change (value.lexemes ++ memberLexemes members).foldlM Reading.step
      ⟨.object done name :: frames, .item false⟩ = _
    rw [(each (name, value) List.mem_cons_self).foldlM_append]
    have later := ih (List.forall_mem_of_forall_mem_cons each)
      ((name, value) :: done) name
    rwa [List.reverse_cons, List.append_assoc] at later

theorem Writable.takenWhole {value : Value} (writable : value.Writable) : value.TakenWhole := by
  induction writable with
  | null => intro first frames; cases first <;> rfl
  | bool => intro first frames; cases first <;> rfl
  | number => intro first frames; cases first <;> rfl
  | string => intro first frames; cases first <;> rfl
  | @array items _ ih =>
    intro first frames
    cases items with
    | nil => cases first <;> rfl
    | cons item items =>
      have begun : Reading.step ⟨frames, .item first⟩ .openArray =
          some ⟨.array [] :: frames, .item true⟩ := by cases first <;> rfl
      rw [lexemes, List.foldlM_cons, begun, Option.bind_eq_bind, Option.bind_some,
        (ih item List.mem_cons_self).foldlM_append]
      exact foldlM_itemLexemes (List.forall_mem_of_forall_mem_cons ih)
        [item] frames
  | @object members _ _ ih =>
    intro first frames
    cases members with
    | nil => cases first <;> rfl
    | cons member members =>
      obtain ⟨key, value⟩ := member
      have begun : Reading.step ⟨frames, .item first⟩ .openObject =
          some ⟨frames, .key [] true⟩ := by cases first <;> rfl
      rw [lexemes, List.foldlM_cons, begun, Option.bind_eq_bind, Option.bind_some]
      change (value.lexemes ++ memberLexemes members).foldlM Reading.step
        ⟨.object [] key :: frames, .item false⟩ = _
      rw [(ih (key, value) List.mem_cons_self).foldlM_append]
      exact foldlM_memberLexemes (List.forall_mem_of_forall_mem_cons ih)
        [(key, value)] key frames

/-! ## Scanning -/

open Lexeme

/-- The indented text of a value is scanned as its lexemes. -/
def ScannedWhole (value : Value) : Prop := ∀ level rest, Separated rest →
  Scans (value.indented level rest) value.lexemes rest

theorem separated_newline (level : Nat) (rest : List Char) : Separated (newline level rest) :=
  separated_cons _ (by decide)

theorem separated_indentedItems (level : Nat) (items : List Value) (rest : List Char) :
    Separated (indentedItems level items rest) := by
  cases items with
  | nil => exact separated_newline level _
  | cons => exact separated_cons _ (by decide)

theorem separated_indentedMembers (level : Nat) (members : List (Content × Value))
    (rest : List Char) : Separated (indentedMembers level members rest) := by
  cases members with
  | nil => exact separated_newline level _
  | cons => exact separated_cons _ (by decide)

/-- A value on a line of its own, in front of what closes or continues its container. -/
theorem ScannedWhole.onLine {value : Value} (scanned : value.ScannedWhole) {level : Nat}
    {text rest : List Char} {later : List Lexeme} (separated : Separated text)
    (others : Scans text later rest) :
    Scans (newline level (value.indented level text)) (value.lexemes ++ later) rest :=
  (scans_newline level _).append ((scanned level text separated).append others)

/-- A member on a line of its own, in front of what closes or continues its object. -/
theorem ScannedWhole.memberOnLine {value : Value} (scanned : value.ScannedWhole)
    (key : List Char) {level : Nat} {text rest : List Char} {later : List Lexeme}
    (separated : Separated text) (others : Scans text later rest) :
    Scans (newline level (writeString (some key) (':' :: ' ' :: value.indented level text)))
      (.string (some key) :: .colon :: (value.lexemes ++ later)) rest := by
  have colon : Scans (':' :: ' ' :: value.indented level text) [.colon]
      (' ' :: value.indented level text) := scans_of_read? (by decide) le_rfl rfl
  have blank : Scans (' ' :: value.indented level text) [] (value.indented level text) :=
    scans_gap [' '] _ (by simp [isGap])
  exact (scans_newline level _).append ((scans_string key _).cons (colon.cons
    (blank.append ((scanned level text separated).append others))))

theorem scans_comma (rest : List Char) : Scans (',' :: rest) [.comma] rest :=
  scans_of_read? (by decide) le_rfl rfl

theorem scans_indentedItems {items : List Value} (each : ∀ item ∈ items, item.ScannedWhole)
    (level : Nat) (rest : List Char) :
    Scans (indentedItems level items rest) (itemLexemes items) rest := by
  induction items with
  | nil => exact (scans_newline level _).append (scans_of_read? (by decide) le_rfl rfl)
  | cons item items ih =>
    exact (scans_comma _).cons ((each item List.mem_cons_self).onLine (separated_indentedItems level items rest)
      (ih (List.forall_mem_of_forall_mem_cons each)))

theorem scans_indentedMembers {members : List (Content × Value)}
    (keys : ∀ member ∈ members, member.1.isSome)
    (each : ∀ member ∈ members, member.2.ScannedWhole) (level : Nat) (rest : List Char) :
    Scans (indentedMembers level members rest) (memberLexemes members) rest := by
  induction members with
  | nil => exact (scans_newline level _).append (scans_of_read? (by decide) le_rfl rfl)
  | cons member members ih =>
    obtain ⟨key, value⟩ := member
    obtain ⟨name, rfl⟩ := Option.isSome_iff_exists.mp (keys (key, value) List.mem_cons_self)
    exact (scans_comma _).cons ((each (some name, value) List.mem_cons_self).memberOnLine name
      (separated_indentedMembers level members rest) (ih (List.forall_mem_of_forall_mem_cons keys)
        (List.forall_mem_of_forall_mem_cons each)))

theorem Writable.scannedWhole {value : Value} (writable : value.Writable) :
    value.ScannedWhole := by
  induction writable with
  | null => exact fun level rest _ => scans_of_read? (by decide) (Nat.le_add_right _ 3) rfl
  | bool value =>
    intro level rest _
    cases value with
    | false => exact scans_of_read? (by decide) (Nat.le_add_right _ 4) rfl
    | true => exact scans_of_read? (by decide) (Nat.le_add_right _ 3) rfl
  | number formed => exact fun level rest separated => scans_number formed separated
  | string content => exact fun level rest _ => scans_string content rest
  | @array items _ ih =>
    intro level rest _
    have opened : ∀ text, Scans ('[' :: text) [.openArray] text := fun text =>
      scans_of_read? (by decide) le_rfl rfl
    cases items with
    | nil => exact (opened _).cons (scans_of_read? (by decide) le_rfl rfl)
    | cons item items =>
      exact (opened _).cons ((ih item List.mem_cons_self).onLine (separated_indentedItems level items rest)
        (scans_indentedItems (List.forall_mem_of_forall_mem_cons ih) level rest))
  | @object members keys _ ih =>
    intro level rest _
    have opened : ∀ text, Scans ('\x7b' :: text) [.openObject] text := fun text =>
      scans_of_read? (by decide) le_rfl rfl
    cases members with
    | nil => exact (opened _).cons (scans_of_read? (by decide) le_rfl rfl)
    | cons member members =>
      obtain ⟨key, value⟩ := member
      obtain ⟨name, rfl⟩ := Option.isSome_iff_exists.mp (keys (key, value) List.mem_cons_self)
      exact (opened _).cons ((ih (some name, value) List.mem_cons_self).memberOnLine name
        (separated_indentedMembers level members rest) (scans_indentedMembers
          (List.forall_mem_of_forall_mem_cons keys)
          (List.forall_mem_of_forall_mem_cons ih) level rest))

/-- The indented text of a writable value reads back to it. -/
theorem Writable.read?_indented {value : Value} (writable : value.Writable) :
    read? (value.indented 0 []) = some value := by
  rw [read?, all?_of_scans (writable.scannedWhole 0 [] separated_nil), Option.bind_some,
    ofLexemes?, Reading.start, writable.takenWhole false []]
  rfl

end Value

end RoadGrowth.Json
