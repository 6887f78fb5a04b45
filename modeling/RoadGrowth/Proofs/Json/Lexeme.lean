import RoadGrowth.Json.Writer
import RoadGrowth.Proofs.Json.Numeral

/-!
# Lexemes read back

`Scans` follows the scanner over the front of a text. Marks, words, strings with
content and well-formed numerals are scanned as themselves, and blanks as nothing.
-/

namespace RoadGrowth.Json

/-! ## Strings -/

/-- What a character of a string may be read as. -/
def Piece.Means (piece : Piece) (symbol : Char) : Prop :=
  piece = .plain symbol ∨ piece = .unit symbol.toNat ∧ symbol.toNat < 0x20

theorem hexadecimal?_hexadecimalDigit :
    ∀ value < 16, hexadecimal? (hexadecimalDigit value) = some value := by decide

theorem unit?_control {value : Nat} (small : value < 0x20) :
    unit? '0' '0' (hexadecimalDigit (value / 16)) (hexadecimalDigit (value % 16)) =
      some value := by
  have zero : hexadecimal? '0' = some 0 := by decide
  simp only [unit?, zero, hexadecimal?_hexadecimalDigit _ (by omega : value / 16 < 16),
    hexadecimal?_hexadecimalDigit _ (by omega : value % 16 < 16), Option.bind_eq_bind,
    Option.bind_some]
  exact congrArg some (by omega)

/-- An escaped character is read as one piece. -/
theorem pieces?_escape (symbol : Char) : ∃ piece : Piece, piece.Means symbol ∧
    ∀ done rest, pieces? done (escape symbol ++ rest) = pieces? (piece :: done) rest := by
  unfold escape
  split
  case h_8 notQuote notBackslash _ _ _ _ _ =>
    split
    · rename_i control
      refine ⟨.unit symbol.toNat, .inr ⟨rfl, control⟩, fun done rest => ?_⟩
      simp [pieces?, unit?_control control]
    · rename_i printed
      refine ⟨.plain symbol, .inl rfl, fun done rest => ?_⟩
      rw [List.singleton_append, pieces?]
      · exact if_neg (not_or.mpr ⟨printed, notBackslash⟩)
      all_goals simp_all
  all_goals exact ⟨.plain _, .inl rfl, fun done rest => by simp [pieces?, escaped?]⟩

theorem pieces?_escapes (content : List Char) : ∃ pieces : List Piece,
    List.Forall₂ Piece.Means pieces content ∧ ∀ done rest,
      pieces? done (content.flatMap escape ++ '"' :: rest) = some (pieces.reverse ++ done, rest) := by
  induction content with
  | nil => exact ⟨[], .nil, fun done rest => by simp [pieces?]⟩
  | cons symbol others ih =>
    obtain ⟨piece, means, first⟩ := pieces?_escape symbol
    obtain ⟨pieces, meanings, later⟩ := ih
    refine ⟨piece :: pieces, .cons means meanings, fun done rest => ?_⟩
    rw [List.flatMap_cons, List.append_assoc, first, later, List.reverse_cons, List.append_assoc,
      List.singleton_append]

theorem content?_unit {value : Nat} (small : value < 0x20) (done : List Char)
    (rest : List Piece) :
    content? done (.unit value :: rest) = content? (Char.ofNat value :: done) rest := by
  have low : ¬0xd800 ≤ value := by omega
  have high : ¬0xdc00 ≤ value := by omega
  match rest with
  | [] => simp [content?, low]
  | .plain symbol :: rest => simp [content?, low]
  | .unit next :: rest => rw [content?, if_neg (by tauto), if_neg (by tauto)]

/-- Pieces give the characters that they mean. -/
theorem content?_of_means {pieces : List Piece} {content : List Char}
    (means : List.Forall₂ Piece.Means pieces content) (done : List Char) :
    content? done pieces = some (done.reverse ++ content) := by
  induction means generalizing done with
  | nil => simp [content?]
  | @cons piece symbol pieces content first _ ih =>
    have step : content? done (piece :: pieces) = content? (symbol :: done) pieces := by
      rcases first with rfl | ⟨rfl, small⟩
      · rw [content?]
      · rw [content?_unit small, Char.ofNat_toNat]
    rw [step, ih, List.reverse_cons, List.append_assoc, List.singleton_append]

namespace Lexeme

/-- A written string is read back. -/
theorem read?_writeString (content rest : List Char) :
    read? (writeString (some content) rest) = some (.string (some content), rest) := by
  obtain ⟨pieces, means, read⟩ := pieces?_escapes content
  change (pieces? [] (content.flatMap escape ++ '"' :: rest)).map _ = _
  rw [read, Option.map_some]
  simp only [List.append_nil, List.reverse_reverse, content?_of_means means, List.reverse_nil,
    List.nil_append]

/-! ## Numerals -/

/-- A text that cannot start another lexeme is read as a numeral. -/
theorem read?_numeral {symbol : Char} (rest : List Char)
    (start : symbol.isDigit ∨ symbol = '-') : read? (symbol :: rest) =
      (Numeral.read? (symbol :: rest)).map fun (numeral, rest) => (.number numeral, rest) := by
  unfold read?
  split
  case h_11 => rfl
  all_goals
    rename_i other
    obtain ⟨rfl, -⟩ := List.cons.inj other
    exact absurd start (by decide)

/-- A numeral is written with a sign or a digit first. -/
theorem write_start {numeral : Numeral} (formed : numeral.WellFormed) (rest : List Char) :
    ∃ symbol others, numeral.write rest = symbol :: others ∧ (symbol.isDigit ∨ symbol = '-') := by
  obtain ⟨digit, others, whole⟩ := List.exists_cons_of_ne_nil formed.whole_ne_nil
  rw [Numeral.write_eq, whole]
  cases numeral.negative with
  | true => exact ⟨'-', _, rfl, .inr rfl⟩
  | false => exact ⟨digit, _, rfl, .inl (formed.whole_digits digit (by simp [whole]))⟩

/-! ## Scanning -/

/-- The scanner takes these lexemes from the front of a text and goes on with the rest. -/
structure Scans (text : List Char) (lexemes : List Lexeme) (rest : List Char) : Prop where
  length_le : lexemes.length + rest.length ≤ text.length
  scan_eq : ∀ done fuel,
    scan? done (lexemes.length + fuel) text = scan? (lexemes.reverse ++ done) fuel rest

theorem Scans.append {text middle rest : List Char} {first last : List Lexeme}
    (front : Scans text first middle) (back : Scans middle last rest) :
    Scans text (first ++ last) rest where
  length_le := by
    have frontLength := front.length_le
    have backLength := back.length_le
    rw [List.length_append]
    omega
  scan_eq done fuel := by
    rw [List.length_append, Nat.add_assoc, front.scan_eq, back.scan_eq, List.reverse_append,
      List.append_assoc]

theorem Scans.cons {text middle rest : List Char} {first : Lexeme} {last : List Lexeme}
    (front : Scans text [first] middle) (back : Scans middle last rest) :
    Scans text (first :: last) rest := front.append back

/-- Blanks in front of a text are skipped. -/
theorem scans_gap (gap rest : List Char) (blank : ∀ symbol ∈ gap, isGap symbol) :
    Scans (gap ++ rest) [] rest where
  length_le := by simp
  scan_eq done fuel := by
    rw [List.length_nil, Nat.zero_add, List.reverse_nil, List.nil_append]
    cases fuel with
    | zero => simp only [scan?, List.all_append, List.all_eq_true.mpr blank, Bool.true_and]
    | succ fuel => simp only [scan?, List.dropWhile_append_of_pos blank]

/-- A lexeme at the front of a text is taken from it. -/
theorem scans_of_read? {symbol : Char} {others rest : List Char} {lexeme : Lexeme}
    (start : isGap symbol = false) (shorter : rest.length ≤ others.length)
    (read : read? (symbol :: others) = some (lexeme, rest)) :
    Scans (symbol :: others) [lexeme] rest where
  length_le := by
    rw [List.length_singleton, List.length_cons]
    omega
  scan_eq done fuel := by
    rw [List.length_singleton, Nat.add_comm]
    simp [scan?, start, read]

theorem scans_newline (level : Nat) (rest : List Char) : Scans (newline level rest) [] rest := by
  refine scans_gap ('\n' :: List.replicate (2 * level) ' ') rest fun symbol member => ?_
  rcases List.mem_cons.mp member with rfl | blank
  · rfl
  · rw [(List.mem_replicate.mp blank).2]
    rfl

theorem scans_string (content rest : List Char) :
    Scans (writeString (some content) rest) [.string (some content)] rest := by
  refine scans_of_read? (by decide) ?_ (read?_writeString content rest)
  change rest.length ≤ (content.flatMap escape ++ '"' :: rest).length
  rw [List.length_append, List.length_cons]
  omega

theorem scans_number {numeral : Numeral} {rest : List Char} (formed : numeral.WellFormed)
    (separated : Separated rest) : Scans (numeral.write rest) [.number numeral] rest := by
  have read := Numeral.read?_write formed separated
  have shorter := Numeral.length_lt_write formed rest
  obtain ⟨symbol, others, written, start⟩ := write_start formed rest
  rw [written] at read shorter ⊢
  refine scans_of_read? ?_ (Nat.le_of_lt_succ shorter) ?_
  · by_contra gap
    simp only [isGap, Bool.not_eq_false, Bool.or_eq_true, decide_eq_true_eq] at gap
    rcases gap with ((rfl | rfl) | rfl) | rfl <;> exact absurd start (by decide)
  · rw [read?_numeral others start, read]
    rfl

/-- A text that is scanned to its end has these lexemes. -/
theorem all?_of_scans {text : List Char} {lexemes : List Lexeme} (scans : Scans text lexemes []) :
    all? text = some lexemes := by
  have enough := scans.length_le
  obtain ⟨fuel, length⟩ := Nat.exists_eq_add_of_le (Nat.le_of_add_right_le enough)
  rw [all?, length, scans.scan_eq]
  cases fuel <;> simp [scan?]

end Lexeme

end RoadGrowth.Json
