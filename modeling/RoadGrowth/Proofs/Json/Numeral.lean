import RoadGrowth.Json.Numeral
import RoadGrowth.Proofs.Numeric.Shortest

/-!
# Numerals read back

A well-formed numeral is read back from its text, parts and all, when what follows
cannot continue it. Counts and finite singles are written as well-formed numerals.
-/

namespace RoadGrowth.Json

open Numeric

/-- Where a numeral may end: nothing follows, or a character that no numeral goes on with. -/
def Separated (rest : List Char) : Prop :=
  ∀ symbol ∈ rest.head?, symbol.isDigit = false ∧ symbol ≠ '.' ∧ symbol ≠ 'e' ∧ symbol ≠ 'E'

/-- Where digits may end. -/
def DigitsEnd (rest : List Char) : Prop := ∀ symbol ∈ rest.head?, symbol.isDigit = false

theorem Separated.digitsEnd {rest : List Char} (separated : Separated rest) : DigitsEnd rest :=
  fun symbol first => (separated symbol first).1

theorem separated_nil : Separated [] := by simp [Separated]

theorem separated_cons {symbol : Char} (rest : List Char)
    (other : symbol.isDigit = false ∧ symbol ≠ '.' ∧ symbol ≠ 'e' ∧ symbol ≠ 'E') :
    Separated (symbol :: rest) := fun found first => by
  cases first
  exact other

theorem digitsEnd_cons {symbol : Char} (rest : List Char) (other : symbol.isDigit = false) :
    DigitsEnd (symbol :: rest) := fun found first => by
  cases first
  exact other

theorem takeWhile_digits {written rest : List Char} (all : AllDigits written)
    (ends : DigitsEnd rest) : (written ++ rest).takeWhile Char.isDigit = written := by
  rw [List.takeWhile_append_of_pos all]
  cases rest with
  | nil => simp
  | cons symbol rest => simp [ends symbol rfl]

theorem dropWhile_digits {written rest : List Char} (all : AllDigits written)
    (ends : DigitsEnd rest) : (written ++ rest).dropWhile Char.isDigit = rest := by
  rw [List.dropWhile_append_of_pos all]
  cases rest with
  | nil => rfl
  | cons symbol rest => simp [ends symbol rfl]

namespace Numeral

/-- A numeral as the grammar of numbers has it. -/
structure WellFormed (numeral : Numeral) : Prop where
  whole_digits : AllDigits numeral.whole
  whole_ne_nil : numeral.whole ≠ []
  /-- A leading zero stands alone. -/
  whole_zero : numeral.whole.head? = some '0' → numeral.whole = ['0']
  fraction_digits : AllDigits numeral.fraction
  exponent_digits : ∀ part ∈ numeral.exponent, AllDigits part.2 ∧ part.2 ≠ []

/-! ## Parts -/

theorem takeMinus_write (negative : Bool) {written rest : List Char} (all : AllDigits written)
    (nonempty : written ≠ []) :
    takeMinus ((if negative then ['-'] else []) ++ (written ++ rest)) =
      (negative, written ++ rest) := by
  cases negative with
  | true => rfl
  | false =>
    obtain ⟨digit, others, rfl⟩ := List.exists_cons_of_ne_nil nonempty
    have isDigit : digit.isDigit := all digit List.mem_cons_self
    simp only [Bool.false_eq_true, if_false, List.nil_append, List.cons_append]
    unfold takeMinus
    split
    · rename_i minus
      obtain ⟨rfl, -⟩ := List.cons.inj minus
      exact absurd isDigit (by decide)
    · rfl

theorem takeFraction?_write {fraction rest : List Char} (all : AllDigits fraction)
    (ends : DigitsEnd rest) (noPoint : ∀ symbol ∈ rest.head?, symbol ≠ '.') :
    takeFraction? ((if fraction = [] then [] else '.' :: fraction) ++ rest) =
      some (fraction, rest) := by
  split
  · rename_i empty
    subst empty
    rw [List.nil_append]
    unfold takeFraction?
    split
    · exact absurd rfl (noPoint '.' rfl)
    · rfl
  · rename_i digits
    rw [List.cons_append, takeFraction?, takeWhile_digits all ends, dropWhile_digits all ends,
      if_neg digits]

/-- The text of an exponent. -/
def exponentText : Option (Bool × List Char) → List Char
  | none => []
  | some (negative, digits) => 'e' :: (if negative then '-' else '+') :: digits

theorem takeExponent?_write {exponent : Option (Bool × List Char)} {rest : List Char}
    (digits : ∀ part ∈ exponent, AllDigits part.2 ∧ part.2 ≠ []) (separated : Separated rest) :
    takeExponent? (exponentText exponent ++ rest) = some (exponent, rest) := by
  match exponent with
  | none =>
    cases rest with
    | nil => rfl
    | cons symbol rest =>
      obtain ⟨-, -, lower, upper⟩ := separated symbol rfl
      exact if_neg (by simp [lower, upper])
  | some (negative, written) =>
    obtain ⟨all, nonempty⟩ := digits _ rfl
    cases negative <;>
      simp [exponentText, takeExponent?, takeWhile_digits all separated.digitsEnd,
        dropWhile_digits all separated.digitsEnd, nonempty]

theorem digitsEnd_exponentText (exponent : Option (Bool × List Char)) {rest : List Char}
    (separated : Separated rest) : DigitsEnd (exponentText exponent ++ rest) ∧
      ∀ symbol ∈ (exponentText exponent ++ rest).head?, symbol ≠ '.' := by
  match exponent with
  | none => exact ⟨separated.digitsEnd, fun symbol first => (separated symbol first).2.1⟩
  | some (negative, digits) =>
    refine ⟨digitsEnd_cons _ (by decide), fun symbol first => ?_⟩
    cases first
    decide

theorem write_eq (numeral : Numeral) (rest : List Char) :
    numeral.write rest = (if numeral.negative then ['-'] else []) ++ (numeral.whole ++
      ((if numeral.fraction = [] then [] else '.' :: numeral.fraction) ++
        (exponentText numeral.exponent ++ rest))) := by
  obtain ⟨negative, whole, fraction, exponent⟩ := numeral
  cases exponent <;> simp only [write, exponentText, List.append_assoc]

/-- A well-formed numeral is read back from its text. -/
theorem read?_write {numeral : Numeral} {rest : List Char} (formed : numeral.WellFormed)
    (separated : Separated rest) : read? (numeral.write rest) = some (numeral, rest) := by
  obtain ⟨wholeDigits, wholeNonempty, wholeZero, fractionDigits, exponentDigits⟩ := formed
  obtain ⟨ends, noPoint⟩ := digitsEnd_exponentText numeral.exponent separated
  have fractionEnds : DigitsEnd ((if numeral.fraction = [] then [] else '.' :: numeral.fraction) ++
      (exponentText numeral.exponent ++ rest)) := by
    split
    · exact ends
    · exact digitsEnd_cons _ (by decide)
  rw [write_eq, read?, takeMinus_write _ wholeDigits wholeNonempty]
  simp only [takeWhile_digits wholeDigits fractionEnds, dropWhile_digits wholeDigits fractionEnds]
  rw [if_neg (by tauto), takeFraction?_write fractionDigits ends noPoint]
  simp only [Option.bind_eq_bind, Option.bind_some,
    takeExponent?_write exponentDigits separated]
  rfl

/-- The text of a numeral is not empty. -/
theorem length_lt_write {numeral : Numeral} (formed : numeral.WellFormed) (rest : List Char) :
    rest.length < (numeral.write rest).length := by
  have nonempty := List.length_pos_iff.mpr formed.whole_ne_nil
  simp only [write_eq, List.length_append]
  omega

/-! ## Counts -/

theorem ofCount_wellFormed (count : Nat) : (ofCount count).WellFormed where
  whole_digits := allDigits_digits count
  whole_ne_nil := digits_ne_nil count
  whole_zero leading := by
    simp only [ofCount] at leading ⊢
    rw [eq_zero_of_head?_digits leading]
    rfl
  fraction_digits := by simp [ofCount, AllDigits]
  exponent_digits := by simp [ofCount]

theorem count?_ofCount (count : Nat) : (ofCount count).count? = some count := by
  simp [count?, ofCount, countOfDigits_digits]

/-! ## Singles -/

theorem no_point_of_digits {whole : List Char} (all : AllDigits whole) :
    ∀ symbol ∈ whole, decide (symbol ≠ '.') := by
  intro symbol member
  have digit := all symbol member
  rw [decide_eq_true_eq]
  rintro rfl
  exact absurd digit (by decide)

theorem takeWhile_point {whole : List Char} (all : AllDigits whole) (rest : List Char) :
    (whole ++ '.' :: rest).takeWhile (· ≠ '.') = whole ∧
      (whole ++ '.' :: rest).dropWhile (· ≠ '.') = '.' :: rest := by
  have other := no_point_of_digits all
  rw [List.takeWhile_append_of_pos other, List.dropWhile_append_of_pos other]
  simp

theorem takeWhile_noPoint {whole : List Char} (all : AllDigits whole) :
    whole.takeWhile (· ≠ '.') = whole ∧ whole.dropWhile (· ≠ '.') = [] :=
  ⟨List.takeWhile_eq_self_iff.mpr (no_point_of_digits all),
    List.dropWhile_eq_nil_iff.mpr (no_point_of_digits all)⟩

/-- Digits in front of other digits begin with zero only if their count does. -/
theorem eq_zero_of_head?_append {count : Nat} {rest : List Char}
    (leading : (digits count ++ rest).head? = some '0') : count = 0 := by
  refine eq_zero_of_head?_digits ?_
  rwa [List.head?_append_of_ne_nil _ (digits_ne_nil count)] at leading

/-- A decimal has a whole part without superfluous zeros, and perhaps a fraction. -/
theorem positional_eq (decimal : Decimal) (zero : decimal.significand = 0 → decimal.exponent = 0) :
    ∃ whole fraction : List Char, AllDigits whole ∧ whole ≠ [] ∧
      (whole.head? = some '0' → whole = ['0']) ∧ AllDigits fraction ∧
      (decimal.positional = whole ∨ decimal.positional = whole ++ '.' :: fraction) := by
  have all := allDigits_digits decimal.significand
  unfold Decimal.positional
  dsimp only
  split
  · refine ⟨_, [], all.append (allDigits_zeros _),
      List.append_ne_nil_of_left_ne_nil (digits_ne_nil _) _, fun leading => ?_,
      fun _ member => (List.not_mem_nil member).elim, .inl rfl⟩
    have none := eq_zero_of_head?_append leading
    rw [none, zero none]
    rfl
  · rename_i negative
    split
    · rename_i fewer
      refine ⟨_, _, fun symbol member => all symbol (List.mem_of_mem_take member), fun empty => ?_,
        fun leading => ?_, fun symbol member => all symbol (List.mem_of_mem_drop member), .inr rfl⟩
      · have length := congrArg List.length empty
        simp only [List.length_take, List.length_nil] at length
        omega
      · rw [List.head?_take, if_neg (by omega)] at leading
        exact absurd (zero (eq_zero_of_head?_digits leading)) (by omega)
    · exact ⟨['0'], _, allDigits_zeros 1, List.cons_ne_nil _ _, fun _ => rfl,
        (allDigits_zeros _).append all, .inr rfl⟩

theorem ofDecimal_wellFormed (negative : Bool) {decimal : Decimal}
    (zero : decimal.significand = 0 → decimal.exponent = 0) :
    (ofDecimal negative decimal).WellFormed := by
  simp only [ofDecimal]
  split
  · obtain ⟨whole, fraction, wholeDigits, wholeNonempty, wholeZero, fractionDigits, written⟩ :=
      positional_eq decimal zero
    have parts : decimal.positional.takeWhile (· ≠ '.') = whole ∧
        AllDigits ((decimal.positional.dropWhile (· ≠ '.')).drop 1) := by
      rcases written with written | written
      · rw [written, (takeWhile_noPoint wholeDigits).1, (takeWhile_noPoint wholeDigits).2]
        exact ⟨rfl, fun _ member => (List.not_mem_nil member).elim⟩
      · rw [written, (takeWhile_point wholeDigits fraction).1,
          (takeWhile_point wholeDigits fraction).2]
        exact ⟨rfl, fractionDigits⟩
    rw [parts.1]
    refine ⟨wholeDigits, wholeNonempty, wholeZero, ?_, fun _ none => by cases none⟩
    dsimp only
    split
    · exact allDigits_zeros 1
    · exact parts.2
  · have all := allDigits_digits decimal.significand
    obtain ⟨digit, others, written⟩ := List.exists_cons_of_ne_nil (digits_ne_nil decimal.significand)
    rw [written] at all ⊢
    refine ⟨fun symbol member => all symbol (List.mem_of_mem_take member), List.cons_ne_nil _ _,
      fun leading => ?_, fun symbol member => all symbol (List.mem_of_mem_drop member),
      fun _ exponent => ?_⟩
    · cases leading
      rfl
    · cases exponent
      exact ⟨allDigits_digits _, digits_ne_nil _⟩

theorem ofSingle?_wellFormed {value : Float32} {numeral : Numeral}
    (written : ofSingle? value = some numeral) : numeral.WellFormed := by
  unfold ofSingle? at written
  split at written
  · cases written
    exact ofDecimal_wellFormed _ (shortestDecimal_exponent .toEven value)
  · cases written

end Numeral

end RoadGrowth.Json
