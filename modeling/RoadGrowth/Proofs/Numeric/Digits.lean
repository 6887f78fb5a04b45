import Mathlib.Data.Nat.Basic
import Mathlib.Tactic.IntervalCases
import RoadGrowth.Numeric.Decimal

/-!
# Decimal digits

The digits of a count read back to it, and only zero is written with a leading zero.
The number of digits tells a power of ten that a count reaches.
-/

namespace RoadGrowth.Numeric

/-- A text of decimal digits only. -/
def AllDigits (text : List Char) : Prop := ∀ symbol ∈ text, symbol.isDigit

theorem AllDigits.append {first last : List Char} (left : AllDigits first)
    (right : AllDigits last) : AllDigits (first ++ last) := fun symbol member =>
  (List.mem_append.mp member).elim (left symbol) (right symbol)

theorem allDigits_zeros (count : Nat) : AllDigits (List.replicate count '0') :=
  fun symbol member => by
    rw [(List.mem_replicate.mp member).2]
    rfl

theorem allDigits_digits (count : Nat) : AllDigits (digits count) := fun _ member =>
  Nat.isDigit_of_mem_toDigits (by decide) (by decide) member

theorem digits_ne_nil (count : Nat) : digits count ≠ [] := Nat.toDigits_ne_nil

/-- Digits read back to their count. -/
theorem countOfDigits_digits (count : Nat) : countOfDigits (digits count) = count :=
  Nat.ofDigitChars_ten_toDigits

/-- Only zero is written with a leading zero. -/
theorem eq_zero_of_head?_digits {count : Nat} (leading : (digits count).head? = some '0') :
    count = 0 := by
  induction count using Nat.strong_induction_on with
  | _ count ih =>
    rw [digits, Nat.toDigits_eq_if (by decide)] at leading
    split at leading
    · rename_i small
      interval_cases count <;> first | rfl | (exact absurd leading (by decide))
    · rename_i large
      have first := Option.ne_none_iff_exists'.mp
        (mt List.head?_eq_none_iff.mp (digits_ne_nil (count / 10)))
      obtain ⟨symbol, head⟩ := first
      rw [digits] at head
      rw [List.head?_append, head, Option.some_or] at leading
      have none := ih (count / 10) (by omega) (head.trans leading)
      omega

/-- A count with a number of digits is at least the power of ten with one digit less as exponent. -/
theorem pow_le_of_length_digits {count places : Nat} (positive : 0 < count)
    (length : (digits count).length = places + 1) : 10 ^ places ≤ count := by
  by_contra below
  rcases Nat.eq_zero_or_pos places with rfl | more
  · exact below positive
  · have fewer := (Nat.length_toDigits_le_iff (by decide) more).mpr (not_le.mp below)
    rw [digits] at length
    omega

end RoadGrowth.Numeric
