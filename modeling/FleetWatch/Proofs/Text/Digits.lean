import FleetWatch.Text.Blank
import FleetWatch.Text.DecimalDigit
import Mathlib.Algebra.Group.Nat.Defs
import Mathlib.Data.List.Induction

/-!
# Digits that are written and read

A number that is written in base ten consists of ASCII digits, is as wide as it is meant to be, and
stands for itself.
-/

namespace FleetWatch.Text

/-- The number of a run of digits is that of the core library. -/
theorem asciiValue_eq_ofDigitChars (digits : List Char) :
    asciiValue digits = Nat.ofDigitChars 10 digits 0 := by
  simp only [asciiValue, Nat.ofDigitChars_eq_foldl, Nat.mul_comm]

/-- A number is written in ASCII digits. -/
theorem isDigit_of_mem_decimal {n : Nat} {c : Char} (h : c ∈ decimal n) : c.isDigit = true :=
  Nat.isDigit_of_mem_toDigits (by decide) (by decide) h

/-- The zeros that fill a number up are digits too. -/
theorem isDigit_of_mem_padded {width n : Nat} {c : Char} (h : c ∈ padded width n) :
    c.isDigit = true := by
  rcases List.mem_append.mp h with zero | digit
  · rw [List.eq_of_mem_replicate zero]
    rfl
  · exact isDigit_of_mem_decimal digit

/-- A number is filled up to the width, if it has no more digits. -/
theorem length_padded {width n : Nat} (hwidth : 0 < width) (h : n < 10 ^ width) :
    (padded width n).length = width := by
  have digits := (Nat.length_toDigits_le_iff (by decide) hwidth).mpr h
  simp only [padded, decimal, List.length_append, List.length_replicate]
  omega

/-- A number that is written in base ten is read back. -/
theorem asciiValue_padded (width n : Nat) : asciiValue (padded width n) = n := by
  simp [asciiValue_eq_ofDigitChars, padded, decimal, Nat.ofDigitChars_append]

/-- A number that is not filled up is read back too. -/
theorem asciiValue_decimal (n : Nat) : asciiValue (decimal n) = n := by
  simp [asciiValue_eq_ofDigitChars, decimal]

/-- A number is below the power of ten that its digits reach. -/
theorem asciiValue_lt {digits : List Char} (h : ∀ c ∈ digits, c.isDigit = true) :
    asciiValue digits < 10 ^ digits.length := by
  induction digits using List.reverseRecOn with
  | nil => decide
  | append_singleton digits c ih =>
      have before := ih fun d mem => h d (List.mem_append_left _ mem)
      have last := Char.isDigit_iff_toNat.mp
        (h c (List.mem_append_right _ (List.mem_singleton_self c)))
      have zero : '0'.toNat = 48 := rfl
      have nine : '9'.toNat = 57 := rfl
      have value : asciiValue (digits ++ [c]) = asciiValue digits * 10 + (c.toNat - '0'.toNat) := by
        rw [asciiValue, List.foldl_append]
        rfl
      rw [value, List.length_append, List.length_singleton, Nat.pow_succ]
      omega

/-- A digit is no white space. -/
theorem isBlank_of_isDigit {c : Char} (h : c.isDigit = true) : isBlank c = false := by
  have bounds := Char.isDigit_iff_toNat.mp h
  have zero : '0'.toNat = 48 := rfl
  have nine : '9'.toNat = 57 := rfl
  simp only [isBlank, Bool.or_eq_false_iff, Bool.and_eq_false_iff, decide_eq_false_iff_not,
    beq_eq_false_iff_ne, ne_eq]
  omega

end FleetWatch.Text
