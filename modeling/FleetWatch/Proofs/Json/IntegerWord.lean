import FleetWatch.Json.Token
import FleetWatch.Proofs.Text.Digits
import Mathlib.Data.List.TakeWhile

/-!
# Integers of documents

An integer is written as digits, with a minus before them or not, and without a needless zero at
their front. If it fits 64 bits, with or without a sign, it is kept exactly; only the zero with a
minus is kept as a floating-point number.

## Main Definitions

* `Json.IntegerWord` — an integer as it is written
-/

namespace FleetWatch.Json

open FleetWatch.Text

/-- **An integer as it is written.** -/
structure IntegerWord where
  negative : Bool
  digits : List Char
  digits_ne_nil : digits ≠ []
  isDigit : ∀ c ∈ digits, c.isDigit = true
  noNeedlessZero : digits.length = 1 ∨ digits.head? ≠ some '0'

namespace IntegerWord

/-- The characters of the word. -/
def chars (word : IntegerWord) : List Char :=
  if word.negative then '-' :: word.digits else word.digits

/-- The integer that is written. -/
def value (word : IntegerWord) : Int :=
  if word.negative then -(asciiValue word.digits : Int) else asciiValue word.digits

/-- More digits do not make a number smaller. -/
theorem le_foldl_digits (digits : List Char) (value : Nat) :
    value ≤ digits.foldl (fun value c => value * 10 + (c.toNat - '0'.toNat)) value := by
  induction digits generalizing value with
  | nil => exact Nat.le_refl value
  | cons c digits ih =>
      exact Nat.le_trans (by omega) (ih (value * 10 + (c.toNat - '0'.toNat)))

/-- Only one digit stands for zero. -/
theorem digits_eq_of_asciiValue_eq_zero (word : IntegerWord) (zero : asciiValue word.digits = 0) :
    word.digits = ['0'] := by
  obtain ⟨c, rest, split⟩ := List.exists_cons_of_ne_nil word.digits_ne_nil
  have digit := Char.isDigit_iff_toNat.mp (word.isDigit c (split ▸ List.mem_cons_self))
  have first : c.toNat - '0'.toNat = 0 := by
    have atLeast := le_foldl_digits rest (0 * 10 + (c.toNat - '0'.toNat))
    rw [split, asciiValue, List.foldl_cons] at zero
    omega
  have isZero : c = '0' := by
    have : '0'.toNat = 48 := rfl
    apply Char.toNat_inj.mp
    omega
  subst isZero
  rcases word.noNeedlessZero with one | other
  · rw [split, List.length_cons, Nat.add_eq_right, List.length_eq_zero_iff] at one
    rw [split, one]
  · rw [split] at other
    exact absurd rfl other

/-- What a word of digits is read as, with a minus before them or not. -/
theorem ofWord?_chars (word : IntegerWord) :
    Number.ofWord? word.chars =
      let whole := Significand.whole ⟨0, 0⟩ word.digits
      if word.negative then
        if 0 < asciiValue word.digits ∧ asciiValue word.digits ≤ Nat.pow 2 63 then
          some (.integer (-(asciiValue word.digits : Int)))
        else (Binary64.ofDecimal? true whole.value whole.exponent).map .float
      else if asciiValue word.digits < Nat.pow 2 64 then some (.integer (asciiValue word.digits))
      else (Binary64.ofDecimal? false whole.value whole.exponent).map .float := by
  have taken : word.digits.takeWhile Char.isDigit = word.digits :=
    List.takeWhile_eq_self_iff.mpr word.isDigit
  have left : word.digits.dropWhile Char.isDigit = [] :=
    List.dropWhile_eq_nil_iff.mpr word.isDigit
  have wellFormed : (word.digits.isEmpty ||
      (word.digits.length != 1 && word.digits.head? == some '0')) = false := by
    have nonempty := List.isEmpty_eq_false_iff.mpr word.digits_ne_nil
    rcases word.noNeedlessZero with one | other
    · simp [nonempty, one]
    · simp [nonempty, other]
  cases sign : word.negative with
  | true =>
      rw [chars, sign, if_pos rfl, Number.ofWord?]
      simp only [taken, left, wellFormed, Bool.false_eq_true, if_false, if_true]
  | false =>
      have noMinus : ∀ rest, word.digits = '-' :: rest → False := by
        intro rest split
        cases word.isDigit '-' (split ▸ List.mem_cons_self)
      rw [chars, sign, if_neg Bool.false_ne_true, Number.ofWord?]
      · simp only [taken, left, wellFormed, Bool.false_eq_true, if_false]
      · exact noMinus

/-- **An integer that fits 64 bits is kept exactly**, the zero with a minus as a floating-point
number. -/
theorem ofWord?_of_fits (word : IntegerWord) (lower : -9223372036854775808 ≤ word.value)
    (upper : word.value < 18446744073709551616) :
    Number.ofWord? word.chars = some (.integer word.value) ∨
      word.value = 0 ∧ Number.ofWord? word.chars = some (.float (Binary64.zero true)) := by
  have limit63 : Nat.pow 2 63 = 9223372036854775808 := by decide
  have limit64 : Nat.pow 2 64 = 18446744073709551616 := by decide
  rw [ofWord?_chars]
  dsimp only
  cases sign : word.negative with
  | false =>
      have value : word.value = asciiValue word.digits := by rw [IntegerWord.value, sign]; rfl
      refine Or.inl ?_
      rw [if_neg Bool.false_ne_true, if_pos (by omega), value]
  | true =>
      have value : word.value = -(asciiValue word.digits : Int) := by
        rw [IntegerWord.value, sign]
        rfl
      rw [if_pos rfl]
      rcases Nat.eq_zero_or_pos (asciiValue word.digits) with zero | pos
      · refine Or.inr ⟨by omega, ?_⟩
        rw [if_neg (by omega), word.digits_eq_of_asciiValue_eq_zero zero]
        rfl
      · exact Or.inl (by rw [if_pos (by omega), value])

end IntegerWord

end FleetWatch.Json
