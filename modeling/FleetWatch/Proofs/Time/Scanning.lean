import FleetWatch.Proofs.Text.Digits
import FleetWatch.Proofs.Text.Excerpt
import FleetWatch.Time.Timestamp
import Mathlib.Data.List.TakeWhile

/-!
# Scanning runs of digits

What the scanners of timestamps make of a run of digits of the width that they expect. The strict
form takes numbers of a fixed width, and the plain form takes as many digits as there are, up to a
width and after white space; of a run of just that width both take the same.

## Main Definitions

* `Timestamp.Digits` — a run of a given number of digits
* `Timestamp.Digits.padded` — a number that is filled up to a width
-/

namespace FleetWatch

open Text

namespace Timestamp

/-- **A run of `n` digits.** -/
structure Digits (n : Nat) where
  chars : List Char
  length_chars : chars.length = n
  isDigit : ∀ c ∈ chars, c.isDigit = true

namespace Digits

variable {n : Nat}

/-- The number that the digits stand for. -/
def value (digits : Digits n) : Nat :=
  asciiValue digits.chars

/-- Digits stand for a number below the power of ten that they reach. -/
theorem value_lt (digits : Digits n) : digits.value < 10 ^ n := by
  have lt := asciiValue_lt digits.isDigit
  rwa [digits.length_chars] at lt

/-- Digits that no further digit follows are all that is taken while there are digits. -/
theorem takeWhile_chars_append (digits : Digits n) {rest : List Char}
    (ends : ∀ c ∈ rest.head?, c.isDigit = false) :
    (digits.chars ++ rest).takeWhile Char.isDigit = digits.chars ∧
      (digits.chars ++ rest).dropWhile Char.isDigit = rest :=
  ⟨takeWhile_append_of_ends digits.isDigit ends, dropWhile_append_of_ends digits.isDigit ends⟩

/-- A number that is filled up to a width, if it has no more digits. -/
def padded {width number : Nat} (pos : 0 < width) (lt : number < 10 ^ width) : Digits width where
  chars := Text.padded width number
  length_chars := length_padded pos lt
  isDigit _ := isDigit_of_mem_padded

@[simp]
theorem value_padded {width number : Nat} (pos : 0 < width) (lt : number < 10 ^ width) :
    (padded pos lt).value = number :=
  asciiValue_padded width number

/-- Digits are no white space. -/
theorem isBlank_of_mem (digits : Digits n) {c : Char} (mem : c ∈ digits.chars) :
    isBlank c = false :=
  isBlank_of_isDigit (digits.isDigit c mem)

theorem chars_ne_nil (digits : Digits (n + 1)) : digits.chars ≠ [] :=
  List.ne_nil_of_length_eq_add_one digits.length_chars

/-- Nothing is trimmed before digits. -/
theorem trimStart_chars_append (digits : Digits (n + 1)) (rest : List Char) :
    trimStart (digits.chars ++ rest) = digits.chars ++ rest := by
  obtain ⟨c, cs, first⟩ := List.exists_cons_of_ne_nil digits.chars_ne_nil
  have notBlank : isBlank c = false := digits.isBlank_of_mem (first ▸ List.mem_cons_self)
  rw [trimStart, first, List.cons_append, List.dropWhile_cons_of_neg (by simp [notBlank])]

/-- Nothing is trimmed behind digits. -/
theorem trimEnd_append_chars (digits : Digits (n + 1)) (start : List Char) :
    trimEnd (start ++ digits.chars) = start ++ digits.chars := by
  rw [trimEnd_eq_rdropWhile, List.rdropWhile_eq_self_iff]
  intro nonempty
  rw [List.getLast_append_of_ne_nil nonempty digits.chars_ne_nil,
    digits.isBlank_of_mem (List.getLast_mem digits.chars_ne_nil)]
  exact Bool.false_ne_true

end Digits

/-! ### Scanning digits -/

/-- What a scanner takes is handed to the scanners that follow. -/
theorem bind_eq_of_taken {α β : Type} {scanned : Option α} {next : α → Option β} {taken : α}
    {result : Option β} (first : scanned = some taken) (following : next taken = result) :
    scanned.bind next = result := by
  rw [first, Option.bind_some, following]

variable {n : Nat}

/-- The strict form takes a run of the width that it expects. -/
theorem fixed?_digits (digits : Digits n) (rest : List Char) :
    fixed? n (digits.chars ++ rest) = some (digits.value, rest) := by
  have all : digits.chars.all Char.isDigit = true := List.all_eq_true.mpr digits.isDigit
  rw [fixed?, List.take_left' digits.length_chars, List.drop_left' digits.length_chars,
    if_pos ⟨digits.length_chars, all⟩, Digits.value]

theorem fixed?_digits_end (digits : Digits n) :
    fixed? n digits.chars = some (digits.value, []) := by
  rw [← fixed?_digits, List.append_nil]

/-- The plain form takes a run of the greatest width that it expects. -/
theorem upTo?_digits (digits : Digits (n + 1)) (rest : List Char) :
    upTo? (n + 1) (digits.chars ++ rest) = some (digits.value, rest) := by
  have run : digits.chars.takeWhile Char.isDigit = digits.chars :=
    List.takeWhile_eq_self_iff.mpr digits.isDigit
  have nonempty : digits.chars.isEmpty = false :=
    List.isEmpty_eq_false_iff.mpr digits.chars_ne_nil
  rw [upTo?, digits.trimStart_chars_append, List.take_left' digits.length_chars, run]
  simp only [nonempty, List.drop_left]
  rfl

theorem upTo?_digits_end (digits : Digits (n + 1)) :
    upTo? (n + 1) digits.chars = some (digits.value, []) := by
  rw [← upTo?_digits, List.append_nil]

/-- A year without a sign is taken like any other number. -/
theorem year?_digits (digits : Digits 4) (rest : List Char) :
    year? (digits.chars ++ rest) = some (↑digits.value, rest) := by
  obtain ⟨c, cs, first⟩ := List.exists_cons_of_ne_nil digits.chars_ne_nil
  have digit : c.isDigit = true := digits.isDigit c (first ▸ List.mem_cons_self)
  have taken := upTo?_digits digits rest
  rw [year?, digits.trimStart_chars_append]
  rw [first, List.cons_append] at taken ⊢
  -- The first digit is no sign.
  split
  · next sign =>
    cases sign
    cases digit
  · next sign =>
    cases sign
    cases digit
  · rw [taken]
    rfl

/-- A fraction of the digits that are there is taken. -/
theorem fraction?_digits (digits : Digits (n + 1)) {rest : List Char}
    (ends : ∀ c ∈ rest.head?, c.isDigit = false) :
    fraction? ('.' :: (digits.chars ++ rest)) = some (fractionNanos digits.chars, rest) := by
  obtain ⟨run, after⟩ := digits.takeWhile_chars_append ends
  have nonempty : digits.chars.isEmpty = false :=
    List.isEmpty_eq_false_iff.mpr digits.chars_ne_nil
  rw [fraction?]
  simp only [run, after, nonempty]
  rfl

theorem fraction?_digits_end (digits : Digits (n + 1)) :
    fraction? ('.' :: digits.chars) = some (fractionNanos digits.chars, []) := by
  have ends : ∀ c ∈ ([] : List Char).head?, c.isDigit = false := by simp
  rw [← fraction?_digits digits ends, List.append_nil]

/-! ### What was scanned -/

/-- A number of a fixed width was a run of digits of that width. -/
theorem exists_digits_of_fixed? {cs rest : List Char} {value : Nat}
    (h : fixed? n cs = some (value, rest)) :
    ∃ digits : Digits n, cs = digits.chars ++ rest ∧ digits.value = value := by
  rw [fixed?] at h
  split at h
  · next run =>
    cases h
    exact ⟨⟨cs.take n, run.1, List.all_eq_true.mp run.2⟩, (List.take_append_drop n cs).symm, rfl⟩
  · cases h

/-- The character that was expected stood there. -/
theorem eq_cons_of_literal? {c : Char} {cs rest : List Char} (h : literal? c cs = some rest) :
    cs = c :: rest := by
  cases cs with
  | nil => cases h
  | cons d cs =>
      rw [literal?] at h
      split at h
      · next same =>
        cases h
        rw [eq_of_beq same]
      · cases h

/-- A fraction was not there, or a point and a run of digits. -/
theorem fraction?_cases {cs rest : List Char} {nanos : Nat}
    (h : fraction? cs = some (nanos, rest)) :
    cs = rest ∧ nanos = 0 ∨
      ∃ k, ∃ digits : Digits (k + 1), cs = '.' :: (digits.chars ++ rest) ∧
        nanos = fractionNanos digits.chars := by
  unfold fraction? at h
  split at h
  · next after =>
    dsimp only at h
    split at h
    · cases h
    · next nonempty =>
      cases h
      rw [List.isEmpty_iff, ← List.length_eq_zero_iff] at nonempty
      obtain ⟨k, length⟩ := Nat.exists_eq_add_one_of_ne_zero nonempty
      refine Or.inr ⟨k, ⟨_, length, fun c mem => List.mem_takeWhile_imp mem⟩, ?_, rfl⟩
      rw [List.takeWhile_append_dropWhile]
  · cases h
    exact Or.inl ⟨rfl, rfl⟩

end Timestamp

end FleetWatch
