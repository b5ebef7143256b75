import FleetWatch.Number.Binary64
import Mathlib.Algebra.Order.Group.Nat
import Mathlib.Algebra.Ring.Nat

/-!
# Whole numbers at floating-point precision

A whole number is rounded to the format when it is put into it. Below `2 ^ 53` nothing is rounded,
and the whole part of the result is the number again. From there on the result can differ from the
number, but never falls below `2 ^ 53`: each power of two that is reached belongs to the format.

## Main Statements

* `Binary64.ofInt?_of_lt` — what is read back below `2 ^ 53`
* `Binary64.ofInt?_of_le` — what is left of a number from `2 ^ 53` on
-/

namespace FleetWatch.Binary64

/-! ### Rounding -/

/-- A quotient by one is not rounded. -/
theorem roundHalfEven_one (n : Nat) : roundHalfEven n 1 = n := by
  simp [roundHalfEven, Nat.mod_one]

/-- A quotient is never rounded below its whole part. -/
theorem div_le_roundHalfEven (numerator denominator : Nat) :
    numerator / denominator ≤ roundHalfEven numerator denominator := by
  rw [roundHalfEven]
  split
  · exact Nat.le_succ _
  · exact Nat.le_refl _

/-- The largest power of two that is at most a whole number. -/
theorem floorLog2_one {n : Nat} (pos : 0 < n) : floorLog2 n 1 = n.log2 := by
  have reached : 1 * Nat.pow 2 n.log2 ≤ n * Nat.pow 2 0 := by
    rw [Nat.one_mul, Nat.pow_eq, Nat.pow_eq, Nat.pow_zero, Nat.mul_one]
    exact Nat.log2_self_le pos.ne'
  have one : Nat.log2 1 = 0 := by decide
  rw [floorLog2]
  simp only [one, Int.ofNat_zero, Int.sub_zero, Int.toNat_natCast]
  rw [Int.toNat_neg_natCast, if_pos reached]

/-! ### The whole part -/

/-- The whole part without the sign. -/
def magnitude (x : Binary64) : Nat :=
  x.numerator / x.denominator

/-- The whole part is the magnitude with the sign. -/
theorem truncate_eq (x : Binary64) :
    x.truncate = if x.negative then -(x.magnitude : Int) else x.magnitude := by
  rw [truncate, magnitude, Int.natCast_ediv]

theorem natAbs_truncate (x : Binary64) : x.truncate.natAbs = x.magnitude := by
  rw [truncate_eq]
  split <;> omega

/-- A mantissa that is to be doubled some times stands for a multiple of it. -/
theorem magnitude_up (negative : Bool) (mantissa up : Nat) :
    magnitude ⟨negative, mantissa, up⟩ = mantissa * 2 ^ up := by
  rw [magnitude, numerator, denominator, Int.toNat_natCast, Int.toNat_neg_natCast, Nat.pow_eq,
    Nat.pow_eq, Nat.pow_zero, Nat.div_one]

/-- A mantissa that is to be halved some times stands for a part of it. -/
theorem magnitude_down (negative : Bool) (mantissa down : Nat) :
    magnitude ⟨negative, mantissa, -down⟩ = mantissa / 2 ^ down := by
  rw [magnitude, numerator, denominator, Int.neg_neg, Int.toNat_natCast, Int.toNat_neg_natCast,
    Nat.pow_eq, Nat.pow_eq, Nat.pow_zero, Nat.mul_one]

@[simp]
theorem magnitude_zero (negative : Bool) : (zero negative).magnitude = 0 := by
  rw [magnitude, numerator, zero, Nat.zero_mul, Nat.zero_div]

/-! ### Whole numbers in the format -/

/-- The exponent of a whole number leaves 53 binary digits of it. -/
theorem exponent_one {n : Nat} (pos : 0 < n) :
    max minExponent (floorLog2 n 1 - 52) = (n.log2 : Int) - 52 := by
  rw [floorLog2_one pos, minExponent]
  omega

/-- **A whole number below `2 ^ 53` has room in the mantissa**, so nothing of it is rounded. -/
theorem exists_ofQuotient?_of_lt (negative : Bool) {n : Nat} (lt : n < 2 ^ 53) :
    ∃ x, ofQuotient? negative n 1 = some x ∧ x.negative = negative ∧ x.magnitude = n := by
  rcases Nat.eq_zero_or_pos n with rfl | pos
  · exact ⟨zero negative, rfl, rfl, magnitude_zero negative⟩
  · have log_lt : n.log2 < 53 := (Nat.log2_lt pos.ne').mpr lt
    obtain ⟨down, split⟩ := Nat.exists_eq_add_of_le (Nat.le_of_lt_succ log_lt)
    have exponent : (n.log2 : Int) - 52 = -down := by omega
    have mantissa_lt : n * 2 ^ down < 2 ^ 53 := by
      calc n * 2 ^ down < 2 ^ (n.log2 + 1) * 2 ^ down :=
            Nat.mul_lt_mul_of_pos_right Nat.lt_log2_self (Nat.two_pow_pos down)
        _ = 2 ^ 53 := by
            rw [← Nat.pow_add]
            congr 1
            omega
    have found : ofQuotient? negative n 1 = some ⟨negative, n * 2 ^ down, -down⟩ := by
      rw [ofQuotient?, if_neg pos.ne']
      simp only [exponent_one pos, exponent, Int.neg_neg, Int.toNat_natCast, Int.toNat_neg_natCast,
        Nat.pow_eq, Nat.pow_zero, Nat.mul_one, roundHalfEven_one]
      rw [if_neg mantissa_lt.ne, if_neg]
      rw [maxExponent]
      omega
    refine ⟨_, found, rfl, ?_⟩
    rw [magnitude_down, Nat.mul_div_cancel n (Nat.two_pow_pos down)]

/-- The power of two that a whole number reaches is the least that it can be rounded to. -/
theorem le_roundHalfEven_of_log2 {n up : Nat} (pos : 0 < n) (split : n.log2 = 52 + up) :
    2 ^ 52 ≤ roundHalfEven n (2 ^ up) := by
  refine Nat.le_trans ?_ (div_le_roundHalfEven n _)
  rw [Nat.le_div_iff_mul_le (Nat.two_pow_pos up), ← Nat.pow_add, ← split]
  exact Nat.log2_self_le pos.ne'

/-- A full mantissa that is doubled at least once has reached `2 ^ 53`. -/
theorem le_magnitude_up (negative : Bool) {mantissa up : Nat} (full : 2 ^ 52 ≤ mantissa)
    (doubled : 0 < up) : 2 ^ 53 ≤ magnitude ⟨negative, mantissa, up⟩ := by
  rw [magnitude_up]
  calc 2 ^ 53 = 2 ^ 52 * 2 ^ 1 := by rw [← Nat.pow_add]
    _ ≤ mantissa * 2 ^ up :=
        Nat.mul_le_mul full (Nat.pow_le_pow_right (by decide) doubled)

/-- **A whole number from `2 ^ 53` on is rounded, but not below `2 ^ 53`.** With at most 64
binary digits it is far from the end of the format. -/
theorem exists_ofQuotient?_of_le (negative : Bool) {n : Nat} (le : 2 ^ 53 ≤ n) (lt : n < 2 ^ 64) :
    ∃ x, ofQuotient? negative n 1 = some x ∧ 2 ^ 53 ≤ x.magnitude := by
  have pos : 0 < n := Nat.lt_of_lt_of_le (Nat.two_pow_pos 53) le
  have log_ge : 53 ≤ n.log2 := (Nat.le_log2 pos.ne').mpr le
  have log_lt : n.log2 < 64 := (Nat.log2_lt pos.ne').mpr lt
  obtain ⟨up, split⟩ := Nat.exists_eq_add_of_le (Nat.le_trans (Nat.le_succ 52) log_ge)
  have exponent : (n.log2 : Int) - 52 = up := by omega
  have reached : 2 ^ 52 ≤ roundHalfEven n (2 ^ up) := le_roundHalfEven_of_log2 pos split
  rw [ofQuotient?, if_neg pos.ne']
  simp only [exponent_one pos, exponent, Int.toNat_natCast, Int.toNat_neg_natCast, Nat.pow_eq,
    Nat.pow_zero, Nat.mul_one, Nat.one_mul]
  -- A carry out of the mantissa is taken up by the exponent.
  by_cases carried : roundHalfEven n (2 ^ up) = 2 ^ 53
  · have inFormat : ¬ maxExponent < ((up + 1 : Nat) : Int) := by
      rw [maxExponent]
      omega
    rw [if_pos carried]
    exact ⟨_, if_neg inFormat, le_magnitude_up negative (Nat.le_refl _) (Nat.succ_pos up)⟩
  · have inFormat : ¬ maxExponent < (up : Int) := by
      rw [maxExponent]
      omega
    rw [if_neg carried]
    exact ⟨_, if_neg inFormat, le_magnitude_up negative reached (by omega)⟩

/-! ### Integers -/

/-- **An integer below `2 ^ 53` in magnitude is read back from the format.** -/
theorem ofInt?_of_lt {n : Int} (lt : n.natAbs < 2 ^ 53) :
    ∃ x, ofInt? n = some x ∧ x.truncate = n := by
  obtain ⟨x, found, sign, magnitude⟩ := exists_ofQuotient?_of_lt (n < 0) lt
  refine ⟨x, found, ?_⟩
  rw [truncate_eq, sign, magnitude]
  simp only [decide_eq_true_eq]
  split <;> omega

/-- **A larger integer of at most 64 digits does not come back below `2 ^ 53`.** -/
theorem ofInt?_of_le {n : Int} (le : 2 ^ 53 ≤ n.natAbs) (lt : n.natAbs < 2 ^ 64) :
    ∃ x, ofInt? n = some x ∧ 2 ^ 53 ≤ x.truncate.natAbs := by
  obtain ⟨x, found, atLeast⟩ := exists_ofQuotient?_of_le (n < 0) le lt
  exact ⟨x, found, (natAbs_truncate x).symm ▸ atLeast⟩

/-! ### Signed 64-bit integers -/

/-- A whole part of at most 63 binary digits is a signed 64-bit integer. -/
theorem toInt64_of_lt {x : Binary64} (lt : x.truncate.natAbs < 2 ^ 63) :
    x.toInt64 = x.truncate := by
  rw [toInt64]
  omega

/-- A whole part beyond a bound is beyond it as a signed 64-bit integer too. -/
theorem le_natAbs_toInt64 {x : Binary64} {bound : Nat} (le : bound ≤ x.truncate.natAbs)
    (room : bound < 2 ^ 63) : bound ≤ x.toInt64.natAbs := by
  rw [toInt64]
  omega

end FleetWatch.Binary64
