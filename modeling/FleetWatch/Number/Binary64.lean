/-!
# Binary floating point

The finite numbers of the 64-bit binary format, as a sign, a whole mantissa and a power of two,
with the operations in exact arithmetic on natural numbers followed by one rounding to the
nearest number of the format, ties to the even mantissa. A result beyond the largest finite
number is `none`.

## Main Definitions

* `Binary64` — a finite number of the format
* `Binary64.ofQuotient?` — the number nearest to a quotient of natural numbers
* `Binary64.mul?`, `Binary64.div?` — product and quotient, rounded
* `Binary64.ofDecimal?` — a whole number times a power of ten, in at most three rounded steps
* `Binary64.truncate`, `Binary64.toInt64`, `Binary64.toBits` — the whole part, also within the
  signed 64-bit integers, and the encoding

## Design Notes

A number is kept with the mantissa below `2 ^ 53` and the least exponent `-1074`, so that two
equal numbers other than zero have equal fields.
-/

namespace FleetWatch

/-- A finite number of the 64-bit binary format: the mantissa times two to the exponent, with a
sign that zero has too. -/
structure Binary64 where
  negative : Bool
  mantissa : Nat
  exponent : Int
deriving DecidableEq, Repr

namespace Binary64

/-- The exponent of the smallest numbers of the format. -/
def minExponent : Int := -1074

/-- The exponent of the largest numbers of the format. -/
def maxExponent : Int := 971

/-- The quotient of two natural numbers rounded to the nearest whole number, a half to the even
neighbour. -/
def roundHalfEven (numerator denominator : Nat) : Nat :=
  let quotient := numerator / denominator
  let remainder := numerator % denominator
  if 2 * remainder > denominator ∨ (2 * remainder = denominator ∧ quotient % 2 = 1) then
    quotient + 1
  else quotient

/-- The exponent of the largest power of two that is at most the quotient of two positive natural
numbers. -/
def floorLog2 (numerator denominator : Nat) : Int :=
  let estimate : Int := (Nat.log2 numerator : Int) - Nat.log2 denominator
  if denominator * Nat.pow 2 estimate.toNat ≤ numerator * Nat.pow 2 (-estimate).toNat then estimate
  else estimate - 1

/-- The number of the format that is nearest to a quotient of natural numbers, with the given
sign. -/
def ofQuotient? (negative : Bool) (numerator denominator : Nat) : Option Binary64 :=
  if numerator = 0 then some ⟨negative, 0, minExponent⟩
  else
    let exponent := max minExponent (floorLog2 numerator denominator - 52)
    let mantissa :=
      roundHalfEven (numerator * Nat.pow 2 (-exponent).toNat)
        (denominator * Nat.pow 2 exponent.toNat)
    let (mantissa, exponent) :=
      if mantissa = Nat.pow 2 53 then (Nat.pow 2 52, exponent + 1) else (mantissa, exponent)
    if maxExponent < exponent then none else some ⟨negative, mantissa, exponent⟩

/-- The numerator of the magnitude as a fraction of natural numbers. -/
def numerator (x : Binary64) : Nat :=
  x.mantissa * Nat.pow 2 x.exponent.toNat

/-- The denominator of the magnitude as a fraction of natural numbers, a power of two. -/
def denominator (x : Binary64) : Nat :=
  Nat.pow 2 (-x.exponent).toNat

/-- Zero of either sign. -/
def isZero (x : Binary64) : Bool :=
  x.mantissa == 0

/-- Zero with the given sign. -/
def zero (negative : Bool) : Binary64 :=
  ⟨negative, 0, minExponent⟩

/-- The number nearest to an integer; `none` beyond the format. -/
def ofInt? (n : Int) : Option Binary64 :=
  ofQuotient? (n < 0) n.natAbs 1

/-- The rounded product. -/
def mul? (x y : Binary64) : Option Binary64 :=
  ofQuotient? (x.negative != y.negative) (x.numerator * y.numerator)
    (x.denominator * y.denominator)

/-- The rounded quotient; a quotient by zero is not a number of the format. -/
def div? (x y : Binary64) : Option Binary64 :=
  if y.isZero then none
  else
    ofQuotient? (x.negative != y.negative) (x.numerator * y.denominator)
      (x.denominator * y.numerator)

/-- The number nearest to a power of ten. -/
def powerOfTen? (n : Nat) : Option Binary64 :=
  ofQuotient? false (Nat.pow 10 n) 1

/-- A whole number times a power of ten. The whole number is rounded to the format, and then
multiplied or divided by the rounded power; a power below `10 ^ -308` is taken in two steps. Each
step rounds, so the result can differ from the nearest number by the last place. It is `none` if
it is too large, and zero if it is too small. -/
def ofDecimal? (negative : Bool) (significand : Nat) (exponent : Int) : Option Binary64 := do
  let whole ← ofQuotient? negative significand 1
  if whole.isZero then some whole
  else if 308 < exponent then none
  else if 0 ≤ exponent then whole.mul? (← powerOfTen? exponent.toNat)
  else if -308 ≤ exponent then whole.div? (← powerOfTen? (-exponent).toNat)
  else if -616 ≤ exponent then
    (← whole.div? (← powerOfTen? 308)).div? (← powerOfTen? (-(exponent + 308)).toNat)
  else some (zero negative)

/-- The whole part, toward zero. -/
def truncate (x : Binary64) : Int :=
  let magnitude : Int := x.numerator / x.denominator
  if x.negative then -magnitude else magnitude

/-- The whole part, toward zero, as a signed 64-bit integer. Beyond these it is the nearest of
them. -/
def toInt64 (x : Binary64) : Int :=
  max (-9223372036854775808) (min x.truncate 9223372036854775807)

/-- The 64 bits of the encoding, as a natural number: sign, biased exponent, fraction. -/
def toBits (x : Binary64) : Nat :=
  let magnitude :=
    if x.mantissa < Nat.pow 2 52 then x.mantissa
    else (x.exponent + 1075).toNat * Nat.pow 2 52 + (x.mantissa - Nat.pow 2 52)
  (if x.negative then Nat.pow 2 63 else 0) + magnitude

end Binary64

end FleetWatch
