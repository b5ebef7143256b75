import FleetWatch.Number.Binary64
import FleetWatch.Text.DecimalDigit

/-!
# Shortest decimals

The decimal text of a binary floating-point number with the fewest digits that still read back as
the same number, and of those the nearest to it.

The numbers that round to a given one form an interval, with its ends if the mantissa is even.
For a growing count of digits the two neighbours of the number on the decimal grid of that many
digits are tested; seventeen digits always suffice.

## Main Definitions

* `Shortest.decimal` — the digits and the power of ten of the last of them
* `Shortest.text` — the number as text: positional from `0.00001` up to below `10 ^ 16`, with at
  least one digit after the point, otherwise one digit before the point and a signed exponent
-/

namespace FleetWatch.Shortest

open FleetWatch.Text

/-- A positive number and the interval of the reals that round to it, over one denominator. -/
structure Rounding where
  value : Nat
  low : Nat
  high : Nat
  denominator : Nat
  closed : Bool

/-- The interval of the reals that round to a number other than zero. Below a power of two the
gap to the neighbour is half as wide. -/
def Rounding.of (x : Binary64) : Rounding :=
  let scale := Nat.pow 2 (x.exponent - 2).toNat
  let below := if x.mantissa = Nat.pow 2 52 ∧ Binary64.minExponent < x.exponent then 1 else 2
  { value := 4 * x.mantissa * scale
    low := (4 * x.mantissa - below) * scale
    high := (4 * x.mantissa + 2) * scale
    denominator := Nat.pow 2 (2 - x.exponent).toNat
    closed := x.mantissa % 2 = 0 }

/-- The power of ten of the leading digit. -/
def Rounding.leadingPower (r : Rounding) : Int :=
  if r.denominator ≤ r.value then
    (decimal (r.value / r.denominator)).length - 1
  else
    let zeros := (decimal (r.denominator / r.value)).length
    if r.denominator ≤ r.value * Nat.pow 10 (zeros - 1) then 1 - (zeros : Int) else -(zeros : Int)

/-- The nearer of the two neighbours on the grid of multiples of `10 ^ power` that lie in the
interval, if there is one. -/
def Rounding.onGrid? (r : Rounding) (power : Int) : Option Nat :=
  let unit := Nat.pow 10 power.toNat * r.denominator
  let factor := Nat.pow 10 (-power).toNat
  let value := r.value * factor
  let inside (n : Nat) : Bool :=
    if r.closed then r.low * factor ≤ n * unit && n * unit ≤ r.high * factor
    else r.low * factor < n * unit && n * unit < r.high * factor
  let down := value / unit
  let up := down + 1
  let upIsNearer := 2 * value > (2 * down + 1) * unit ||
    (2 * value == (2 * down + 1) * unit && down % 2 == 1)
  if inside down && inside up then some (if upIsNearer then up else down)
  else if inside down then some down
  else if inside up then some up
  else none

/-- The digits of the shortest decimal of a number other than zero, and the power of ten of the
last of them. -/
def Rounding.shortest (r : Rounding) : List Char × Int :=
  let lead := r.leadingPower
  let found := (List.range 17).findSome? fun (more : Nat) =>
    let power := lead - (more : Int)
    (r.onGrid? power).map fun n => (decimal n, power)
  found.getD (['0'], 0)

/-- The digits of a number other than zero without trailing zeros, and the power of ten of the
first of them. -/
def digits (x : Binary64) : List Char × Int :=
  let (all, power) := (Rounding.of x).shortest
  ((all.reverse.dropWhile (· == '0')).reverse, power + all.length - 1)

/-- The magnitude of a number other than zero as text, from its digits and the power of ten of
the first. -/
def layout (digits : List Char) (power : Int) : List Char :=
  if -5 ≤ power ∧ power < 16 then
    if power < 0 then
      '0' :: '.' :: (List.replicate (-power - 1).toNat '0' ++ digits)
    else
      let whole := power.toNat + 1
      if digits.length ≤ whole then
        digits ++ List.replicate (whole - digits.length) '0' ++ ['.', '0']
      else digits.take whole ++ '.' :: digits.drop whole
  else
    let fraction := digits.drop 1
    digits.take 1 ++ (if fraction.isEmpty then [] else '.' :: fraction) ++
      'e' :: (if power < 0 then '-' else '+') :: decimal power.natAbs

/-- A number as text, with the fewest digits that read back as the number. -/
def text (x : Binary64) : List Char :=
  let magnitude :=
    if x.isZero then ['0', '.', '0']
    else
      let (ds, power) := digits x
      layout ds power
  if x.negative then '-' :: magnitude else magnitude

end FleetWatch.Shortest
