import FleetWatch.Text.DecimalDigit
import FleetWatch.Time.Date
import FleetWatch.Toml.Scanner

/-!
# TOML numbers and dates

Reading the values that start with a digit or a sign: dates and times, numbers with a fraction or
exponent, and whole numbers. An underscore may stand between two digits of a number.

## Main Definitions

* `Toml.scanDateTime`, `Toml.scanFloat`, `Toml.scanInteger` — the three kinds
* `Toml.scanNumber` — any of them
-/

namespace FleetWatch.Toml

open Text

/-! ### Digits -/

/-- The further digits of a number, without the underscores between them, and the rest. -/
def moreDigits (isDigit : Char → Bool) : List Char → Option (List Char × List Char)
  | [] => some ([], [])
  | '_' :: d :: cs =>
    if isDigit d then (moreDigits isDigit cs).map fun (ds, rest) => (d :: ds, rest) else none
  | c :: cs =>
    if isDigit c then (moreDigits isDigit cs).map fun (ds, rest) => (c :: ds, rest)
    else if c == '_' then none
    else some ([], c :: cs)

/-- Takes one digit or more. -/
def digits (isDigit : Char → Bool) : Scan (List Char) := do
  match ← get with
  | [] => failure
  | c :: _ =>
    if isDigit c then
      let (ds, rest) ← StateT.lift (moreDigits isDigit (← get))
      set rest
      return ds
    else failure

/-- Takes exactly `n` digits. -/
def fixed (n : Nat) : Scan Nat := do
  let cs ← get
  let run := cs.take n
  if run.length = n ∧ run.all Char.isDigit then
    set (cs.drop n)
    return asciiValue run
  else failure

/-- Refuses a text unless a condition holds. -/
def ensure (condition : Bool) : Scan Unit :=
  if condition then pure () else failure

/-- Takes a sign, if there is one, and says whether it is a minus. -/
def sign : Scan Bool :=
  (Scan.char '-' *> pure true) <|> (Scan.char '+' *> pure false) <|> pure false

/-! ### Dates and times -/

/-- Takes a day of the calendar. -/
def fullDate : Scan Unit := do
  let year ← fixed 4
  Scan.char '-'
  let month ← fixed 2
  Scan.char '-'
  let day ← fixed 2
  ensure (Date.ofParts? year month day).isSome

/-- Takes hour and minute. -/
def hourMinute : Scan Unit := do
  let hour ← fixed 2
  Scan.char ':'
  let minute ← fixed 2
  ensure (hour < 24 && minute < 60)

/-- Takes a fraction of a second. -/
def secondFraction : Scan Unit := do
  Scan.char '.'
  ensure (!(← Scan.many Char.isDigit).isEmpty)

/-- Takes a time of day. -/
def partialTime : Scan Unit := do
  hourMinute
  Scan.char ':'
  ensure ((← fixed 2) ≤ 60)
  let _ ← Scan.optional secondFraction

/-- Takes an offset from UTC. -/
def timeOffset : Scan Unit :=
  Scan.char 'Z' <|> Scan.char 'z' <|> (Scan.char '+' *> hourMinute) <|>
    (Scan.char '-' *> hourMinute)

/-- Takes a day, a day and a time, or a time. -/
def scanDateTime : Scan Toml := do
  let dated : Scan Unit := do
    fullDate
    let _ ← Scan.optional do
      Scan.char 'T' <|> Scan.char 't' <|> Scan.char ' '
      partialTime
      let _ ← Scan.optional timeOffset
  dated <|> partialTime
  return .dateTime

/-! ### Numbers -/

/-- Takes a whole number in base ten without needless zeros at the front. -/
def decimalDigits : Scan (List Char) := do
  if (← Scan.peek) == some '0' then
    Scan.char '0'
    return ['0']
  else digits Char.isDigit

/-- Takes the exponent of a number, with its sign. -/
def exponentPart : Scan Int := do
  Scan.char 'e' <|> Scan.char 'E'
  let negative ← sign
  let value : Int := asciiValue (← digits Char.isDigit)
  return if negative then -value else value

/-- Whether digits, with the point before those of the fraction, times a power of ten lie beyond
the largest number at floating-point precision. -/
def overflows (whole fraction : List Char) (exponent : Int) : Bool :=
  let significant := (whole ++ fraction).dropWhile (· == '0')
  let power := exponent - fraction.length
  let magnitude := significant.length + power
  if significant.isEmpty || magnitude ≤ 300 then false
  else if 310 < magnitude then true
  else
    Nat.pow 2 1024 - Nat.pow 2 970 ≤
      asciiValue significant * Nat.pow 10 power.toNat / Nat.pow 10 (-power).toNat

/-- Takes infinity or what is no number. -/
def specialFloat : Scan Toml := do
  let _ ← sign
  Scan.word ['i', 'n', 'f'] <|> Scan.word ['n', 'a', 'n']
  return .float

/-- Takes a number with a fraction or exponent. One that is too large is refused, unless it is
negative. -/
def scanFloat : Scan Toml := do
  let plain : Scan Toml := do
    let negative ← sign
    let whole ← decimalDigits
    let (fraction, exponent) ←
      (do return ([], ← exponentPart)) <|> do
        Scan.char '.'
        let fraction ← digits Char.isDigit
        return (fraction, (← Scan.optional exponentPart).getD 0)
    ensure (negative || !overflows whole fraction exponent)
    return .float
  plain <|> specialFloat

/-- A whole number within 64 bits. -/
def integerOf? (value : Int) : Option Toml :=
  if -9223372036854775808 ≤ value ∧ value < 9223372036854775808 then some (.integer value)
  else none

/-- Takes digits of a base after its mark. -/
def based (mark : Char) (base : Nat) : Scan Toml := do
  Scan.word ['0', mark]
  let isDigit (c : Char) : Bool := ((hexValue? c).map fun digit => decide (digit < base)).getD false
  let ds ← digits isDigit
  let value := ds.foldl (fun value d => value * base + (hexValue? d).getD 0) 0
  StateT.lift (integerOf? value)

/-- Takes a whole number. -/
def scanInteger : Scan Toml :=
  based 'x' 16 <|> based 'o' 8 <|> based 'b' 2 <|> do
    let negative ← sign
    let value : Int := asciiValue (← decimalDigits)
    StateT.lift (integerOf? (if negative then -value else value))

/-- Takes a date, a number with a fraction or exponent, or a whole number. -/
def scanNumber : Scan Toml :=
  scanDateTime <|> scanFloat <|> scanInteger

end FleetWatch.Toml
