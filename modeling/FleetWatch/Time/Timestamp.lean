import FleetWatch.Time.Instant
import FleetWatch.Number.Binary64
import FleetWatch.Text.Blank

/-!
# Timestamps

Instants as they are written in logs. They are emitted in one form, `YYYY-MM-DDThh:mm:ss.mmmZ`,
and accepted in two. The strict form has an offset from UTC and fixed widths. The plain form has
no offset and means UTC; its time of day may be cut short or missing, its numbers may lack
leading zeros, and white space may stand before them. A number stands for milliseconds.

## Main Definitions

* `Instant.iso` — the emitted form
* `TimeOfDay` — a time on a clock, a leap second included
* `Instant.readStrict?`, `Instant.readPlain?` — the two accepted forms
* `Instant.read?` — either of them, between white space
* `Instant.ofMillisFloat?` — the instant at a floating-point number of milliseconds
-/

namespace FleetWatch

open Text

/-! ### Writing -/

/-- An instant in the emitted form, with the milliseconds cut off below. A leap second is the
sixty-first of its minute. -/
def Instant.isoChars (t : Instant) : List Char :=
  let second := t.secondOfDay % 60 + t.nanos / 1000000000
  let millis := t.nanos % 1000000000 / 1000000
  t.date.chars ++ 'T' :: padded 2 (t.secondOfDay / 3600) ++
    ':' :: padded 2 (t.secondOfDay / 60 % 60) ++ ':' :: padded 2 second ++
    '.' :: padded 3 millis ++ ['Z']

/-- An instant in the emitted form. -/
def Instant.iso (t : Instant) : String :=
  String.ofList t.isoChars

/-! ### Times of day -/

/-- A time on a clock. The sixty-first second of a minute is a leap second. -/
structure TimeOfDay where
  hour : Nat
  minute : Nat
  second : Nat
  nanos : Nat
  hour_lt : hour < 24
  minute_lt : minute < 60
  second_le : second ≤ 60
  nanos_lt : nanos < 1000000000

/-- The time with given parts, if there is one. -/
def TimeOfDay.ofParts? (hour minute second nanos : Nat) : Option TimeOfDay :=
  if h : (hour < 24 ∧ minute < 60) ∧ second ≤ 60 ∧ nanos < 1000000000 then
    some ⟨hour, minute, second, nanos, h.1.1, h.1.2, h.2.1, h.2.2⟩
  else none

/-- The start of a day. -/
def TimeOfDay.midnight : TimeOfDay :=
  ⟨0, 0, 0, 0, by decide, by decide, by decide, by decide⟩

/-- The instant of a day and a time of day, on a clock that is ahead of UTC by some seconds. -/
def Instant.ofLocal? (date : Date) (time : TimeOfDay) (offset : Int) : Option Instant :=
  let second := min time.second 59
  let leap := time.second - 59
  ofParts?
    (date.dayNumber * 86400 + (time.hour * 3600 + time.minute * 60 + second : Nat) - offset)
    (time.nanos + leap * 1000000000)

/-! ### Scanning -/

namespace Timestamp

/-- Takes exactly `n` digits. -/
def fixed? (n : Nat) (cs : List Char) : Option (Nat × List Char) :=
  let run := cs.take n
  if run.length = n ∧ run.all Char.isDigit then some (asciiValue run, cs.drop n) else none

/-- Takes one to `n` digits, as many as there are, after white space. -/
def upTo? (n : Nat) (cs : List Char) : Option (Nat × List Char) :=
  let cs := trimStart cs
  let run := (cs.take n).takeWhile Char.isDigit
  if run.isEmpty then none else some (asciiValue run, cs.drop run.length)

/-- Takes a given character. -/
def literal? (c : Char) : List Char → Option (List Char)
  | [] => none
  | d :: rest => if d == c then some rest else none

/-- The nanoseconds of the digits after a point, of which the first nine count. -/
def fractionNanos (digits : List Char) : Nat :=
  let kept := digits.take 9
  asciiValue kept * Nat.pow 10 (9 - kept.length)

/-- Takes a fraction of a second, if one is there. A point must have a digit after it. -/
def fraction? : List Char → Option (Nat × List Char)
  | '.' :: rest =>
    let run := rest.takeWhile Char.isDigit
    if run.isEmpty then none else some (fractionNanos run, rest.dropWhile Char.isDigit)
  | rest => some (0, rest)

/-- Takes a time zone: the letter of UTC, or a sign (the typographic minus included), two digits
of hours and two of minutes, less than a day in all. The offset is in seconds. -/
def offset? : List Char → Option (Int × List Char)
  | 'Z' :: rest => some (0, rest)
  | 'z' :: rest => some (0, rest)
  | sign :: rest => do
    let negative ← if sign == '+' then some false
      else if sign == '-' || sign == '\u2212' then some true else none
    let (hours, rest) ← fixed? 2 rest
    let rest ← literal? ':' rest
    let (minutes, rest) ← fixed? 2 rest
    if hours < 24 ∧ minutes < 60 then
      let seconds : Int := (hours * 3600 + minutes * 60 : Nat)
      some (if negative then -seconds else seconds, rest)
    else none
  | [] => none

/-- Takes a year: any number of digits after a sign, otherwise at most four. -/
def year? (cs : List Char) : Option (Int × List Char) :=
  match trimStart cs with
  | '+' :: rest => signed rest 1
  | '-' :: rest => signed rest (-1)
  | rest => (upTo? 4 rest).map fun (value, rest) => ((value : Int), rest)
where
  /-- Takes all digits that follow a sign. -/
  signed (cs : List Char) (sign : Int) : Option (Int × List Char) :=
    let run := cs.takeWhile Char.isDigit
    if run.isEmpty then none else some (sign * asciiValue run, cs.dropWhile Char.isDigit)

/-- Takes a day in the plain form. -/
def plainDate? (cs : List Char) : Option (Date × List Char) := do
  let (year, cs) ← year? cs
  let cs ← literal? '-' cs
  let (month, cs) ← upTo? 2 cs
  let cs ← literal? '-' cs
  let (day, cs) ← upTo? 2 cs
  let date ← Date.ofParts? year month day
  some (date, cs)

/-- Reads hour, minute and second, with a fraction if one is there, to the end. -/
def plainClock? (cs : List Char) : Option TimeOfDay := do
  let (hour, cs) ← upTo? 2 cs
  let cs ← literal? ':' cs
  let (minute, cs) ← upTo? 2 cs
  let cs ← literal? ':' cs
  let (second, cs) ← upTo? 2 cs
  let (nanos, cs) ← fraction? cs
  if cs.isEmpty then TimeOfDay.ofParts? hour minute second nanos else none

/-- Reads hour and minute to the end. -/
def plainMinutes? (cs : List Char) : Option TimeOfDay := do
  let (hour, cs) ← upTo? 2 cs
  let cs ← literal? ':' cs
  let (minute, cs) ← upTo? 2 cs
  if cs.isEmpty then TimeOfDay.ofParts? hour minute 0 0 else none

/-- Reads what follows the day in the plain form: nothing, the letter `T` and a time with or
without seconds, or any white space and a time with seconds. -/
def plainTime? : List Char → Option TimeOfDay
  | [] => some .midnight
  | 'T' :: rest => (plainClock? rest).orElse fun _ => plainMinutes? rest
  | rest => plainClock? rest

end Timestamp

/-! ### Reading -/

open Timestamp in
/-- The instant of a date-time with an offset, in fixed widths. -/
def Instant.readStrict? (cs : List Char) : Option Instant := do
  let (year, cs) ← fixed? 4 cs
  let cs ← literal? '-' cs
  let (month, cs) ← fixed? 2 cs
  let cs ← literal? '-' cs
  let (day, cs) ← fixed? 2 cs
  let cs ← ((literal? 'T' cs).orElse fun _ => literal? 't' cs).orElse fun _ => literal? ' ' cs
  let (hour, cs) ← fixed? 2 cs
  let cs ← literal? ':' cs
  let (minute, cs) ← fixed? 2 cs
  let cs ← literal? ':' cs
  let (second, cs) ← fixed? 2 cs
  let (nanos, cs) ← fraction? cs
  let (offset, cs) ← offset? cs
  let date ← Date.ofParts? year month day
  let time ← TimeOfDay.ofParts? hour minute second nanos
  if cs.isEmpty then Instant.ofLocal? date time offset else none

open Timestamp in
/-- The instant of a date or date-time without an offset, in UTC. -/
def Instant.readPlain? (cs : List Char) : Option Instant := do
  let (date, cs) ← plainDate? cs
  let time ← plainTime? cs
  Instant.ofLocal? date time 0

/-- The instant that a text stands for, in either form and between white space. -/
def Instant.readChars? (raw : List Char) : Option Instant :=
  let cs := trim raw
  (Instant.readStrict? cs).orElse fun _ => Instant.readPlain? cs

/-- The instant that a text stands for, in either form and between white space. -/
def Instant.read? (raw : String) : Option Instant :=
  Instant.readChars? raw.toList

/-- The instant at a floating-point number of milliseconds, cut off toward zero and at the limits of
64 bits. -/
def Instant.ofMillisFloat? (millis : Binary64) : Option Instant :=
  Instant.ofMillis? millis.toInt64

end FleetWatch
