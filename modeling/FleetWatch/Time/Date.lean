import FleetWatch.Text.DecimalDigit

/-!
# Calendar dates

Days of the proleptic Gregorian calendar, in every year, and their number counted from
1970-01-01.

The count starts the year in March, so that the leap day is the last day of a year and the days
before a month are given by one linear formula.

## Main Definitions

* `Date` — a day of the calendar
* `Date.ofParts?` — the day with a given year, month and day of the month
* `Date.dayNumber`, `Date.ofDayNumber` — the position of a day, and the day at a position
* `Date.text` — a day as `YYYY-MM-DD`
-/

namespace FleetWatch

open Text

/-- A year with a 29th of February. -/
def Date.isLeapYear (year : Int) : Bool :=
  year % 4 == 0 && (year % 100 != 0 || year % 400 == 0)

/-- The number of days of a month. -/
def Date.daysInMonth (year : Int) (month : Nat) : Nat :=
  if month = 2 then if Date.isLeapYear year then 29 else 28
  else if month = 4 ∨ month = 6 ∨ month = 9 ∨ month = 11 then 30
  else 31

/-- A day of the proleptic Gregorian calendar. -/
structure Date where
  year : Int
  month : Nat
  day : Nat
  month_pos : 1 ≤ month := by omega
  month_le : month ≤ 12 := by omega
  day_pos : 1 ≤ day := by omega
  day_le : day ≤ Date.daysInMonth year month
deriving DecidableEq, Repr

namespace Date

/-- The day with a given year, month and day of the month, if there is one. -/
def ofParts? (year : Int) (month day : Nat) : Option Date :=
  if h : (1 ≤ month ∧ month ≤ 12) ∧ 1 ≤ day ∧ day ≤ daysInMonth year month then
    some ⟨year, month, day, h.1.1, h.1.2, h.2.1, h.2.2⟩
  else none

/-! ### Day numbers -/

/-- The number of days from 1970-01-01. -/
def dayNumber (date : Date) : Int :=
  let year := if date.month ≤ 2 then date.year - 1 else date.year
  let month := (date.month + 9) % 12
  365 * year + year / 4 - year / 100 + year / 400 + ((153 * month + 2) / 5 + date.day : Nat) -
    719469

/-- A day by its position in the calendar: the cycle of 400 years, and in it the century, the
group of four years, the year, and the day, each counted from zero, with years from March. -/
structure Position where
  cycle : Int
  century : Nat
  group : Nat
  year : Nat
  day : Nat

/-- The position of a day number. The last century of a cycle and the last year of a group are
one day longer than the others. -/
def Position.of (number : Int) : Position :=
  let shifted := number + 719468
  let inCycle := (shifted % 146097).toNat
  let century := min (inCycle / 36524) 3
  let inCentury := inCycle - century * 36524
  let group := inCentury / 1461
  let inGroup := inCentury % 1461
  let year := min (inGroup / 365) 3
  ⟨shifted / 146097, century, group, year, inGroup - year * 365⟩

/-- The year, counted from March, of a position. -/
def Position.marchYear (p : Position) : Int :=
  p.cycle * 400 + (p.century * 100 + p.group * 4 + p.year : Nat)

/-- The month of a position, zero for March. -/
def Position.marchMonth (p : Position) : Nat :=
  (5 * p.day + 2) / 153

/-- The day of the month of a position. -/
def Position.dayOfMonth (p : Position) : Nat :=
  p.day - (153 * p.marchMonth + 2) / 5 + 1

/-- The month of a position, one for January. -/
def Position.month (p : Position) : Nat :=
  if p.marchMonth < 10 then p.marchMonth + 3 else p.marchMonth - 9

/-- The calendar year of a position. -/
def Position.calendarYear (p : Position) : Int :=
  if p.marchMonth < 10 then p.marchYear else p.marchYear + 1

/-- A year counted from March has at most 366 days. -/
theorem Position.day_le (n : Int) : (Position.of n).day ≤ 365 := by
  rw [Position.of]
  dsimp only
  omega

/-- Only a year that ends with a leap day has a day 365, counted from zero. -/
theorem Position.isLeapYear_of_day (n : Int) (h : (Position.of n).day = 365) :
    isLeapYear ((Position.of n).marchYear + 1) = true := by
  rw [Position.of] at h
  dsimp only at h
  rw [Position.marchYear, Position.of]
  simp only [isLeapYear, Bool.and_eq_true, Bool.or_eq_true, beq_iff_eq, bne_iff_ne, ne_eq]
  omega

/-- The twelve months of a year fill its 366 days. -/
theorem Position.marchMonth_le (p : Position) (h : p.day ≤ 365) : p.marchMonth ≤ 11 := by
  rw [Position.marchMonth]
  omega

/-- The months are counted from one. -/
theorem Position.month_pos (p : Position) : 1 ≤ p.month := by
  rw [Position.month]
  split <;> omega

/-- The months are counted up to twelve. -/
theorem Position.month_le (p : Position) (h : p.day ≤ 365) : p.month ≤ 12 := by
  have := p.marchMonth_le h
  rw [Position.month]
  split <;> omega

/-- February has at least 28 days. -/
theorem le_daysInMonth_february (year : Int) : 28 ≤ daysInMonth year 2 := by
  rw [daysInMonth, if_pos rfl]
  split <;> decide

/-- **The day of the month exists.** From March on the months are cut where the linear formula
says; February takes what is left, and its last day only in a leap year. -/
theorem Position.dayOfMonth_le (p : Position) (h : p.day ≤ 365)
    (leap : p.day = 365 → isLeapYear (p.marchYear + 1) = true) :
    p.dayOfMonth ≤ daysInMonth p.calendarYear p.month := by
  have march : p.marchMonth = (5 * p.day + 2) / 153 := rfl
  have day : p.dayOfMonth = p.day - (153 * p.marchMonth + 2) / 5 + 1 := rfl
  rcases Nat.lt_or_ge p.marchMonth 10 with early | late
  · have month : p.month = p.marchMonth + 3 := if_pos early
    rw [daysInMonth, month, if_neg (by omega)]
    split <;> omega
  · have month : p.month = p.marchMonth - 9 := if_neg (by omega)
    have year : p.calendarYear = p.marchYear + 1 := if_neg (by omega)
    rcases Nat.lt_or_ge p.marchMonth 11 with january | february
    · rw [daysInMonth, month, if_neg (by omega), if_neg (by omega)]
      omega
    · have two : p.month = 2 := by
        have := p.marchMonth_le h
        omega
      rw [two, year]
      by_cases last : p.day = 365
      · rw [daysInMonth, if_pos rfl, if_pos (leap last)]
        omega
      · have := le_daysInMonth_february (p.marchYear + 1)
        omega

/-- The day with a given number of days from 1970-01-01. -/
def ofDayNumber (number : Int) : Date :=
  let p := Position.of number
  { year := p.calendarYear
    month := p.month
    day := p.dayOfMonth
    month_pos := p.month_pos
    month_le := p.month_le (Position.day_le number)
    day_pos := Nat.le_add_left ..
    day_le := p.dayOfMonth_le (Position.day_le number) (Position.isLeapYear_of_day number) }

/-! ### Text -/

/-- A year with four digits; a year before 0 or after 9999 with a sign and at least four
digits. -/
def yearText (year : Int) : List Char :=
  if 0 ≤ year ∧ year ≤ 9999 then padded 4 year.toNat
  else (if year < 0 then '-' else '+') :: padded 4 year.natAbs

/-- A day as `YYYY-MM-DD`. -/
def chars (date : Date) : List Char :=
  yearText date.year ++ '-' :: padded 2 date.month ++ '-' :: padded 2 date.day

/-- A day as `YYYY-MM-DD`. -/
def text (date : Date) : String :=
  String.ofList date.chars

end Date

end FleetWatch
