import FleetWatch.Proofs.Time.ReadBack

/-!
# Times of files and the calendar

A file can carry a time that no instant stands for, since its seconds have 64 bits and the calendar
has not as many years. All other times are instants, to the nanosecond and in no leap second.

## Main Definitions

* `FileTime.date` — the day of a time, in the calendar without an end
* `FileTime.InCalendar` — a time in the years that instants have
-/

namespace FleetWatch

namespace FileTime

/-- The day of a time, in whatever year it is. -/
def date (time : FileTime) : Date :=
  Date.ofDayNumber (time.nanos / 86400000000000)

/-- A time in the years that instants have. -/
def InCalendar (time : FileTime) : Prop :=
  -262143 ≤ time.date.year ∧ time.date.year ≤ 262142

variable {time : FileTime} {t : Instant}

/-- The first time of the calendar, and the first time behind it. -/
theorem inCalendar_iff_nanos :
    time.InCalendar ↔ -8334601228800 * 1000000000 ≤ time.nanos ∧
      time.nanos < 8210266876800 * 1000000000 := by
  have first := Date.le_year_ofDayNumber_iff (-262143) (time.nanos / 86400000000000)
  have behind := Date.le_year_ofDayNumber_iff 262143 (time.nanos / 86400000000000)
  rw [Date.newYear] at first behind
  rw [InCalendar, date]
  omega

/-- **The instant of a time** is as many nanoseconds from the start of 1970, and in no leap
second. -/
theorem toInstant?_eq_some_iff :
    time.toInstant? = some t ↔
      t.nanos < 1000000000 ∧ t.seconds * 1000000000 + t.nanos = time.nanos := by
  rw [toInstant?, Instant.ofParts?_eq_some_iff]
  omega

/-- **The times that are instants** are those in the years of the calendar. -/
theorem isSome_toInstant?_iff : time.toInstant?.isSome = true ↔ time.InCalendar := by
  rw [inCalendar_iff_nanos, toInstant?, Instant.isSome_ofParts?_iff (by omega)]
  omega

/-- An instant is on the day of its time. -/
theorem date_of_toInstant?_eq_some (h : time.toInstant? = some t) : t.date = time.date := by
  obtain ⟨noLeap, same⟩ := toInstant?_eq_some_iff.mp h
  have day : t.seconds / 86400 = time.nanos / 86400000000000 := by omega
  rw [Instant.date, day, date]

end FileTime

end FleetWatch
