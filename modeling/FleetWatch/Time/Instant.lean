import FleetWatch.Time.Date

/-!
# Instants

Points in time to the nanosecond, as seconds from the start of 1970 in UTC and a fraction. A
fraction of a second or more stands for a leap second, which is kept as the second before it.

The times that a file system keeps for its files reach farther than the calendar does, so they
have a type of their own.

## Main Definitions

* `Instant` — a point in time, in the years -262143 to 262142
* `Instant.ofMillis?` — the instant at a number of milliseconds
* `Instant.since` — the time that has passed from one instant to another
* `FileTime` — a time of a file
* `FileTime.toInstant?` — the time as an instant, if the calendar reaches it
-/

namespace FleetWatch

/-- A point in time, as whole seconds from the start of 1970 in UTC and nanoseconds within the
second. Nanoseconds of one second and more belong to a leap second, which can only follow the last
second of a minute. -/
structure Instant where
  seconds : Int
  nanos : Nat
  le_seconds : -8334601228800 ≤ seconds
  seconds_le : seconds ≤ 8210266876799
  nanos_lt : nanos < 2000000000
  leap : 1000000000 ≤ nanos → seconds % 60 = 59
deriving DecidableEq, Repr

namespace Instant

/-- The instant with given seconds and nanoseconds, if there is one. -/
def ofParts? (seconds : Int) (nanos : Nat) : Option Instant :=
  if h : (-8334601228800 ≤ seconds ∧ seconds ≤ 8210266876799) ∧ nanos < 2000000000 ∧
      (1000000000 ≤ nanos → seconds % 60 = 59) then
    some ⟨seconds, nanos, h.1.1, h.1.2, h.2.1, h.2.2⟩
  else none

/-- The instant at a number of milliseconds from the start of 1970. -/
def ofMillis? (millis : Int) : Option Instant :=
  ofParts? (millis / 1000) ((millis % 1000).toNat * 1000000)

/-- The number of milliseconds from the start of 1970, rounded down. -/
def millis (t : Instant) : Int :=
  t.seconds * 1000 + (t.nanos / 1000000 : Nat)

/-- The day of an instant. -/
def date (t : Instant) : Date :=
  Date.ofDayNumber (t.seconds / 86400)

/-- The seconds of an instant within its day. -/
def secondOfDay (t : Instant) : Nat :=
  (t.seconds % 86400).toNat

/-- An instant inside a leap second. -/
def inLeapSecond (t : Instant) : Bool :=
  1000000000 ≤ t.nanos

/-- The order of time. -/
def le (a b : Instant) : Bool :=
  a.seconds < b.seconds || (a.seconds == b.seconds && a.nanos ≤ b.nanos)

theorem le_iff {a b : Instant} :
    a.le b = true ↔ a.seconds < b.seconds ∨ a.seconds = b.seconds ∧ a.nanos ≤ b.nanos := by
  simp [le]

theorem le_trans {a b c : Instant} (hab : a.le b = true) (hbc : b.le c = true) :
    a.le c = true := by
  rw [le_iff] at hab hbc ⊢
  omega

theorem le_total (a b : Instant) : a.le b = true ∨ b.le a = true := by
  rw [le_iff, le_iff]
  omega

theorem le_antisymm {a b : Instant} (hab : a.le b = true) (hba : b.le a = true) : a = b := by
  rw [le_iff] at hab hba
  obtain ⟨seconds, nanos, _, _, _, _⟩ := a
  obtain ⟨seconds', nanos', _, _, _, _⟩ := b
  have same : seconds = seconds' ∧ nanos = nanos' := by
    simp only at hab hba
    omega
  obtain ⟨rfl, rfl⟩ := same
  rfl

/-- The nanoseconds that have passed from `earlier` to `later`. A leap second in which the instant
with the smaller time of day lies counts as a second of its own. -/
def since (later earlier : Instant) : Int :=
  let extra : Int :=
    if earlier.secondOfDay < later.secondOfDay ∧ earlier.inLeapSecond then 1
    else if later.secondOfDay < earlier.secondOfDay ∧ later.inLeapSecond then -1
    else 0
  (later.seconds - earlier.seconds + extra) * 1000000000 + later.nanos - earlier.nanos

end Instant

/-- The time of a file, as nanoseconds from the start of 1970. The seconds are those of a signed
64-bit count. -/
structure FileTime where
  nanos : Int
  le_nanos : -9223372036854775808 * 1000000000 ≤ nanos
  nanos_lt : nanos < 9223372036854775808 * 1000000000
deriving DecidableEq, Repr

namespace FileTime

/-- The time at a number of nanoseconds, if a file can have it. -/
def ofNanos? (nanos : Int) : Option FileTime :=
  if h : -9223372036854775808 * 1000000000 ≤ nanos ∧
      nanos < 9223372036854775808 * 1000000000 then
    some ⟨nanos, h.1, h.2⟩
  else none

/-- The time of a file that is written at an instant. -/
def ofInstant (t : Instant) : FileTime where
  nanos := t.seconds * 1000000000 + t.nanos
  le_nanos := by have := t.le_seconds; have := t.nanos_lt; omega
  nanos_lt := by have := t.seconds_le; have := t.nanos_lt; omega

/-- The time some seconds and nanoseconds earlier, if a file can have it. -/
def before? (time : FileTime) (seconds : Nat) (nanos : Nat := 0) : Option FileTime :=
  ofNanos? (time.nanos - (seconds * 1000000000 + nanos : Nat))

/-- The time as an instant, if it lies in the years of the calendar. -/
def toInstant? (time : FileTime) : Option Instant :=
  Instant.ofParts? (time.nanos / 1000000000) (time.nanos % 1000000000).toNat

end FileTime

end FleetWatch
