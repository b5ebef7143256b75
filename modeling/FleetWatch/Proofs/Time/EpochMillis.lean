import FleetWatch.Proofs.Json.IntegerWord
import FleetWatch.Proofs.Number.WholeNumber
import FleetWatch.Proofs.Time.ReadBack
import FleetWatch.Session.Record

/-!
# Milliseconds that are counted in integers

A record may count the milliseconds from the start of 1970 in an integer. The integer is read at
floating-point precision, and cut to 64 bits again, but neither matters: the instants of the
calendar have fewer than `2 ^ 53` milliseconds, which are kept exactly, and a larger integer stays
beyond them whatever is rounded or cut.

## Main Statements

* `Instant.ofMillis?_eq_some_iff` — which instant a number of milliseconds stands for
* `Instant.isSome_ofMillis?_iff` — the numbers that stand for one, by the years of the calendar
-/

namespace FleetWatch

namespace Instant

/-! ### Milliseconds and instants -/

/-- **The instant at a number of milliseconds** is that many after the start of 1970, and in no leap
second. -/
theorem ofMillis?_eq_some_iff {millis : Int} {t : Instant} :
    ofMillis? millis = some t ↔
      t.nanos < 1000000000 ∧ t.seconds * 1000000000 + t.nanos = millis * 1000000 := by
  rw [ofMillis?, ofParts?_eq_some_iff]
  omega

/-- The milliseconds that stand for an instant. -/
theorem isSome_ofMillis?_iff_bounds (millis : Int) :
    (ofMillis? millis).isSome = true ↔ -8334601228800000 ≤ millis ∧ millis < 8210266876800000 := by
  rw [ofMillis?, isSome_ofParts?_iff (by omega)]
  omega

/-- **The milliseconds that stand for an instant** are those of the days in the years of the
calendar. -/
theorem isSome_ofMillis?_iff (millis : Int) :
    (ofMillis? millis).isSome = true ↔
      -262143 ≤ (Date.ofDayNumber (millis / 86400000)).year ∧
        (Date.ofDayNumber (millis / 86400000)).year ≤ 262142 := by
  have first := Date.le_year_ofDayNumber_iff (-262143) (millis / 86400000)
  have behind := Date.le_year_ofDayNumber_iff 262143 (millis / 86400000)
  rw [Date.newYear] at first behind
  rw [isSome_ofMillis?_iff_bounds]
  omega

/-- Beyond `2 ^ 53` milliseconds there are no instants. -/
theorem ofMillis?_eq_none {millis : Int} (beyond : 2 ^ 53 ≤ millis.natAbs) :
    ofMillis? millis = none := by
  rw [← Option.not_isSome_iff_eq_none, isSome_ofMillis?_iff_bounds]
  omega

/-! ### Milliseconds at floating-point precision -/

/-- **Neither rounding nor cutting to 64 bits moves an instant**, or brings one back that is beyond
the calendar. -/
theorem ofMillisFloat?_ofInt? {millis : Int} (room : millis.natAbs < 2 ^ 64) :
    (Binary64.ofInt? millis).bind ofMillisFloat? = ofMillis? millis := by
  rcases Nat.lt_or_ge millis.natAbs (2 ^ 53) with kept | rounded
  · obtain ⟨x, found, same⟩ := Binary64.ofInt?_of_lt kept
    have small : x.truncate.natAbs < 2 ^ 63 := by
      rw [same]
      omega
    rw [found, Option.bind_some, ofMillisFloat?, Binary64.toInt64_of_lt small, same]
  · obtain ⟨x, found, beyond⟩ := Binary64.ofInt?_of_le rounded room
    have stays := Binary64.le_natAbs_toInt64 beyond (by decide)
    rw [found, Option.bind_some, ofMillisFloat?, ofMillis?_eq_none stays, ofMillis?_eq_none rounded]

/-- The zero with a minus is the start of 1970. -/
theorem ofMillisFloat?_zero (negative : Bool) :
    ofMillisFloat? (Binary64.zero negative) = ofMillis? 0 := by
  have zero : (Binary64.zero negative).truncate.natAbs = 0 := by
    rw [Binary64.natAbs_truncate, Binary64.magnitude_zero]
  rw [ofMillisFloat?, Binary64.toInt64_of_lt (by omega), Int.natAbs_eq_zero.mp zero]

end Instant

/-! ### Records that count milliseconds -/

/-- An integer that is written in a document stands for the instant at as many milliseconds. -/
theorem Record.instantOfMillis?_of_integerWord (word : Json.IntegerWord)
    (lower : -9223372036854775808 ≤ word.value) (upper : word.value < 18446744073709551616) :
    ∃ n, Json.Number.ofWord? word.chars = some n ∧
      instantOfMillis? n = Instant.ofMillis? word.value := by
  rcases word.ofWord?_of_fits lower upper with read | ⟨zero, read⟩
  · exact ⟨_, read, Instant.ofMillisFloat?_ofInt? (by omega)⟩
  · refine ⟨_, read, ?_⟩
    rw [zero, instantOfMillis?, Json.Number.toBinary64?, Option.bind_eq_bind, Option.bind_some,
      Instant.ofMillisFloat?_zero]

/-- **Integers count milliseconds exactly.** An integer that fits 64 bits, with or without a sign,
is read as a number. A record with this timestamp has the instant that lies as many milliseconds
from the start of 1970, and in no leap second, if the day of these milliseconds lies in the years
-262143 to 262142; otherwise it has none. -/
theorem Record.instant?_of_integerWord (word : Json.IntegerWord)
    (lower : -9223372036854775808 ≤ word.value) (upper : word.value < 18446744073709551616) :
    ∃ n, Json.Number.ofWord? word.chars = some n ∧
      ∀ record : Record, record.timestamp = some (.number n) →
        (∀ t, record.instant? = some t ↔
          t.nanos < 1000000000 ∧ t.seconds * 1000000000 + t.nanos = word.value * 1000000) ∧
        (record.instant?.isSome = true ↔
          -262143 ≤ (Date.ofDayNumber (word.value / 86400000)).year ∧
            (Date.ofDayNumber (word.value / 86400000)).year ≤ 262142) := by
  obtain ⟨n, read, stands⟩ := Record.instantOfMillis?_of_integerWord word lower upper
  refine ⟨n, read, fun record carried => ?_⟩
  have instant : record.instant? = Instant.ofMillis? word.value := by
    rw [instant?, carried, ← stands]
    rfl
  rw [instant]
  exact ⟨fun t => Instant.ofMillis?_eq_some_iff, Instant.isSome_ofMillis?_iff word.value⟩

/-- The first instant of the calendar is counted exactly, and the largest integer of 64 bits counts
none. -/
theorem Record.instant?_of_integerWord_ends :
    let first : Json.IntegerWord :=
      ⟨true, "8334601228800000".toList, by decide, List.all_eq_true.mp rfl, by decide⟩
    let last : Json.IntegerWord :=
      ⟨false, "18446744073709551615".toList, by decide, List.all_eq_true.mp rfl, by decide⟩
    let record (value : Int) : Record := ⟨none, none, some (.number (.integer value)), none, none⟩
    last.value < 18446744073709551616 ∧ -9223372036854775808 ≤ first.value ∧
      (record first.value).instant? =
        some ⟨-8334601228800, 0, by decide, by decide, by decide, by decide⟩ ∧
      (record last.value).instant? = none := by
  intro first last record
  have firstValue : first.value = -8334601228800000 := by decide
  have lastValue : last.value = 18446744073709551615 := by decide
  obtain ⟨n, read, counted⟩ := Record.instant?_of_integerWord first (by omega) (by omega)
  obtain ⟨n', read', counted'⟩ := Record.instant?_of_integerWord last (by omega) (by omega)
  have number : Json.Number.ofWord? first.chars = some (.integer first.value) := by decide +kernel
  have number' : Json.Number.ofWord? last.chars = some (.integer last.value) := by decide +kernel
  obtain rfl := Option.some.inj (read.symm.trans number)
  obtain rfl := Option.some.inj (read'.symm.trans number')
  refine ⟨by omega, by omega, ?_, ?_⟩
  · refine ((counted (record first.value) rfl).1 _).mpr ?_
    rw [firstValue]
    decide
  · rw [Option.eq_none_iff_forall_ne_some]
    intro t found
    have ⟨noLeap, same⟩ := ((counted' (record last.value) rfl).1 t).mp found
    have latest := t.seconds_le
    omega

end FleetWatch
