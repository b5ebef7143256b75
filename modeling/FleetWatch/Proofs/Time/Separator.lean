import FleetWatch.Proofs.Time.ReadBack

/-!
# The mark between day and time

A date-time without an offset is written as a day, a mark and a time of day, of which the mark is
the letter `T` or a space, and the seconds and their fraction may be missing. This module says what
is read of such texts. All combinations are read but one: after a space the seconds must not be
missing.

## Main Definitions

* `Timestamp.DayText` — a day as `YYYY-MM-DD`, whether or not the calendar has it
* `Timestamp.ClockText` — a time of day as `hh:mm`, `hh:mm:ss` or `hh:mm:ss.f`, whether or not a
  clock shows it

## Design Notes

A day and a time of day are texts of fixed widths here, so what the scanners make of them is known
from what they make of runs of digits. Whether such a text stands for a day of the calendar or a
time on a clock is another matter, and is kept apart (`DayText.date?`, `ClockText.time?`): the mark
makes a difference in what is scanned, and shows only where both are there.
-/

namespace FleetWatch

open Text

namespace Timestamp

/-! ### Days and times of day -/

/-- **A day as text**: four digits of the year, two of the month and two of the day. -/
structure DayText where
  year : Digits 4
  month : Digits 2
  day : Digits 2

namespace DayText

/-- The characters of the text. -/
def chars (text : DayText) : List Char :=
  text.year.chars ++ '-' :: (text.month.chars ++ '-' :: text.day.chars)

/-- The day that the text stands for, if the calendar has it. -/
def date? (text : DayText) : Option Date :=
  Date.ofParts? text.year.value text.month.value text.day.value

/-- The year of a day has four digits. -/
theorem year_of_date? {text : DayText} {date : Date} (h : text.date? = some date) :
    0 ≤ date.year ∧ date.year ≤ 9999 := by
  have lt := text.year.value_lt
  rw [date?, Date.ofParts?] at h
  split at h
  · cases h
    dsimp only
    omega
  · cases h

end DayText

/-- **A time of day as text**: two digits of the hour and of the minute; then two of the second or
none; then a fraction of any number of digits or none. -/
inductive ClockText where
  | minutes (hour minute : Digits 2)
  | seconds (hour minute second : Digits 2)
  | fraction {n : Nat} (hour minute second : Digits 2) (digits : Digits (n + 1))

namespace ClockText

/-- The characters of the text. -/
def chars : ClockText → List Char
  | minutes hour minute => hour.chars ++ ':' :: minute.chars
  | seconds hour minute second => hour.chars ++ ':' :: (minute.chars ++ ':' :: second.chars)
  | fraction hour minute second digits =>
    hour.chars ++ ':' :: (minute.chars ++ ':' :: (second.chars ++ '.' :: digits.chars))

/-- Whether the seconds are written. -/
def hasSeconds : ClockText → Bool
  | minutes .. => false
  | seconds .. => true
  | fraction .. => true

/-- The time that the text stands for, if a clock shows it. -/
def time? : ClockText → Option TimeOfDay
  | minutes hour minute => TimeOfDay.ofParts? hour.value minute.value 0 0
  | seconds hour minute second => TimeOfDay.ofParts? hour.value minute.value second.value 0
  | fraction hour minute second digits =>
    TimeOfDay.ofParts? hour.value minute.value second.value (fractionNanos digits.chars)

/-- A time of day ends with digits. -/
theorem trimEnd_append_chars (text : ClockText) (start : List Char) :
    trimEnd (start ++ text.chars) = start ++ text.chars := by
  have ends : ∃ front, ∃ n, ∃ last : Digits (n + 1), text.chars = front ++ last.chars := by
    cases text with
    | minutes hour minute => exact ⟨hour.chars ++ [':'], _, minute, by simp [chars]⟩
    | seconds hour minute second =>
        exact ⟨hour.chars ++ ':' :: minute.chars ++ [':'], _, second, by simp [chars]⟩
    | fraction hour minute second digits =>
        exact ⟨hour.chars ++ ':' :: minute.chars ++ ':' :: second.chars ++ ['.'], _, digits,
          by simp [chars]⟩
  obtain ⟨front, n, last, parts⟩ := ends
  rw [parts, ← List.append_assoc, last.trimEnd_append_chars]

end ClockText

/-! ### Scanning days and times of day -/

/-- A day in full width is taken, if the calendar has it. -/
theorem plainDate?_chars (day : DayText) (rest : List Char) :
    plainDate? (day.chars ++ rest) = day.date?.map (·, rest) := by
  rw [DayText.chars, List.append_assoc, List.cons_append, List.append_assoc, List.cons_append]
  refine bind_eq_of_taken (year?_digits day.year _) ?_
  refine bind_eq_of_taken (literal?_cons ..) ?_
  refine bind_eq_of_taken (upTo?_digits day.month _) ?_
  refine bind_eq_of_taken (literal?_cons ..) ?_
  refine bind_eq_of_taken (upTo?_digits day.day _) ?_
  show day.date?.bind _ = _
  cases day.date? <;> rfl

/-- A time with seconds is taken, if a clock shows it. -/
theorem plainClock?_chars (time : ClockText) :
    plainClock? time.chars = if time.hasSeconds then time.time? else none := by
  cases time with
  | minutes hour minute =>
      refine bind_eq_of_taken (upTo?_digits hour _) ?_
      refine bind_eq_of_taken (literal?_cons ..) ?_
      refine bind_eq_of_taken (upTo?_digits_end minute) ?_
      rfl
  | seconds hour minute second =>
      refine bind_eq_of_taken (upTo?_digits hour _) ?_
      refine bind_eq_of_taken (literal?_cons ..) ?_
      refine bind_eq_of_taken (upTo?_digits minute _) ?_
      refine bind_eq_of_taken (literal?_cons ..) ?_
      refine bind_eq_of_taken (upTo?_digits_end second) ?_
      rfl
  | fraction hour minute second digits =>
      refine bind_eq_of_taken (upTo?_digits hour _) ?_
      refine bind_eq_of_taken (literal?_cons ..) ?_
      refine bind_eq_of_taken (upTo?_digits minute _) ?_
      refine bind_eq_of_taken (literal?_cons ..) ?_
      refine bind_eq_of_taken (upTo?_digits second _) ?_
      refine bind_eq_of_taken (fraction?_digits_end digits) ?_
      rfl

/-- A time without seconds is taken, if a clock shows it. -/
theorem plainMinutes?_chars (time : ClockText) :
    plainMinutes? time.chars = if time.hasSeconds then none else time.time? := by
  have more (hour minute : Digits 2) (rest : List Char) :
      plainMinutes? (hour.chars ++ ':' :: (minute.chars ++ rest)) =
        if rest.isEmpty then TimeOfDay.ofParts? hour.value minute.value 0 0 else none := by
    refine bind_eq_of_taken (upTo?_digits hour _) ?_
    refine bind_eq_of_taken (literal?_cons ..) ?_
    exact bind_eq_of_taken (upTo?_digits minute _) rfl
  cases time with
  | minutes hour minute =>
      have all := more hour minute []
      rw [List.append_nil] at all
      exact all
  | seconds hour minute second => exact more hour minute _
  | fraction hour minute second digits => exact more hour minute _

/-- White space before a number is passed over. -/
theorem plainClock?_blank {c : Char} (blank : isBlank c = true) (cs : List Char) :
    plainClock? (c :: cs) = plainClock? cs := by
  have first : upTo? 2 (c :: cs) = upTo? 2 cs := by
    rw [upTo?, upTo?, trimStart, trimStart, List.dropWhile_cons_of_pos blank]
  rw [plainClock?, plainClock?, first]

/-- After the letter `T` every time of day is taken. -/
theorem plainTime?_letter (time : ClockText) : plainTime? ('T' :: time.chars) = time.time? := by
  rw [plainTime?, plainClock?_chars, plainMinutes?_chars]
  cases time.hasSeconds with
  | true => cases time.time? <;> rfl
  | false => rfl

/-- After a space a time of day is taken if its seconds are written. -/
theorem plainTime?_space (time : ClockText) :
    plainTime? (' ' :: time.chars) = if time.hasSeconds then time.time? else none := by
  show plainClock? (' ' :: time.chars) = _
  rw [plainClock?_blank rfl, plainClock?_chars]

end Timestamp

open Timestamp

/-- **The strict form of a day and a time of day** with a time zone behind them: the seconds must be
written, and all parts must be there. -/
theorem Instant.readStrict?_zoned (day : DayText) (time : ClockText) {mark : Char}
    (isMark : mark = 'T' ∨ mark = ' ') {zone : List Char}
    (ends : ∀ c ∈ zone.head?, c.isDigit = false ∧ c ≠ '.' ∧ c ≠ ':') :
    readStrict? (day.chars ++ mark :: (time.chars ++ zone)) =
      if time.hasSeconds then
        (offset? zone).bind fun (offset, rest) => day.date?.bind fun date =>
          time.time?.bind fun clock => if rest.isEmpty then ofLocal? date clock offset else none
      else none := by
  have noDigit : ∀ c ∈ zone.head?, c.isDigit = false := fun c first => (ends c first).1
  have noFraction : fraction? zone = some (0, zone) := by
    cases zone with
    | nil => rfl
    | cons c rest =>
        unfold fraction?
        split
        · next point =>
          cases point
          exact absurd rfl (ends '.' rfl).2.1
        · rfl
  have noColon : literal? ':' zone = none := by
    cases zone with
    | nil => rfl
    | cons c rest => rw [literal?, if_neg (by simpa using (ends c rfl).2.2)]
  have marked : (((literal? 'T' (mark :: (time.chars ++ zone))).orElse
      fun _ => literal? 't' (mark :: (time.chars ++ zone))).orElse
        fun _ => literal? ' ' (mark :: (time.chars ++ zone))) = some (time.chars ++ zone) := by
    rcases isMark with rfl | rfl <;> rfl
  rw [DayText.chars, List.append_assoc, List.cons_append, List.append_assoc, List.cons_append]
  refine bind_eq_of_taken (fixed?_digits day.year _) ?_
  refine bind_eq_of_taken (literal?_cons ..) ?_
  refine bind_eq_of_taken (fixed?_digits day.month _) ?_
  refine bind_eq_of_taken (literal?_cons ..) ?_
  refine bind_eq_of_taken (fixed?_digits day.day _) ?_
  refine bind_eq_of_taken marked ?_
  -- The zone begins where the second colon, the fraction or the zone itself should stand.
  cases time with
  | minutes hour minute =>
      rw [ClockText.chars, List.append_assoc, List.cons_append]
      refine bind_eq_of_taken (fixed?_digits hour _) ?_
      refine bind_eq_of_taken (literal?_cons ..) ?_
      refine bind_eq_of_taken (fixed?_digits minute _) ?_
      show (literal? ':' zone).bind _ = none
      rw [noColon, Option.bind_none]
  | seconds hour minute second =>
      rw [ClockText.chars, List.append_assoc, List.cons_append, List.append_assoc,
        List.cons_append]
      refine bind_eq_of_taken (fixed?_digits hour _) ?_
      refine bind_eq_of_taken (literal?_cons ..) ?_
      refine bind_eq_of_taken (fixed?_digits minute _) ?_
      refine bind_eq_of_taken (literal?_cons ..) ?_
      refine bind_eq_of_taken (fixed?_digits second _) ?_
      exact bind_eq_of_taken noFraction rfl
  | fraction hour minute second digits =>
      rw [ClockText.chars, List.append_assoc, List.cons_append, List.append_assoc,
        List.cons_append, List.append_assoc, List.cons_append]
      refine bind_eq_of_taken (fixed?_digits hour _) ?_
      refine bind_eq_of_taken (literal?_cons ..) ?_
      refine bind_eq_of_taken (fixed?_digits minute _) ?_
      refine bind_eq_of_taken (literal?_cons ..) ?_
      refine bind_eq_of_taken (fixed?_digits second _) ?_
      exact bind_eq_of_taken (fraction?_digits digits noDigit) rfl

/-- The strict form does not read a date-time without an offset. -/
theorem Instant.readStrict?_eq_none (day : DayText) (time : ClockText) {mark : Char}
    (isMark : mark = 'T' ∨ mark = ' ') :
    readStrict? (day.chars ++ mark :: time.chars) = none := by
  have ends : ∀ c ∈ ([] : List Char).head?, c.isDigit = false ∧ c ≠ '.' ∧ c ≠ ':' := by simp
  have read := readStrict?_zoned day time isMark ends
  rw [List.append_nil] at read
  rw [read]
  exact ite_self none

/-- There is no white space around a day and a time of day. -/
theorem Timestamp.trim_marked (day : DayText) (time : ClockText) (mark : Char) :
    trim (day.chars ++ mark :: time.chars) = day.chars ++ mark :: time.chars := by
  have start : trimStart (day.chars ++ mark :: time.chars) = day.chars ++ mark :: time.chars := by
    rw [DayText.chars, List.append_assoc, day.year.trimStart_chars_append]
  rw [trim, start, List.append_cons, time.trimEnd_append_chars]

/-- A date-time without an offset is read as a day and a time of day. -/
theorem Instant.readChars?_marked (day : DayText) (time : ClockText) {mark : Char}
    (isMark : mark = 'T' ∨ mark = ' ') :
    readChars? (day.chars ++ mark :: time.chars) =
      day.date?.bind fun date => (plainTime? (mark :: time.chars)).bind fun clock =>
        ofLocal? date clock 0 := by
  rw [readChars?, trim_marked, readStrict?_eq_none day time isMark, Option.orElse_none, readPlain?,
    plainDate?_chars]
  cases day.date? <;> rfl

/-! ### Days and times that are there -/

/-- The days of the years from 0 to 9999 lie within three million days of 1970. -/
theorem Date.dayNumber_bounds {date : Date} (plain : 0 ≤ date.year ∧ date.year ≤ 9999) :
    -3000000 ≤ date.dayNumber ∧ date.dayNumber ≤ 3000000 := by
  have month_pos := date.month_pos
  have month_le := date.month_le
  have day_pos := date.day_pos
  have day_le := date.day_le.trans (Date.daysInMonth_le _ _)
  rw [dayNumber]
  split <;> omega

/-- **A day of the years from 0 to 9999 and a time of day make an instant.** -/
theorem Instant.isSome_ofLocal? {date : Date} (plain : 0 ≤ date.year ∧ date.year ≤ 9999)
    (time : TimeOfDay) : (ofLocal? date time 0).isSome = true := by
  have ⟨lower, upper⟩ := date.dayNumber_bounds plain
  have hour_lt := time.hour_lt
  have minute_lt := time.minute_lt
  have second_le := time.second_le
  have nanos_lt := time.nanos_lt
  rw [ofLocal?, ofParts?, dif_pos (by omega)]
  rfl

/-- **The mark matters just where the seconds are missing.** A day in full width, the letter `T` and
a time of day are read as the instant that they make, if the calendar has the day and a clock shows
the time, and else as none. With a space for the letter the same is read if the seconds are written,
and nothing if they are not. So the two marks give the same, unless the seconds are missing and day
and time are there. -/
theorem Instant.read?_marked (day : DayText) (time : ClockText) :
    let marked (mark : Char) := read? (String.ofList (day.chars ++ mark :: time.chars))
    (marked 'T' = day.date?.bind fun date => time.time?.bind fun clock =>
      ofLocal? date clock 0) ∧
    ((marked 'T').isSome = (day.date?.isSome && time.time?.isSome)) ∧
    (marked ' ' = if time.hasSeconds then marked 'T' else none) ∧
    (marked 'T' = marked ' ' ↔
      time.hasSeconds = true ∨ day.date? = none ∨ time.time? = none) := by
  intro marked
  have letter : marked 'T' = day.date?.bind fun date => time.time?.bind fun clock =>
      ofLocal? date clock 0 := by
    show readChars? (String.ofList _).toList = _
    rw [String.toList_ofList, readChars?_marked day time (Or.inl rfl), plainTime?_letter]
  have space : marked ' ' = if time.hasSeconds then marked 'T' else none := by
    rw [letter]
    show readChars? (String.ofList _).toList = _
    rw [String.toList_ofList, readChars?_marked day time (Or.inr rfl), plainTime?_space]
    cases time.hasSeconds with
    | true => rfl
    | false => cases day.date? <;> rfl
  have isSome : (marked 'T').isSome = (day.date?.isSome && time.time?.isSome) := by
    rw [letter]
    cases found : day.date? with
    | none => rfl
    | some date =>
        cases time.time? with
        | none => rfl
        | some clock => exact isSome_ofLocal? (DayText.year_of_date? found) clock
  refine ⟨letter, isSome, space, ?_⟩
  rw [space]
  cases time.hasSeconds with
  | true => simp
  | false =>
      simp only [Bool.false_eq_true, if_false, false_or]
      rw [← Option.isNone_iff_eq_none, ← Option.not_isSome, isSome]
      cases day.date? <;> cases time.time? <;> simp

/-- **A time without seconds after a space is not read**, though it is after the letter `T`. -/
theorem Instant.not_forall_read?_marked_eq :
    ¬ ∀ (day : DayText) (time : ClockText),
      read? (String.ofList (day.chars ++ 'T' :: time.chars)) =
        read? (String.ofList (day.chars ++ ' ' :: time.chars)) := by
  intro same
  -- "2026-10-17T15:58" and "2026-10-17 15:58"
  let day : DayText :=
    ⟨⟨['2', '0', '2', '6'], rfl, List.all_eq_true.mp rfl⟩,
      ⟨['1', '0'], rfl, List.all_eq_true.mp rfl⟩, ⟨['1', '7'], rfl, List.all_eq_true.mp rfl⟩⟩
  let time : ClockText :=
    .minutes ⟨['1', '5'], rfl, List.all_eq_true.mp rfl⟩
      ⟨['5', '8'], rfl, List.all_eq_true.mp rfl⟩
  have letter : read? (String.ofList (day.chars ++ 'T' :: time.chars)) =
      some ⟨1792252680, 0, by decide, by decide, by decide, by decide⟩ := by
    decide +kernel
  have space : read? (String.ofList (day.chars ++ ' ' :: time.chars)) = none := by
    decide +kernel
  rw [same day time, space] at letter
  cases letter

end FleetWatch
