import FleetWatch.Proofs.Time.Separator

/-!
# Date-times without an offset mean UTC

A date-time that the strict form reads with the letter of UTC behind it is read as the same instant
without that letter, by the plain form. A day alone is read as its midnight.

The two forms are scanned by different rules, so that they agree is shown by way of the texts that
the strict form takes: its widths are fixed, so such a text is a day, a mark, a time of day with
seconds and a time zone, and what the plain form makes of the first three is known.

## Main Definitions

* `Timestamp.separator?` — the character between day and time of day
-/

namespace FleetWatch

open Text

namespace Timestamp

/-! ### What the strict form takes -/

/-- The time of day that was taken had its seconds written. -/
theorem exists_clockText {cs rest minutes minutes' seconds seconds' after : List Char}
    {hour minute second nanos : Nat} (hours : fixed? 2 cs = some (hour, minutes))
    (colon : literal? ':' minutes = some minutes')
    (sixty : fixed? 2 minutes' = some (minute, seconds))
    (colon' : literal? ':' seconds = some seconds')
    (last : fixed? 2 seconds' = some (second, after))
    (fraction : fraction? after = some (nanos, rest)) :
    ∃ time : ClockText, time.hasSeconds = true ∧ cs = time.chars ++ rest ∧
      time.time? = TimeOfDay.ofParts? hour minute second nanos := by
  obtain ⟨hour, rfl, rfl⟩ := exists_digits_of_fixed? hours
  obtain rfl := eq_cons_of_literal? colon
  obtain ⟨minute, rfl, rfl⟩ := exists_digits_of_fixed? sixty
  obtain rfl := eq_cons_of_literal? colon'
  obtain ⟨second, rfl, rfl⟩ := exists_digits_of_fixed? last
  rcases fraction?_cases fraction with ⟨rfl, rfl⟩ | ⟨n, digits, rfl, rfl⟩
  · exact ⟨.seconds hour minute second, rfl, by simp [ClockText.chars], rfl⟩
  · exact ⟨.fraction hour minute second digits, rfl, by simp [ClockText.chars], rfl⟩

/-- The mark that was taken is the letter in one of its cases, or a space. -/
theorem exists_mark {cs rest : List Char}
    (h : (((literal? 'T' cs).orElse fun _ => literal? 't' cs).orElse
      fun _ => literal? ' ' cs) = some rest) :
    ∃ mark, (mark = 'T' ∨ mark = 't' ∨ mark = ' ') ∧ cs = mark :: rest := by
  cases upper : literal? 'T' cs with
  | some after =>
      rw [upper, Option.orElse_some, Option.orElse_some] at h
      exact ⟨'T', Or.inl rfl, eq_cons_of_literal? (upper.trans h)⟩
  | none =>
      rw [upper, Option.orElse_none] at h
      cases lower : literal? 't' cs with
      | some after =>
          rw [lower, Option.orElse_some] at h
          exact ⟨'t', Or.inr (Or.inl rfl), eq_cons_of_literal? (lower.trans h)⟩
      | none =>
          rw [lower, Option.orElse_none] at h
          exact ⟨' ', Or.inr (Or.inr rfl), eq_cons_of_literal? h⟩

/-- Digits are taken, not the letter of UTC. -/
theorem fixed?_keeps {n value : Nat} {cs rest : List Char} (h : fixed? n cs = some (value, rest))
    (hz : 'Z' ∈ cs) : 'Z' ∈ rest := by
  obtain ⟨digits, rfl, -⟩ := exists_digits_of_fixed? h
  rcases List.mem_append.mp hz with digit | left
  · cases digits.isDigit 'Z' digit
  · exact left

/-- A time zone to the end that ends with the letter of UTC is that letter. -/
theorem eq_zulu_of_offset? {cs : List Char} {offset : Int} (h : offset? cs = some (offset, []))
    (zulu : cs.getLast? = some 'Z') : cs = ['Z'] ∧ offset = 0 := by
  unfold offset? at h
  split at h
  · cases h
    exact ⟨rfl, rfl⟩
  · cases h
    cases zulu
  · next sign rest notZulu _ =>
    have zulu : 'Z' ∈ sign :: rest := List.mem_of_getLast? zulu
    have zulu : 'Z' ∈ rest := by
      rcases List.mem_cons.mp zulu with rfl | mem
      · exact (notZulu rfl).elim
      · exact mem
    simp only [Option.bind_eq_bind] at h
    -- What follows is the same for both signs, and ends with a digit.
    split at h
    on_goal 2 => split at h
    on_goal 3 => cases h
    all_goals
      simp only [Option.bind_some, Option.bind_eq_some_iff, Prod.exists] at h
      obtain ⟨hour, cs₁, hour_eq, cs₂, colon, minute, cs₃, minute_eq, end_eq⟩ := h
      have left : 'Z' ∈ cs₃ := fixed?_keeps minute_eq
        (literal?_keeps colon (by decide) (fixed?_keeps hour_eq zulu))
      split at end_eq
      · cases end_eq
        cases left
      · cases end_eq
  · cases h

end Timestamp

open Timestamp

/-- **What the strict form takes**: a day in full width, a mark, a time of day with its seconds, and
a time zone. -/
theorem Instant.exists_parts_of_readStrict? {cs : List Char} {t : Instant}
    (h : readStrict? cs = some t) :
    ∃ (day : DayText) (mark : Char) (time : ClockText) (zone : List Char) (offset : Int),
      cs = day.chars ++ mark :: (time.chars ++ zone) ∧
        (mark = 'T' ∨ mark = 't' ∨ mark = ' ') ∧ time.hasSeconds = true ∧
        offset? zone = some (offset, []) ∧
        (day.date?.bind fun date => time.time?.bind fun clock => ofLocal? date clock offset) =
          some t := by
  obtain ⟨⟨year, cs₁⟩, year_eq, h⟩ := Option.bind_eq_some_iff.mp h
  obtain ⟨cs₂, dash, h⟩ := Option.bind_eq_some_iff.mp h
  obtain ⟨⟨month, cs₃⟩, month_eq, h⟩ := Option.bind_eq_some_iff.mp h
  obtain ⟨cs₄, dash', h⟩ := Option.bind_eq_some_iff.mp h
  obtain ⟨⟨day, cs₅⟩, day_eq, h⟩ := Option.bind_eq_some_iff.mp h
  obtain ⟨cs₆, marked, h⟩ := Option.bind_eq_some_iff.mp h
  obtain ⟨⟨hour, cs₇⟩, hour_eq, h⟩ := Option.bind_eq_some_iff.mp h
  obtain ⟨cs₈, colon, h⟩ := Option.bind_eq_some_iff.mp h
  obtain ⟨⟨minute, cs₉⟩, minute_eq, h⟩ := Option.bind_eq_some_iff.mp h
  obtain ⟨cs₁₀, colon', h⟩ := Option.bind_eq_some_iff.mp h
  obtain ⟨⟨second, cs₁₁⟩, second_eq, h⟩ := Option.bind_eq_some_iff.mp h
  obtain ⟨⟨nanos, zone⟩, nanos_eq, h⟩ := Option.bind_eq_some_iff.mp h
  obtain ⟨⟨offset, left⟩, zone_eq, h⟩ := Option.bind_eq_some_iff.mp h
  obtain ⟨date, date_eq, h⟩ := Option.bind_eq_some_iff.mp h
  obtain ⟨clock, clock_eq, end_eq⟩ := Option.bind_eq_some_iff.mp h
  split at end_eq
  · next ended =>
    rw [List.isEmpty_iff] at ended
    subst ended
    obtain ⟨year, rfl, rfl⟩ := exists_digits_of_fixed? year_eq
    obtain rfl := eq_cons_of_literal? dash
    obtain ⟨month, rfl, rfl⟩ := exists_digits_of_fixed? month_eq
    obtain rfl := eq_cons_of_literal? dash'
    obtain ⟨day, rfl, rfl⟩ := exists_digits_of_fixed? day_eq
    obtain ⟨mark, isMark, rfl⟩ := exists_mark marked
    obtain ⟨time, hasSeconds, rfl, clock_eq'⟩ :=
      exists_clockText hour_eq colon minute_eq colon' second_eq nanos_eq
    refine ⟨⟨year, month, day⟩, mark, time, zone, offset, by simp [DayText.chars], isMark,
      hasSeconds, zone_eq, ?_⟩
    rw [DayText.date?, date_eq, Option.bind_some, clock_eq', clock_eq, Option.bind_some, end_eq]
  · cases end_eq

/-! ### Texts with the letter of UTC -/

/-- The character between day and time of day, if the day stands in full width. -/
def Timestamp.separator? (raw : List Char) : Option Char :=
  (trim raw)[10]?

/-- A day in full width has ten characters. -/
theorem Timestamp.DayText.length_chars (day : DayText) : day.chars.length = 10 := by
  simp only [chars, List.length_append, List.length_cons, Digits.length_chars]

/-- Before the letter of UTC only the start of a text is trimmed. -/
theorem Timestamp.trim_append_zulu (cs : List Char) :
    trim (cs ++ ['Z']) = trimStart cs ++ ['Z'] := by
  have start : trimStart (cs ++ ['Z']) = trimStart cs ++ ['Z'] := by
    rw [trimStart, trimStart, List.dropWhile_append]
    split
    · next blank =>
      rw [List.isEmpty_iff.mp blank]
      rfl
    · rfl
  have last : isBlank 'Z' = false := rfl
  rw [trim, start, trimEnd_eq_rdropWhile, List.rdropWhile_concat_neg _ _ _ (by simp [last])]

/-- What is read of a text depends on what is left of it between white space. -/
theorem Instant.readChars?_trim {cs cs' : List Char} (same : trim cs = trim cs') :
    readChars? cs = readChars? cs' := by
  rw [readChars?, readChars?, same]

/-- **A date-time without an offset means UTC.** -/
theorem Instant.readChars?_of_readStrict? {cs : List Char} {t : Instant}
    (strict : readStrict? (trim (cs ++ ['Z'])) = some t)
    (mark : separator? (cs ++ ['Z']) = some 'T' ∨ separator? (cs ++ ['Z']) = some ' ') :
    readChars? cs = some t := by
  rw [separator?] at mark
  rw [trim_append_zulu] at strict mark
  obtain ⟨day, c, time, zone, offset, split, -, hasSeconds, zoned, made⟩ :=
    exists_parts_of_readStrict? strict
  have parts : trimStart cs ++ ['Z'] = (day.chars ++ c :: time.chars) ++ zone := by
    rw [split, List.append_assoc, List.cons_append]
  -- The letter that was put behind the text is the zone.
  have nonempty : zone ≠ [] := by
    rintro rfl
    cases zoned
  have zulu : zone.getLast? = some 'Z' := by
    rw [← List.getLast?_append_of_ne_nil _ nonempty, ← parts, List.getLast?_concat]
  obtain ⟨rfl, rfl⟩ := eq_zulu_of_offset? zoned zulu
  have body : trimStart cs = day.chars ++ c :: time.chars := List.append_cancel_right parts
  have isMark : c = 'T' ∨ c = ' ' := by
    have at10 : (trimStart cs ++ ['Z'])[10]? = some c := by
      rw [split, ← day.length_chars, List.getElem?_append_right (Nat.le_refl _), Nat.sub_self]
      rfl
    rw [at10, Option.some_inj, Option.some_inj] at mark
    exact mark
  have trimmed : trim cs = trim (day.chars ++ c :: time.chars) := by
    rw [trim_marked, trim, body, List.append_cons, time.trimEnd_append_chars]
  have scanned : plainTime? (c :: time.chars) = time.time? := by
    rcases isMark with rfl | rfl
    · exact plainTime?_letter time
    · rw [plainTime?_space, if_pos hasSeconds]
  rw [readChars?_trim trimmed, readChars?_marked day time isMark, scanned, made]

/-! ### Days alone -/

/-- The start of a day as text. -/
def Timestamp.ClockText.midnight : ClockText :=
  let zeros : Digits 2 := ⟨['0', '0'], rfl, List.all_eq_true.mp rfl⟩
  .seconds zeros zeros zeros

/-- There is no white space around a day. -/
theorem Timestamp.DayText.trim_chars (day : DayText) : trim day.chars = day.chars := by
  rw [trim, chars, day.year.trimStart_chars_append, List.append_cons, ← List.append_assoc,
    List.append_cons, day.day.trimEnd_append_chars]

/-- The strict form does not read a day alone. -/
theorem Instant.readStrict?_day (day : DayText) : readStrict? day.chars = none := by
  rw [DayText.chars]
  refine bind_eq_of_taken (fixed?_digits day.year _) ?_
  refine bind_eq_of_taken (literal?_cons ..) ?_
  refine bind_eq_of_taken (fixed?_digits day.month _) ?_
  refine bind_eq_of_taken (literal?_cons ..) ?_
  exact bind_eq_of_taken (fixed?_digits_end day.day) rfl

/-- A day alone is read as its midnight, if the calendar has it. -/
theorem Instant.readChars?_day (day : DayText) :
    readChars? day.chars = day.date?.bind fun date => ofLocal? date .midnight 0 := by
  have taken := plainDate?_chars day []
  rw [List.append_nil] at taken
  rw [readChars?, day.trim_chars, readStrict?_day, Option.orElse_none, readPlain?, taken]
  cases day.date? <;> rfl

/-- Midnight with the letter of UTC is read as the midnight of the day, if the calendar has it. -/
theorem Instant.readChars?_midnight_zulu (day : DayText) :
    readChars? (day.chars ++ "T00:00:00Z".toList) =
      day.date?.bind fun date => ofLocal? date .midnight 0 := by
  have split : day.chars ++ "T00:00:00Z".toList =
      day.chars ++ 'T' :: (ClockText.midnight.chars ++ ['Z']) := rfl
  have trimmed : trim (day.chars ++ 'T' :: (ClockText.midnight.chars ++ ['Z'])) =
      day.chars ++ 'T' :: (ClockText.midnight.chars ++ ['Z']) := by
    rw [← List.cons_append, ← List.append_assoc, trim_append_zulu, DayText.chars,
      List.append_assoc, day.year.trimStart_chars_append]
  have strict : readStrict? (day.chars ++ 'T' :: (ClockText.midnight.chars ++ ['Z'])) =
      day.date?.bind fun date => ofLocal? date .midnight 0 := by
    rw [readStrict?_zoned day .midnight (Or.inl rfl) (by simp [Char.isDigit])]
    rfl
  have noPlain : readPlain? (day.chars ++ 'T' :: (ClockText.midnight.chars ++ ['Z'])) = none :=
    readPlain?_eq_none (by simp)
  rw [split, readChars?, trimmed, strict, noPlain]
  cases day.date?.bind fun date => ofLocal? date .midnight 0 <;> rfl

/-! ### The letter makes no difference -/

/-- **A date-time without an offset means UTC.** A text that the strict form reads with the letter
of UTC behind it, whatever white space is around, and with the letter `T` or a space between day and
time of day, is read without that letter as the same instant. A day in full width, whether or not
the calendar has it, is read like its midnight with the letter of UTC: as an instant if the calendar
has it, and else not at all. -/
theorem Instant.read?_append_zulu :
    (∀ text : String, (readStrict? (trim (text ++ "Z").toList)).isSome = true →
      (separator? (text ++ "Z").toList = some 'T' ∨ separator? (text ++ "Z").toList = some ' ') →
        read? text = read? (text ++ "Z") ∧ (read? text).isSome = true) ∧
    ∀ day : DayText,
      read? (String.ofList day.chars) = read? (String.ofList day.chars ++ "T00:00:00Z") ∧
        (read? (String.ofList day.chars)).isSome = day.date?.isSome := by
  refine ⟨?_, ?_⟩
  · intro text accepted mark
    obtain ⟨t, strict⟩ := Option.isSome_iff_exists.mp accepted
    have zulu : read? (text ++ "Z") = some t := by
      rw [read?, readChars?, strict, Option.orElse_some]
    rw [String.toList_append] at strict mark
    have plain : read? text = some t := readChars?_of_readStrict? strict mark
    rw [plain, zulu]
    exact ⟨rfl, rfl⟩
  · intro day
    have alone : read? (String.ofList day.chars) =
        day.date?.bind fun date => ofLocal? date .midnight 0 := by
      rw [read?, String.toList_ofList, readChars?_day]
    have midnight : read? (String.ofList day.chars ++ "T00:00:00Z") =
        day.date?.bind fun date => ofLocal? date .midnight 0 := by
      rw [read?, String.toList_append, String.toList_ofList, readChars?_midnight_zulu]
    refine ⟨alone.trans midnight.symm, ?_⟩
    rw [alone]
    cases found : day.date? with
    | none => rfl
    | some date => exact isSome_ofLocal? (DayText.year_of_date? found) .midnight

/-- A leap second with white space before it and more digits than nanoseconds. -/
theorem Instant.read?_append_zulu_leap_second :
    let text := " \t2016-12-31 23:59:60.1234567891"
    (readStrict? (trim (text ++ "Z").toList)).isSome = true ∧
      separator? (text ++ "Z").toList = some ' ' ∧ read? text = read? (text ++ "Z") ∧
        read? text =
          some ⟨1483228799, 1123456789, by decide, by decide, by decide, by decide⟩ := by
  intro text
  have accepted : (readStrict? (trim (text ++ "Z").toList)).isSome = true := by decide +kernel
  have mark : separator? (text ++ "Z").toList = some ' ' := by decide +kernel
  have same := read?_append_zulu.1 text accepted (Or.inr mark)
  have value : read? (text ++ "Z") =
      some ⟨1483228799, 1123456789, by decide, by decide, by decide, by decide⟩ := by
    decide +kernel
  exact ⟨accepted, mark, same.1, same.1.trans value⟩

end FleetWatch
