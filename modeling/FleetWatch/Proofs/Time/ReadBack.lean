import FleetWatch.Proofs.Time.Scanning

/-!
# Reading back what is emitted

An instant that is emitted as text is read back cut to whole milliseconds, if its year has four
digits; in any other year the text cannot be read.

## Main Definitions

* `Instant.wholeMillis` — an instant cut to whole milliseconds
* `Instant.hasPlainYear` — an instant in a year that is written without a sign
* `Instant.clock` — the time of day that is emitted

## Design Notes

That the strict form does not read a year with a sign is plain, since its widths are fixed. That the
plain form does not read it either is a matter of what is left over: none of its scanners takes the
letter of UTC, so the letter is still there at the end, where nothing may be left.
-/

namespace FleetWatch

open Text

/-! ### The calendar -/

/-- **A position is a day number, written in cycles, centuries, groups and years.** Each part
stays below the next. -/
theorem Date.Position.of_parts (n : Int) :
    (Position.of n).century ≤ 3 ∧ (Position.of n).group ≤ 24 ∧ (Position.of n).year ≤ 3 ∧
      n + 719468 = 146097 * (Position.of n).cycle + (36524 * (Position.of n).century +
        1461 * (Position.of n).group + 365 * (Position.of n).year + (Position.of n).day : Nat) := by
  rw [Position.of]
  dsimp only
  omega

/-- The days before a month and the day of the month are the days before the day and itself. -/
theorem Date.Position.day_eq (p : Date.Position) :
    (153 * p.marchMonth + 2) / 5 + p.dayOfMonth = p.day + 1 := by
  have march : p.marchMonth = (5 * p.day + 2) / 153 := rfl
  rw [Position.dayOfMonth]
  omega

/-- The calendar year and month, counted from March again. -/
theorem Date.Position.marchYear_eq (p : Date.Position) (h : p.day ≤ 365) :
    (if p.month ≤ 2 then p.calendarYear - 1 else p.calendarYear) = p.marchYear ∧
      (p.month + 9) % 12 = p.marchMonth := by
  have := p.marchMonth_le h
  rw [Position.month, Position.calendarYear]
  split <;> split <;> omega

/-- **The days of the calendar are counted without gap**: the day with a number has that number. -/
theorem Date.dayNumber_ofDayNumber (n : Int) : (Date.ofDayNumber n).dayNumber = n := by
  -- With years from March, both ways use one linear formula for the months.
  have ⟨century, group, year, number⟩ := Position.of_parts n
  have day := (Position.of n).day_eq
  have ⟨marchYear, marchMonth⟩ := (Position.of n).marchYear_eq (Position.day_le n)
  rw [dayNumber, ofDayNumber]
  dsimp only
  rw [marchYear, marchMonth, day, Position.marchYear]
  omega

/-- A day has the parts that make it. -/
theorem Date.ofParts?_self (date : Date) :
    Date.ofParts? date.year date.month date.day = some date := by
  rw [ofParts?, dif_pos ⟨⟨date.month_pos, date.month_le⟩, date.day_pos, date.day_le⟩]

/-! ### Instants in whole milliseconds -/

/-- An instant cut to whole milliseconds. -/
def Instant.wholeMillis (t : Instant) : Instant where
  seconds := t.seconds
  nanos := t.nanos / 1000000 * 1000000
  le_seconds := t.le_seconds
  seconds_le := t.seconds_le
  nanos_lt := by have := t.nanos_lt; omega
  leap := fun h => t.leap (by omega)

@[simp]
theorem Instant.wholeMillis_seconds (t : Instant) : t.wholeMillis.seconds = t.seconds := rfl

@[simp]
theorem Instant.wholeMillis_nanos (t : Instant) :
    t.wholeMillis.nanos = t.nanos / 1000000 * 1000000 := rfl

/-- An instant in a year that is written with four digits and no sign. -/
def Instant.hasPlainYear (t : Instant) : Bool :=
  0 ≤ t.date.year && t.date.year ≤ 9999

/-- An instant has the parts that make it. -/
theorem Instant.ofParts?_self (t : Instant) : Instant.ofParts? t.seconds t.nanos = some t := by
  rw [ofParts?, dif_pos ⟨⟨t.le_seconds, t.seconds_le⟩, t.nanos_lt, t.leap⟩]

/-- Seconds and nanoseconds make just the instant that has them. -/
theorem Instant.ofParts?_eq_some_iff {seconds : Int} {nanos : Nat} {t : Instant} :
    Instant.ofParts? seconds nanos = some t ↔ t.seconds = seconds ∧ t.nanos = nanos := by
  constructor
  · intro found
    rw [ofParts?] at found
    split at found
    · cases found
      exact ⟨rfl, rfl⟩
    · cases found
  · rintro ⟨rfl, rfl⟩
    exact t.ofParts?_self

/-- Seconds of the calendar make an instant with nanoseconds of no leap second. -/
theorem Instant.isSome_ofParts?_iff {seconds : Int} {nanos : Nat} (noLeap : nanos < 1000000000) :
    (Instant.ofParts? seconds nanos).isSome = true ↔
      -8334601228800 ≤ seconds ∧ seconds ≤ 8210266876799 := by
  rw [ofParts?]
  split
  · next parts => exact iff_of_true rfl parts.1
  · next noParts =>
    exact iff_of_false Bool.false_ne_true fun bounds => noParts ⟨bounds, by omega, by omega⟩

/-- An instant that is given in milliseconds has no part of one. -/
theorem Instant.wholeMillis_of_ofMillis? {millis : Int} {t : Instant}
    (h : Instant.ofMillis? millis = some t) : t.wholeMillis = t := by
  rw [ofMillis?, ofParts?] at h
  split at h
  · cases h
    simp only [wholeMillis, Nat.mul_div_cancel _ (show 0 < 1000000 by decide)]
  · cases h

namespace Timestamp

/-! ### Scanning what is written -/

/-- A number in a fixed width is taken whole. -/
theorem fixed?_padded {width n : Nat} (hwidth : 0 < width) (h : n < 10 ^ width)
    (rest : List Char) : fixed? width (padded width n ++ rest) = some (n, rest) := by
  have taken := fixed?_digits (Digits.padded hwidth h) rest
  rwa [Digits.value_padded] at taken

/-- A text that does not start with a digit has no number of a fixed width. -/
theorem fixed?_cons_eq_none {n : Nat} {c : Char} (rest : List Char) (h : c.isDigit = false) :
    fixed? (n + 1) (c :: rest) = none := by
  simp [fixed?, h]

/-- The expected character is taken. -/
theorem literal?_cons (c : Char) (rest : List Char) : literal? c (c :: rest) = some rest := by
  rw [literal?, if_pos (beq_self_eq_true c)]

/-- The letter before the time is the first of three marks that are tried. -/
theorem timeMark_cons (rest : List Char) :
    (((literal? 'T' ('T' :: rest)).orElse fun _ => literal? 't' ('T' :: rest)).orElse
      fun _ => literal? ' ' ('T' :: rest)) = some rest := by
  rw [literal?_cons, Option.orElse_some, Option.orElse_some]

/-- Milliseconds after a point are taken whole, before a character that is no digit. -/
theorem fraction?_padded {millis : Nat} {c : Char} (rest : List Char) (h : millis < 1000)
    (hc : c.isDigit = false) :
    fraction? ('.' :: (padded 3 millis ++ c :: rest)) = some (millis * 1000000, c :: rest) := by
  have length : (padded 3 millis).length = 3 := length_padded (by decide) h
  have kept : (padded 3 millis).take 9 = padded 3 millis := List.take_of_length_le (by omega)
  have nanos : fractionNanos (padded 3 millis) = millis * 1000000 := by
    rw [fractionNanos]
    simp only [kept, length, asciiValue_padded]
  rw [← nanos]
  exact fraction?_digits (Digits.padded (by decide) h) (by simp [hc])

/-! ### What a scan leaves over -/

/-- A character that is no digit stays in what is left after the digits at the start. -/
theorem mem_dropWhile_of_mem {p : Char → Bool} {c : Char} {cs : List Char} (h : c ∈ cs)
    (hc : p c = false) : c ∈ cs.dropWhile p := by
  rw [← List.takeWhile_append_dropWhile (p := p) (l := cs)] at h
  rcases List.mem_append.mp h with taken | left
  · rw [List.mem_takeWhile_imp taken] at hc
    cases hc
  · exact left

/-- White space holds no letter, so a letter is not cut off with it. -/
theorem mem_trimStart {cs : List Char} (h : 'Z' ∈ cs) : 'Z' ∈ trimStart cs :=
  mem_dropWhile_of_mem h rfl

/-- Another character is taken, not the letter. -/
theorem literal?_keeps {c : Char} {cs rest : List Char} (h : literal? c cs = some rest)
    (hc : c ≠ 'Z') (hz : 'Z' ∈ cs) : 'Z' ∈ rest := by
  cases cs with
  | nil => cases h
  | cons d cs =>
      rw [literal?] at h
      split at h
      · next same =>
        cases h
        rw [beq_iff_eq] at same
        rcases List.mem_cons.mp hz with rfl | left
        · exact absurd same.symm hc
        · exact left
      · cases h

/-- A number is taken, not the letter. -/
theorem upTo?_keeps {n value : Nat} {cs rest : List Char} (h : upTo? n cs = some (value, rest))
    (hz : 'Z' ∈ cs) : 'Z' ∈ rest := by
  rw [upTo?] at h
  split at h
  · cases h
  · cases h
    -- The run is what the text starts with, and has no letter in it.
    have taken : ((trimStart cs).take n).takeWhile Char.isDigit <+: trimStart cs :=
      (List.takeWhile_prefix _).trans (List.take_prefix n _)
    have split := mem_trimStart hz
    rw [← List.prefix_iff_eq_append.mp taken] at split
    rcases List.mem_append.mp split with digit | left
    · cases List.mem_takeWhile_imp digit
    · exact left

/-- The digits after a sign are taken, not the letter. -/
theorem signed_keeps {cs rest : List Char} {sign year : Int}
    (h : year?.signed cs sign = some (year, rest)) (hz : 'Z' ∈ cs) : 'Z' ∈ rest := by
  rw [year?.signed] at h
  split at h
  · cases h
  · cases h
    exact mem_dropWhile_of_mem hz rfl

/-- A year is taken, not the letter. -/
theorem year?_keeps {cs rest : List Char} {year : Int} (h : year? cs = some (year, rest))
    (hz : 'Z' ∈ cs) : 'Z' ∈ rest := by
  have hz := mem_trimStart hz
  rw [year?] at h
  split at h
  · next after start =>
    rw [start] at hz
    exact signed_keeps h (List.mem_of_ne_of_mem (by decide) hz)
  · next after start =>
    rw [start] at hz
    exact signed_keeps h (List.mem_of_ne_of_mem (by decide) hz)
  · obtain ⟨⟨value, left⟩, taken, same⟩ := Option.map_eq_some_iff.mp h
    cases same
    exact upTo?_keeps taken hz

/-- A fraction is taken, not the letter. -/
theorem fraction?_keeps {cs rest : List Char} {nanos : Nat}
    (h : fraction? cs = some (nanos, rest)) (hz : 'Z' ∈ cs) : 'Z' ∈ rest := by
  unfold fraction? at h
  split at h
  · dsimp only at h
    split at h
    · cases h
    · cases h
      exact mem_dropWhile_of_mem (List.mem_of_ne_of_mem (by decide) hz) rfl
  · cases h
    exact hz

/-- A day in the plain form is taken, not the letter. -/
theorem plainDate?_keeps {cs rest : List Char} {date : Date}
    (h : plainDate? cs = some (date, rest)) (hz : 'Z' ∈ cs) : 'Z' ∈ rest := by
  simp only [plainDate?, Option.bind_eq_bind, Option.bind_eq_some_iff, Prod.exists] at h
  obtain ⟨year, cs₁, year_eq, cs₂, dash, month, cs₃, month_eq, cs₄, dash', day, cs₅, day_eq, date',
    -, same⟩ := h
  cases same
  exact upTo?_keeps day_eq (literal?_keeps dash' (by decide) (upTo?_keeps month_eq
    (literal?_keeps dash (by decide) (year?_keeps year_eq hz))))

/-- The letter of UTC is left over after a time with seconds. -/
theorem plainClock?_eq_none {cs : List Char} (hz : 'Z' ∈ cs) : plainClock? cs = none := by
  rw [Option.eq_none_iff_forall_ne_some]
  intro time h
  simp only [plainClock?, Option.bind_eq_bind, Option.bind_eq_some_iff, Prod.exists] at h
  obtain ⟨hour, cs₁, hour_eq, cs₂, colon, minute, cs₃, minute_eq, cs₄, colon', second, cs₅,
    second_eq, nanos, cs₆, nanos_eq, end_eq⟩ := h
  have left : 'Z' ∈ cs₆ := fraction?_keeps nanos_eq (upTo?_keeps second_eq
    (literal?_keeps colon' (by decide) (upTo?_keeps minute_eq
      (literal?_keeps colon (by decide) (upTo?_keeps hour_eq hz)))))
  rw [if_neg (by simpa using List.ne_nil_of_mem left)] at end_eq
  cases end_eq

/-- The letter of UTC is left over after a time without seconds. -/
theorem plainMinutes?_eq_none {cs : List Char} (hz : 'Z' ∈ cs) : plainMinutes? cs = none := by
  rw [Option.eq_none_iff_forall_ne_some]
  intro time h
  simp only [plainMinutes?, Option.bind_eq_bind, Option.bind_eq_some_iff, Prod.exists] at h
  obtain ⟨hour, cs₁, hour_eq, cs₂, colon, minute, cs₃, minute_eq, end_eq⟩ := h
  have left : 'Z' ∈ cs₃ := upTo?_keeps minute_eq
    (literal?_keeps colon (by decide) (upTo?_keeps hour_eq hz))
  rw [if_neg (by simpa using List.ne_nil_of_mem left)] at end_eq
  cases end_eq

/-- What follows the day in the plain form cannot hold the letter of UTC. -/
theorem plainTime?_eq_none {cs : List Char} (hz : 'Z' ∈ cs) : plainTime? cs = none := by
  unfold plainTime?
  split
  · cases hz
  · next rest =>
    have left : 'Z' ∈ rest := List.mem_of_ne_of_mem (by decide) hz
    rw [plainClock?_eq_none left, plainMinutes?_eq_none left]
    rfl
  · exact plainClock?_eq_none hz

end Timestamp

/-- **The plain form does not know the letter of UTC.** -/
theorem Instant.readPlain?_eq_none {cs : List Char} (hz : 'Z' ∈ cs) :
    Instant.readPlain? cs = none := by
  rw [Option.eq_none_iff_forall_ne_some]
  intro t h
  simp only [readPlain?, Option.bind_eq_bind, Option.bind_eq_some_iff, Prod.exists] at h
  obtain ⟨date, rest, date_eq, time, time_eq, -⟩ := h
  rw [Timestamp.plainTime?_eq_none (Timestamp.plainDate?_keeps date_eq hz)] at time_eq
  cases time_eq

/-! ### Emitted text -/

/-- A text without white space is trimmed. -/
theorem trim_eq_self {cs : List Char} (h : ∀ c ∈ cs, isBlank c = false) : trim cs = cs := by
  have kept : ∀ cs : List Char, (∀ c ∈ cs, isBlank c = false) → cs.dropWhile isBlank = cs := by
    intro cs h
    cases cs with
    | nil => rfl
    | cons c cs => rw [List.dropWhile_cons_of_neg (by simp [h c])]
  rw [trim, trimStart, kept cs h, trimEnd, kept cs.reverse (by simpa using h),
    List.reverse_reverse]

/-- The parts of emitted text, from left to right. -/
theorem Instant.isoChars_eq (t : Instant) :
    t.isoChars =
      Date.yearText t.date.year ++ '-' :: (padded 2 t.date.month ++ '-' :: (padded 2 t.date.day ++
        'T' :: (padded 2 (t.secondOfDay / 3600) ++ ':' :: (padded 2 (t.secondOfDay / 60 % 60) ++
          ':' :: (padded 2 (t.secondOfDay % 60 + t.nanos / 1000000000) ++
            '.' :: (padded 3 (t.nanos % 1000000000 / 1000000) ++ ['Z'])))))) := by
  simp -implicitDefEqProofs only [isoChars, Date.chars, List.append_assoc, List.cons_append]

/-- There is no white space in emitted text. -/
theorem Instant.isBlank_of_mem_isoChars (t : Instant) : ∀ c ∈ t.isoChars, isBlank c = false := by
  have digits (width n : Nat) : ∀ c ∈ padded width n, isBlank c = false :=
    fun _ mem => isBlank_of_isDigit (isDigit_of_mem_padded mem)
  have year : ∀ c ∈ Date.yearText t.date.year, isBlank c = false := by
    rw [Date.yearText]
    split
    · exact digits 4 _
    · refine List.forall_mem_cons.mpr ⟨?_, digits 4 _⟩
      split <;> decide
  simp only [isoChars_eq, List.forall_mem_append, List.forall_mem_cons,
    List.not_mem_nil, false_imp_iff, implies_true, and_true]
  exact ⟨year, rfl, digits _ _, rfl, digits _ _, rfl, digits _ _, rfl, digits _ _, rfl,
    digits _ _, rfl, digits _ _, rfl⟩

/-- Emitted text is read as it is. -/
theorem Instant.readChars?_isoChars (t : Instant) :
    Instant.readChars? t.isoChars =
      (Instant.readStrict? t.isoChars).orElse fun _ => Instant.readPlain? t.isoChars := by
  rw [readChars?, trim_eq_self t.isBlank_of_mem_isoChars]

/-- Emitted text ends with the letter of UTC. -/
theorem Instant.zulu_mem_isoChars (t : Instant) : 'Z' ∈ t.isoChars := by
  rw [isoChars]
  exact List.mem_append_right _ (List.mem_singleton_self _)

/-- **A year with a sign is not read back.** -/
theorem Instant.readChars?_isoChars_of_signedYear {t : Instant} (h : t.hasPlainYear = false) :
    Instant.readChars? t.isoChars = none := by
  have year : ¬ (0 ≤ t.date.year ∧ t.date.year ≤ 9999) := by
    simpa [hasPlainYear] using h
  have strict : Instant.readStrict? t.isoChars = none := by
    have sign : (if t.date.year < 0 then '-' else '+').isDigit = false := by split <;> rfl
    rw [readStrict?, isoChars_eq, Date.yearText, if_neg year, List.cons_append,
      Timestamp.fixed?_cons_eq_none _ sign, Option.bind_eq_bind, Option.bind_none]
  rw [readChars?_isoChars, strict, readPlain?_eq_none t.zulu_mem_isoChars, Option.orElse_none]

/-- A month has at most 31 days. -/
theorem Date.daysInMonth_le (year : Int) (month : Nat) : Date.daysInMonth year month ≤ 31 := by
  unfold daysInMonth
  repeat' split
  all_goals decide

/-- The second of the day is below 86400. -/
theorem Instant.secondOfDay_lt (t : Instant) : t.secondOfDay < 86400 := by
  rw [secondOfDay]
  omega

/-- The time of day of an instant, cut to whole milliseconds. -/
def Instant.clock (t : Instant) : TimeOfDay where
  hour := t.secondOfDay / 3600
  minute := t.secondOfDay / 60 % 60
  second := t.secondOfDay % 60 + t.nanos / 1000000000
  nanos := t.nanos % 1000000000 / 1000000 * 1000000
  hour_lt := by have := t.secondOfDay_lt; omega
  minute_lt := by omega
  second_le := by have := t.nanos_lt; omega
  nanos_lt := by omega

/-- The time of day has the parts that make it. -/
theorem TimeOfDay.ofParts?_self (time : TimeOfDay) :
    TimeOfDay.ofParts? time.hour time.minute time.second time.nanos = some time := by
  rw [ofParts?, dif_pos ⟨⟨time.hour_lt, time.minute_lt⟩, time.second_le, time.nanos_lt⟩]

/-- The day of an instant and the second in it make its seconds. -/
theorem Instant.seconds_eq (t : Instant) :
    t.date.dayNumber * 86400 + t.secondOfDay = t.seconds := by
  rw [date, Date.dayNumber_ofDayNumber, secondOfDay]
  omega

/-- A second of the clock after the fifty-ninth is a leap second. -/
theorem Instant.leap_eq (t : Instant) :
    min (t.secondOfDay % 60 + t.nanos / 1000000000) 59 = t.secondOfDay % 60 ∧
      t.secondOfDay % 60 + t.nanos / 1000000000 - 59 = t.nanos / 1000000000 := by
  have nanos_lt := t.nanos_lt
  have leap : 1000000000 ≤ t.nanos → t.secondOfDay % 60 = 59 := by
    intro long
    have := t.leap long
    rw [secondOfDay]
    omega
  omega

/-- Hours, minutes and seconds of the clock make the second of the day. -/
theorem Instant.clock_eq (t : Instant) :
    t.secondOfDay / 3600 * 3600 + t.secondOfDay / 60 % 60 * 60 + t.secondOfDay % 60 =
      t.secondOfDay := by
  omega

/-- The milliseconds and the leap second make the fraction, cut to milliseconds. -/
theorem Instant.fraction_eq (t : Instant) :
    t.nanos % 1000000000 / 1000000 * 1000000 + t.nanos / 1000000000 * 1000000000 =
      t.nanos / 1000000 * 1000000 := by
  omega

/-- **The day and the time of day of an instant make it again**, to the millisecond. -/
theorem Instant.ofLocal?_clock (t : Instant) :
    Instant.ofLocal? t.date t.clock 0 = some t.wholeMillis := by
  have ⟨second, leap⟩ := t.leap_eq
  rw [ofLocal?, clock]
  dsimp only
  rw [second, leap, clock_eq, fraction_eq, seconds_eq, Int.sub_zero, ← wholeMillis_seconds,
    ← wholeMillis_nanos, ofParts?_self]

/-- **The strict form takes the parts of a text one after the other**: a day of a plain year, and a
time of day in whole milliseconds. -/
theorem Instant.readStrict?_parts {date : Date} {time : TimeOfDay} {millis : Nat} {t : Instant}
    (plain : 0 ≤ date.year ∧ date.year ≤ 9999) (hmillis : time.nanos = millis * 1000000)
    (h : Instant.ofLocal? date time 0 = some t) :
    Instant.readStrict?
      (padded 4 date.year.toNat ++ '-' :: (padded 2 date.month ++ '-' :: (padded 2 date.day ++
        'T' :: (padded 2 time.hour ++ ':' :: (padded 2 time.minute ++ ':' ::
          (padded 2 time.second ++ '.' :: (padded 3 millis ++ ['Z']))))))) = some t := by
  have toNat : (date.year.toNat : Int) = date.year := Int.toNat_of_nonneg plain.1
  have year := Timestamp.fixed?_padded (show 0 < 4 by decide)
    (show date.year.toNat < 10 ^ 4 by omega)
  have two {n : Nat} (h : n < 100) := Timestamp.fixed?_padded (show 0 < 2 by decide) h
  have month : date.month < 100 := date.month_le.trans_lt (by decide)
  have day : date.day < 100 := (date.day_le.trans (Date.daysInMonth_le _ _)).trans_lt (by decide)
  have hour : time.hour < 100 := time.hour_lt.trans (by decide)
  have minute : time.minute < 100 := time.minute_lt.trans (by decide)
  have second : time.second < 100 := time.second_le.trans_lt (by decide)
  have millis_lt : millis < 1000 := by
    have := time.nanos_lt
    omega
  -- Each scanner takes what stands there, and leaves the rest to the next.
  refine Option.bind_eq_some_iff.mpr ⟨_, year _, ?_⟩
  refine Option.bind_eq_some_iff.mpr ⟨_, Timestamp.literal?_cons .., ?_⟩
  refine Option.bind_eq_some_iff.mpr ⟨_, two month _, ?_⟩
  refine Option.bind_eq_some_iff.mpr ⟨_, Timestamp.literal?_cons .., ?_⟩
  refine Option.bind_eq_some_iff.mpr ⟨_, two day _, ?_⟩
  refine Option.bind_eq_some_iff.mpr ⟨_, Timestamp.timeMark_cons .., ?_⟩
  refine Option.bind_eq_some_iff.mpr ⟨_, two hour _, ?_⟩
  refine Option.bind_eq_some_iff.mpr ⟨_, Timestamp.literal?_cons .., ?_⟩
  refine Option.bind_eq_some_iff.mpr ⟨_, two minute _, ?_⟩
  refine Option.bind_eq_some_iff.mpr ⟨_, Timestamp.literal?_cons .., ?_⟩
  refine Option.bind_eq_some_iff.mpr ⟨_, two second _, ?_⟩
  refine Option.bind_eq_some_iff.mpr ⟨_, Timestamp.fraction?_padded [] millis_lt rfl, ?_⟩
  refine Option.bind_eq_some_iff.mpr ⟨_, rfl, ?_⟩
  refine Option.bind_eq_some_iff.mpr ⟨date, ?_, ?_⟩
  · rw [toNat, Date.ofParts?_self]
  · rw [← hmillis]
    exact Option.bind_eq_some_iff.mpr ⟨time, time.ofParts?_self, h⟩

/-- **A year without a sign is read back**, to the millisecond. -/
theorem Instant.readChars?_isoChars_of_plainYear {t : Instant} (h : t.hasPlainYear = true) :
    Instant.readChars? t.isoChars = some t.wholeMillis := by
  have plain : 0 ≤ t.date.year ∧ t.date.year ≤ 9999 := by
    simpa [hasPlainYear] using h
  have strict := readStrict?_parts plain (show t.clock.nanos = _ * 1000000 from rfl)
    t.ofLocal?_clock
  rw [readChars?_isoChars, isoChars_eq, Date.yearText, if_pos plain]
  simp only [clock] at strict
  rw [strict, Option.orElse_some]

/-- **What is emitted is read back** to the millisecond, or not at all in a year with a sign. -/
theorem Instant.read?_iso (t : Instant) :
    Instant.read? t.iso = if t.hasPlainYear then some t.wholeMillis else none := by
  rw [read?, iso, String.toList_ofList]
  cases plain : t.hasPlainYear with
  | true =>
      rw [readChars?_isoChars_of_plainYear plain]
      rfl
  | false =>
      rw [readChars?_isoChars_of_signedYear plain]
      rfl

/-! ### The years of four digits -/

/-- With years from March, January and February belong to the year before. -/
theorem Date.Position.calendarYear_eq (p : Date.Position) :
    p.calendarYear = if p.day < 306 then p.marchYear else p.marchYear + 1 := by
  have march : p.marchMonth = (5 * p.day + 2) / 153 := rfl
  rw [calendarYear]
  split <;> split <;> omega

/-- The number of the first day of a year. -/
def Date.newYear (year : Int) : Int :=
  365 * (year - 1) + (year - 1) / 4 - (year - 1) / 100 + (year - 1) / 400 - 719162

/-- **A day belongs to a year or a later one just from the first day of the year on.** -/
theorem Date.le_year_ofDayNumber_iff (year n : Int) :
    year ≤ (Date.ofDayNumber n).year ↔ Date.newYear year ≤ n := by
  have ⟨century, group, last, number⟩ := Position.of_parts n
  have day := Position.day_le n
  show year ≤ (Position.of n).calendarYear ↔ _
  rw [Position.calendarYear_eq, Position.marchYear, newYear]
  split <;> omega

/-- The days of the years from 0 to 9999, by their numbers. -/
theorem Date.year_ofDayNumber_iff (n : Int) :
    (0 ≤ (Date.ofDayNumber n).year ↔ -719528 ≤ n) ∧
      ((Date.ofDayNumber n).year ≤ 9999 ↔ n ≤ 2932896) := by
  have first := Date.le_year_ofDayNumber_iff 0 n
  have behind := Date.le_year_ofDayNumber_iff 10000 n
  rw [newYear] at first behind
  omega

/-- The instants of the years from 0 to 9999, by their seconds. -/
theorem Instant.year_date_iff (t : Instant) :
    0 ≤ t.date.year ∧ t.date.year ≤ 9999 ↔
      -62167219200 ≤ t.seconds ∧ t.seconds < 253402300800 := by
  rw [date, (Date.year_ofDayNumber_iff _).1, (Date.year_ofDayNumber_iff _).2]
  omega

/-- An instant that is cut to whole milliseconds is emitted as before. -/
theorem Instant.iso_wholeMillis (t : Instant) : t.wholeMillis.iso = t.iso := by
  have leap : t.wholeMillis.nanos / 1000000000 = t.nanos / 1000000000 := by
    rw [wholeMillis_nanos]
    omega
  have millis : t.wholeMillis.nanos % 1000000000 / 1000000 = t.nanos % 1000000000 / 1000000 := by
    rw [wholeMillis_nanos]
    omega
  rw [iso, iso, isoChars_eq, isoChars_eq, leap, millis]
  rfl

/-- **Emitted timestamps read back.** The text of an instant is read as this instant, cut down to
whole milliseconds, if its year lies from 0 to 9999, and cannot be read in any other year. The years
from 0 to 9999 are those between two seconds, which are told here. What is read back is emitted as
the same text. -/
theorem Instant.read?_iso_wholeMillis (t : Instant) :
    (Instant.read? t.iso =
      if 0 ≤ t.date.year ∧ t.date.year ≤ 9999 then some t.wholeMillis else none) ∧
    (t.wholeMillis.seconds = t.seconds ∧ t.wholeMillis.nanos = t.nanos / 1000000 * 1000000) ∧
    (0 ≤ t.date.year ∧ t.date.year ≤ 9999 ↔
      -62167219200 ≤ t.seconds ∧ t.seconds < 253402300800) ∧
    t.wholeMillis.iso = t.iso := by
  refine ⟨?_, ⟨rfl, rfl⟩, t.year_date_iff, t.iso_wholeMillis⟩
  rw [t.read?_iso, hasPlainYear]
  simp only [Bool.and_eq_true, decide_eq_true_eq]

end FleetWatch
