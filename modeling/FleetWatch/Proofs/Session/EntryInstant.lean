import FleetWatch.Proofs.Session.FeedOrder
import FleetWatch.Proofs.Time.ReadBack

/-!
# The instant of a line and that of its entry

An agent was last heard of at the instant of a record; the feed orders entries by the instants of
their texts. The two are the same where the record carries a text, since the entry carries it as it
is. A record that counts milliseconds is shown in the emitted form, which can be read back in the
years of four digits only; in another year the entry has no instant and stands at the end of the
feed.

## Main Definitions

* `Record.countsMillis` — a record whose timestamp is a number
-/

namespace FleetWatch

/-! ### From records to entries -/

/-- A record whose timestamp is a number. -/
def Record.countsMillis (record : Record) : Bool :=
  match record.timestamp with
  | some (.number _) => true
  | _ => false

/-- A number stands for an instant in whole milliseconds. -/
theorem Record.wholeMillis_of_instantOfMillis? {n : Json.Number} {t : Instant}
    (h : Record.instantOfMillis? n = some t) : t.wholeMillis = t := by
  rw [instantOfMillis?, Option.bind_eq_bind, Option.bind_eq_some_iff] at h
  obtain ⟨x, -, ofMillis⟩ := h
  exact Instant.wholeMillis_of_ofMillis? ofMillis

/-- An instant that a number stands for is read back as it is, or not at all in a year with a
sign. -/
theorem Record.read?_iso_of_instantOfMillis? {n : Json.Number} {t : Instant}
    (h : Record.instantOfMillis? n = some t) :
    Instant.read? t.iso = if t.hasPlainYear then some t else none := by
  rw [t.read?_iso, wholeMillis_of_instantOfMillis? h]

/-- The text of a record with an instant, and what is read from it. -/
theorem Record.exists_timestampText? {record : Record} {t : Instant}
    (h : record.instant? = some t) :
    ∃ text, record.timestampText? = some text ∧
      Instant.read? text = if record.countsMillis && !t.hasPlainYear then none else some t := by
  rw [instant?, Option.bind_eq_bind, Option.bind_eq_some_iff] at h
  obtain ⟨value, carried, read⟩ := h
  cases value with
  | text text =>
      refine ⟨text, ?_, ?_⟩
      · rw [timestampText?, carried]
        rfl
      · rw [countsMillis, carried]
        exact read
  | number n =>
      refine ⟨t.iso, ?_, ?_⟩
      · simp only at read
        simp only [timestampText?, carried, Option.bind_eq_bind, Option.bind_some, read,
          Option.map_some]
      · rw [countsMillis, carried, read?_iso_of_instantOfMillis? read]
        cases t.hasPlainYear <;> rfl
  | _ => cases read

/-- An entry shows the text of its record's timestamp, if there is one. -/
theorem EntryReader.timestamp_of_read? {reader : EntryReader} {line file : String} {index : Nat}
    {entry : Entry} {record : Record} {text : String}
    (read : reader.read? line file index = some entry) (carried : Record.read? line = some record)
    (shown : record.timestampText? = some text) : entry.timestamp = text := by
  rw [EntryReader.read?, carried, Option.bind_eq_bind, Option.bind_some, entry?] at read
  simp only [Option.bind_eq_bind, Option.bind_eq_some_iff] at read
  obtain ⟨role, -, said, -, accepted⟩ := read
  split at accepted
  · cases accepted
  · cases accepted
    rw [shown, Option.getD_some]

/-! ### The place in the feed -/

/-- In the feed, what stands before an entry with an instant has an instant that is as new. -/
theorem Feed.exists_le_of_before {entries before after : List Entry} {entry : Entry} {t : Instant}
    (h : Feed.sorted entries = before ++ entry :: after) (instant : entry.instant? = some t) :
    ∀ other ∈ before, ∃ newer, other.instant? = some newer ∧ t.le newer = true := by
  have newest := (isFeedOrder_sorted entries).newest_first
  rw [h, List.pairwise_append] at newest
  intro other earlier
  exact newest.2.2 other earlier entry (List.mem_cons_self ..) t instant

/-- In the feed, no entry without an instant stands before one with an instant. -/
theorem Feed.isSome_of_before {entries before after : List Entry} {entry : Entry} {t : Instant}
    (h : Feed.sorted entries = before ++ entry :: after) (instant : entry.instant? = some t) :
    ∀ other ∈ before, other.instant?.isSome := by
  intro other earlier
  obtain ⟨newer, found, -⟩ := exists_le_of_before h instant other earlier
  rw [found, Option.isSome_some]

/-- In the feed, nothing with an instant stands after an entry without one. -/
theorem Feed.eq_none_of_after {entries before after : List Entry} {entry : Entry}
    (h : Feed.sorted entries = before ++ entry :: after) (instant : entry.instant? = none) :
    ∀ other ∈ after, other.instant? = none := by
  have newest := (isFeedOrder_sorted entries).newest_first
  rw [h, List.pairwise_append, List.pairwise_cons] at newest
  intro other later
  rw [Option.eq_none_iff_forall_ne_some]
  intro t found
  obtain ⟨ta, found', -⟩ := newest.2.1.1 other later t found
  rw [instant] at found'
  cases found'

/-! ### The same instant -/

/-- **The entry of a line has the instant of its record**, and so stands before all entries without
an instant, unless the record counts milliseconds to a year that is not written with four digits.
Such an entry has no instant, and stands after all entries with one. -/
theorem EntryReader.instant?_of_read? (reader : EntryReader) {line file : String} {index : Nat}
    {entry : Entry} {record : Record} {t : Instant}
    (read : reader.read? line file index = some entry) (carried : Record.read? line = some record)
    (heard : record.instant? = some t) :
    (entry.instant? = if record.countsMillis && !t.hasPlainYear then none else some t) ∧
      ∀ entries before after, Feed.sorted entries = before ++ entry :: after →
        if record.countsMillis && !t.hasPlainYear then ∀ other ∈ after, other.instant? = none
        else ∀ other ∈ before, other.instant?.isSome := by
  obtain ⟨text, shown, instant⟩ := record.exists_timestampText? heard
  have timestamp := reader.timestamp_of_read? read carried shown
  rw [← timestamp] at instant
  refine ⟨instant, ?_⟩
  intro entries before after order
  change entry.instant? = _ at instant
  split
  · next lost =>
    rw [if_pos lost] at instant
    exact Feed.eq_none_of_after order instant
  · next kept =>
    rw [if_neg kept] at instant
    exact Feed.isSome_of_before order instant

/-- A line that counts milliseconds to a year of four digits is shown at the instant it counts. -/
theorem EntryReader.instant?_of_read?_minute :
    let line := "\x7b\"type\":\"message\",\"timestamp\":60000,\"message\":\x7b" ++
      "\"role\":\"user\",\"content\":\"Hello\"\x7d\x7d"
    let reader : EntryReader := ⟨⟨"scout", "Scout", "#888", .ofString "/logs"⟩, 300, .ofMinutes 0⟩
    let minute := Instant.ofMinutes 1
    ∃ entry record, reader.read? line "a.jsonl" 0 = some entry ∧ Record.read? line = some record ∧
      record.instant? = some minute ∧ entry.instant? = some minute := by
  intro line reader minute
  have carried : (Record.read? line).map (fun record => (record.countsMillis, record.instant?)) =
      some (true, some minute) := by
    decide +kernel
  have read : (reader.read? line "a.jsonl" 0).isSome := by decide +kernel
  obtain ⟨entry, read⟩ := Option.isSome_iff_exists.mp read
  obtain ⟨record, carried, parts⟩ := Option.map_eq_some_iff.mp carried
  obtain ⟨countsMillis, heard⟩ := Prod.mk.inj parts
  have plain : minute.hasPlainYear = true := by decide
  have instant := (reader.instant?_of_read? read carried heard).1
  rw [countsMillis, plain] at instant
  exact ⟨entry, record, read, carried, heard, instant⟩

/-- **Microseconds that are taken for milliseconds** make an agent look active, but their entry has
no instant. -/
theorem EntryReader.not_forall_instant?_eq :
    ¬ ∀ (reader : EntryReader) (line file : String) (index : Nat) (entry : Entry)
      (record : Record) (t : Instant), reader.read? line file index = some entry →
        Record.read? line = some record → record.instant? = some t → entry.instant? = some t := by
  intro same
  -- A day of 2026 in microseconds is one of the year 58016 in milliseconds.
  let line := "\x7b\"type\":\"message\",\"timestamp\":1768651200000000,\"message\":\x7b" ++
      "\"role\":\"assistant\",\"content\":\"Newer message\"\x7d\x7d"
  let reader : EntryReader := ⟨⟨"scout", "Scout", "#888", .ofString "/logs"⟩, 300, .ofMinutes 0⟩
  have carried : (Record.read? line).bind Record.instant? =
      some ⟨1768651200000, 0, by decide, by decide, by decide, by decide⟩ := by
    decide +kernel
  have read : (reader.read? line "a.jsonl" 0).map Entry.instant? = some none := by decide +kernel
  obtain ⟨record, carried, heard⟩ := Option.bind_eq_some_iff.mp carried
  obtain ⟨entry, read, lost⟩ := Option.map_eq_some_iff.mp read
  have instant := same reader line "a.jsonl" 0 entry record _ read carried heard
  rw [lost] at instant
  cases instant

end FleetWatch
