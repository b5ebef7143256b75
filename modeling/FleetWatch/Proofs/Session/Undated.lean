import FleetWatch.Proofs.Session.Acceptance
import FleetWatch.Proofs.Session.EntryInstant

/-!
# Messages without a timestamp

Whether a record has a timestamp is asked twice, and not in the same way. The status asks whether
there is one at all, readable or not (`Record.hasTimestamp`); the feed asks for its text, and shows
the present where there is none (`Record.timestampText?`). This module says where the two part: at
an empty text, which the status takes for no timestamp and the feed shows as it is, and at a value
that has no text, which the status takes for a timestamp and the feed for none.

## Main Definitions

* `Record.hasEmptyTimestamp` — a record with an empty text for its timestamp
* `Record.hasOddTimestamp` — a record with a timestamp that has no text

## Design Notes

A message without a timestamp is shown at the present so that it stands on top of the feed. It does
so by its text, which is read again for the order; so its place is that of the present in whole
milliseconds, and it has none in a year that is not written with four digits.
-/

namespace FleetWatch

/-! ### Two questions for a timestamp -/

namespace Record

/-- A record whose timestamp is the empty text. -/
def hasEmptyTimestamp (record : Record) : Bool :=
  match record.timestamp with
  | some (.text text) => text == ""
  | _ => false

/-- A record whose timestamp is no text, and no number of milliseconds of an instant either. -/
def hasOddTimestamp (record : Record) : Bool :=
  match record.timestamp with
  | none => false
  | some (.text _) => false
  | some (.number n) => (instantOfMillis? n).isNone
  | some _ => true

/-- What the status takes for no timestamp has no text for the feed, unless it is the empty one. -/
theorem timestampText?_of_hasTimestamp_eq_false {record : Record}
    (undated : record.hasTimestamp = false) :
    record.timestampText? = if record.hasEmptyTimestamp then some "" else none := by
  obtain ⟨kind, id, timestamp, model, message⟩ := record
  cases timestamp with
  | none => rfl
  | some value =>
      cases value with
      | text text =>
          obtain rfl : text = "" := by simpa [hasTimestamp] using undated
          rfl
      | null | bool | number | array | object => cases undated

/-- **Where the two questions have the same answer**: at all timestamps but the empty text and those
without a text. -/
theorem timestampText?_eq_none_iff_hasTimestamp_eq_false (record : Record) :
    (record.timestampText? = none ↔ record.hasTimestamp = false) ↔
      record.hasEmptyTimestamp = false ∧ record.hasOddTimestamp = false := by
  obtain ⟨kind, id, timestamp, model, message⟩ := record
  cases timestamp with
  | none => simp [timestampText?, hasTimestamp, hasEmptyTimestamp, hasOddTimestamp]
  | some value =>
      cases value with
      | text text => simp [timestampText?, hasTimestamp, hasEmptyTimestamp, hasOddTimestamp]
      | number n =>
          cases read : instantOfMillis? n <;>
            simp [timestampText?, hasTimestamp, hasEmptyTimestamp, hasOddTimestamp, read]
      | null | bool | array | object =>
          simp [timestampText?, hasTimestamp, hasEmptyTimestamp, hasOddTimestamp]

end Record

/-! ### The present as a timestamp -/

/-- An entry shows the text of its record's timestamp, and else the present. -/
theorem EntryReader.timestamp_eq_getD {reader : EntryReader} {line file : String} {index : Nat}
    {entry : Entry} {record : Record} (read : reader.read? line file index = some entry)
    (carried : Record.read? line = some record) :
    entry.timestamp = record.timestampText?.getD reader.now.iso := by
  obtain ⟨record', carried', shown⟩ := read?_eq_some_iff.mp read
  obtain rfl := Option.some.inj (carried.symm.trans carried')
  obtain ⟨role, text, -, -, -, -, rfl⟩ := entry?_eq_some_iff.mp shown
  rfl

/-- The entries that a feed shows are the first of all, which are in order. -/
theorem Feed.exists_sorted_of_merge {perAgent : List (List Entry)} {cap : Nat}
    {before after : List Entry} {entry : Entry}
    (h : (merge perAgent cap).entries = before ++ entry :: after) :
    ∃ rest, sorted perAgent.flatten = before ++ entry :: (after ++ rest) := by
  refine ⟨(sorted perAgent.flatten).drop cap, ?_⟩
  have shown : (sorted perAgent.flatten).take cap = before ++ entry :: after := h
  calc sorted perAgent.flatten
      = (sorted perAgent.flatten).take cap ++ (sorted perAgent.flatten).drop cap :=
        (List.take_append_drop cap _).symm
    _ = before ++ entry :: (after ++ (sorted perAgent.flatten).drop cap) := by
        rw [shown, List.append_assoc, List.cons_append]

/-- **A message without a timestamp stands at the present**, unless its timestamp is the empty text.
Its entry shows the present then, and in every feed nothing earlier than the present in whole
milliseconds stands before it, if the present lies in a year of four digits. With an empty text, and
in any other year, the entry has no instant, and nothing with an instant stands after it. The status
and the feed agree on whether a record has a timestamp just if this is neither the empty text nor a
value without a text. -/
theorem EntryReader.timestamp_of_undated (reader : EntryReader) {line file : String} {index : Nat}
    {entry : Entry} {record : Record} (read : reader.read? line file index = some entry)
    (carried : Record.read? line = some record) :
    (record.hasTimestamp = false →
      entry.timestamp = (if record.hasEmptyTimestamp then "" else reader.now.iso) ∧
      ∀ perAgent cap before after,
        (Feed.merge perAgent cap).entries = before ++ entry :: after →
          if record.hasEmptyTimestamp || !reader.now.hasPlainYear then
            entry.instant? = none ∧ ∀ other ∈ after, other.instant? = none
          else
            entry.instant? = some reader.now.wholeMillis ∧
              ∀ other ∈ before, ∃ newer, other.instant? = some newer ∧
                reader.now.wholeMillis.le newer = true) ∧
    ((record.timestampText? = none ↔ record.hasTimestamp = false) ↔
      record.hasEmptyTimestamp = false ∧ record.hasOddTimestamp = false) := by
  refine ⟨?_, record.timestampText?_eq_none_iff_hasTimestamp_eq_false⟩
  intro undated
  have timestamp := timestamp_eq_getD read carried
  rw [Record.timestampText?_of_hasTimestamp_eq_false undated] at timestamp
  have instant : entry.instant? = if record.hasEmptyTimestamp || !reader.now.hasPlainYear then none
      else some reader.now.wholeMillis := by
    rw [Entry.instant?, timestamp]
    cases record.hasEmptyTimestamp with
    | true =>
        rw [if_pos rfl, Option.getD_some, Bool.true_or, if_pos rfl]
        decide
    | false =>
        rw [if_neg Bool.false_ne_true, Option.getD_none, Instant.read?_iso]
        cases reader.now.hasPlainYear <;> rfl
  refine ⟨?_, ?_⟩
  · rw [timestamp]
    split <;> rfl
  · intro perAgent cap before after shown
    obtain ⟨rest, order⟩ := Feed.exists_sorted_of_merge shown
    split
    · next lost =>
      rw [if_pos lost] at instant
      refine ⟨instant, fun other later => ?_⟩
      exact Feed.eq_none_of_after order instant other (List.mem_append_left rest later)
    · next kept =>
      rw [if_neg kept] at instant
      exact ⟨instant, Feed.exists_le_of_before order instant⟩

/-- A message without a timestamp, and one of the minute before, which does not come first. -/
theorem EntryReader.timestamp_of_undated_minute :
    let line (timestamp : String) := "\x7b\"type\":\"message\"," ++ timestamp ++ "\"message\":" ++
      "\x7b\"role\":\"user\",\"content\":\"Hello\"\x7d\x7d"
    let reader : EntryReader := ⟨⟨"scout", "Scout", "#888", .ofString "/logs"⟩, 300, .ofMinutes 1⟩
    ∃ old entry record,
      (reader.read? (line "") "a.jsonl" 1 = some entry ∧ Record.read? (line "") = some record ∧
        record.hasTimestamp = false) ∧
      reader.read? (line "\"timestamp\":0,") "a.jsonl" 0 = some old ∧
      old.instant? = some (.ofMinutes 0) ∧
      entry.timestamp = "1970-01-01T00:01:00.000Z" ∧
      (∀ before after, (Feed.merge [[old, entry]] 50).entries = before ++ entry :: after →
        old ∉ before) ∧
      (record.timestampText? = none ↔ record.hasTimestamp = false) := by
  intro line reader
  have readOld : (reader.read? (line "\"timestamp\":0,") "a.jsonl" 0).map Entry.instant? =
      some (some (.ofMinutes 0)) := by
    decide +kernel
  have read : (reader.read? (line "") "a.jsonl" 1).isSome := by decide +kernel
  have carried : (Record.read? (line "")).map (fun record =>
      (record.hasTimestamp, record.hasEmptyTimestamp, record.hasOddTimestamp)) =
        some (false, false, false) := by
    decide +kernel
  obtain ⟨old, readOld, minute⟩ := Option.map_eq_some_iff.mp readOld
  obtain ⟨entry, read⟩ := Option.isSome_iff_exists.mp read
  obtain ⟨record, carried, parts⟩ := Option.map_eq_some_iff.mp carried
  simp only [Prod.mk.injEq] at parts
  obtain ⟨undated, notEmpty, notOdd⟩ := parts
  obtain ⟨shown, agree⟩ := reader.timestamp_of_undated read carried
  obtain ⟨timestamp, place⟩ := shown undated
  have plain : reader.now.hasPlainYear = true := by decide
  rw [notEmpty] at timestamp place
  refine ⟨old, entry, record, ⟨read, carried, undated⟩, readOld, minute, ?_, ?_, ?_⟩
  · rw [timestamp]
    decide +kernel
  · intro before after order mem
    have newest := place _ _ before after order
    rw [plain, if_neg (by decide)] at newest
    obtain ⟨newer, found, le⟩ := newest.2 old mem
    rw [minute] at found
    obtain rfl := Option.some.inj found
    revert le
    decide
  · exact agree.mpr ⟨notEmpty, notOdd⟩

/-- **An empty text for a timestamp** is none for the status, but the feed shows it as it is. The
entry does not stand at the present, but behind all that have an instant. -/
theorem EntryReader.timestamp_ne_now_of_empty_text :
    let line := "\x7b\"type\":\"message\",\"timestamp\":\"\",\"message\":" ++
      "\x7b\"role\":\"assistant\",\"content\":\"Newer message\"\x7d\x7d"
    let reader : EntryReader := ⟨⟨"scout", "Scout", "#888", .ofString "/logs"⟩, 300, .ofMinutes 1⟩
    ∃ entry record, reader.read? line "a.jsonl" 0 = some entry ∧
      Record.read? line = some record ∧ record.hasTimestamp = false ∧
      entry.timestamp ≠ reader.now.iso ∧
      ∀ perAgent cap before after,
        (Feed.merge perAgent cap).entries = before ++ entry :: after →
          ∀ other ∈ after, other.instant? = none := by
  intro line reader
  have read : (reader.read? line "a.jsonl" 0).map (fun entry =>
      (entry.timestamp, entry.instant?)) = some ("", none) := by
    decide +kernel
  have carried : (Record.read? line).map Record.hasTimestamp = some false := by decide +kernel
  obtain ⟨entry, read, parts⟩ := Option.map_eq_some_iff.mp read
  obtain ⟨timestamp, lost⟩ := Prod.mk.inj parts
  obtain ⟨record, carried, undated⟩ := Option.map_eq_some_iff.mp carried
  refine ⟨entry, record, read, carried, undated, ?_, ?_⟩
  · rw [timestamp]
    decide +kernel
  · intro perAgent cap before after shown other later
    obtain ⟨rest, order⟩ := Feed.exists_sorted_of_merge shown
    exact Feed.eq_none_of_after order lost other (List.mem_append_left rest later)

end FleetWatch
