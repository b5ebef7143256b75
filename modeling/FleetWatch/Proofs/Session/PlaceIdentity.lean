import FleetWatch.Proofs.Session.AgentIsolation
import FleetWatch.Proofs.Session.AppendOnly
import FleetWatch.Proofs.Text.Digits

/-!
# Entries that are called by their place

The record of a line may have no identifier of its own. Its entry is then called by the place of the
line: the agent, the name of the log and the position of the line in it, with hyphens between them.
Names of logs are free texts, with hyphens and digits wherever one likes, so `a.jsonl-1.jsonl` may
stand beside `a.jsonl`. This module shows that the place can be told from the identifier all the
same.

## Main Definitions

* `Record.Nameless` — a record without an identifier that could be used
* `FoundAt` — an entry beside the place of its line and the record that the line holds

## Design Notes

A position is written in digits only, so the last hyphen of an identifier is the one in front of it:
the cut is made from the end (`append_cons_inj_of_notMem_right`). What is left in front is the name
of a log as text, and as only well-formed names are names of logs, it is not the text of another
one (`SessionLog.encode_fileName`).
-/

namespace FleetWatch

open Text

/-! ### Nameless records -/

/-- **A record without an identifier that could be used**: it has no text but the empty one for its
identifier, and no number but zero. What has another shape is of no use either. -/
structure Record.Nameless (record : Record) : Prop where
  no_text : ∀ text, record.id = some (.text text) → text = ""
  no_number : ∀ n, record.id = some (.number n) → ∃ x, n.toBinary64? = some x ∧ x.isZero = true

theorem Record.ownId?_eq_none_iff {record : Record} : record.ownId? = none ↔ record.Nameless := by
  obtain ⟨kind, id, timestamp, model, message⟩ := record
  constructor
  · intro nameless
    constructor
    · rintro text rfl
      by_contra nonempty
      simp [ownId?, nonempty] at nameless
    · rintro n rfl
      cases read : n.toBinary64? with
      | none => simp [ownId?, read] at nameless
      | some x => exact ⟨x, rfl, by simpa [ownId?, read] using nameless⟩
  · rintro ⟨noText, noNumber⟩
    cases id with
    | none => rfl
    | some value =>
        cases value with
        | text text => exact if_pos (noText text rfl)
        | number n =>
            obtain ⟨x, read, zero⟩ := noNumber n rfl
            simp [ownId?, read, zero]
        | null | bool | array | object => rfl

/-! ### Cutting an identifier -/

section Cutting

variable {α : Type} {separator : α} {before before' after after' : List α}

/-- A text without a separator does not reach over one. -/
theorem eq_nil_of_cons_eq_append_cons {middle : List α} (notMem : separator ∉ after)
    (h : separator :: after = middle ++ separator :: after') : middle = [] := by
  cases middle with
  | nil => rfl
  | cons first middle =>
      obtain ⟨-, rest⟩ := List.cons.inj h
      exact absurd (rest ▸ List.mem_append_right middle List.mem_cons_self) notMem

/-- **Two texts are cut alike at their last separators.** -/
theorem append_cons_inj_of_notMem_right (notMem : separator ∉ after)
    (notMem' : separator ∉ after') :
    before ++ separator :: after = before' ++ separator :: after' ↔
      before = before' ∧ after = after' := by
  constructor
  · intro same
    have cut : before = before' := by
      rcases List.append_eq_append_iff.mp same with ⟨middle, rfl, rest⟩ | ⟨middle, rfl, rest⟩
      · rw [eq_nil_of_cons_eq_append_cons notMem rest, List.append_nil]
      · rw [eq_nil_of_cons_eq_append_cons notMem' rest, List.append_nil]
    subst cut
    exact ⟨rfl, (List.cons.inj (List.append_cancel_left same)).2⟩
  · rintro ⟨rfl, rfl⟩
    rfl

end Cutting

/-- Numbers are written alike only if they are the same. -/
theorem decimal_inj {m n : Nat} : decimal m = decimal n ↔ m = n := by
  refine ⟨fun same => ?_, congrArg decimal⟩
  calc m = asciiValue (padded 0 m) := (asciiValue_padded 0 m).symm
    _ = asciiValue (padded 0 n) := by rw [padded, padded, same]
    _ = n := asciiValue_padded 0 n

theorem hyphen_notMem_decimal (n : Nat) : '-' ∉ decimal n := by
  intro mem
  exact absurd (isDigit_of_mem_decimal mem) (by decide)

namespace EntryReader

variable {reader : EntryReader} {record record' : Record} {file file' : String}
  {index index' : Nat}

/-- The identifier of a nameless record in characters. -/
theorem entryId_of_nameless (nameless : record.Nameless) :
    (reader.entryId record file index).toList =
      (reader.agent.id ++ "-" ++ file).toList ++ '-' :: decimal index := by
  rw [entryId, Record.ownId?_eq_none_iff.mpr nameless]
  simp [String.toList_append]

/-- **Nameless records are called alike** just if they stand at the same position of logs of the
same name. -/
theorem entryId_eq_iff_of_nameless (nameless : record.Nameless) (nameless' : record'.Nameless) :
    reader.entryId record file index = reader.entryId record' file' index' ↔
      file = file' ∧ index = index' := by
  rw [← String.toList_inj, entryId_of_nameless nameless, entryId_of_nameless nameless',
    append_cons_inj_of_notMem_right (hyphen_notMem_decimal index) (hyphen_notMem_decimal index'),
    decimal_inj, String.toList_inj, String.append_right_inj]

end EntryReader

/-! ### The lines of an agent -/

/-- **An entry beside the place of its line**: the log that the line is from, its position among the
lines of the log, and the record that it holds. -/
structure FoundAt (disk : Disk) (options : FeedOptions) (now : Instant) (agent : Agent)
    (log : SessionLog) (index : Nat) (record : Record) (entry : Entry) : Prop where
  recent : log.IsRecent disk agent.sessionDir options.window now options.windowNanos
  carried : ∃ line, (disk.logLines log.path)[index]? = some line ∧ Record.read? line = some record
  shown : EntryReader.entry? ⟨agent, options.maxChars, now⟩ record log.fileName index = some entry

variable {disk : Disk} {options : FeedOptions} {now : Instant} {agent : Agent}

/-- Every entry of an agent has a place. -/
theorem mem_agentEntries_iff_foundAt {entry : Entry} :
    entry ∈ agentEntries disk options now agent ↔
      ∃ log index record, FoundAt disk options now agent log index record entry := by
  rw [mem_agentEntries]
  constructor
  · rintro ⟨log, recent, line, index, atIndex, read⟩
    obtain ⟨record, carried, shown⟩ := EntryReader.read?_eq_some_iff.mp read
    exact ⟨log, index, record, recent, ⟨line, atIndex, carried⟩, shown⟩
  · rintro ⟨log, index, record, recent, ⟨line, atIndex, carried⟩, shown⟩
    exact ⟨log, recent, line, index, atIndex,
      EntryReader.read?_eq_some_iff.mpr ⟨record, carried, shown⟩⟩

theorem FoundAt.id_eq {log : SessionLog} {index : Nat} {record : Record} {entry : Entry}
    (found : FoundAt disk options now agent log index record entry) :
    entry.id =
      EntryReader.entryId ⟨agent, options.maxChars, now⟩ record log.fileName index := by
  obtain ⟨role, text, -, -, -, -, rfl⟩ := EntryReader.entry?_eq_some_iff.mp found.shown
  rfl

/-- Logs that an agent is read from are the same if they have the same name as text. -/
theorem SessionLog.InDirectory.eq_iff_fileName {directory : Path} {log log' : SessionLog}
    (mem : log.InDirectory disk directory) (mem' : log'.InDirectory disk directory) :
    log.fileName = log'.fileName ↔ log = log' := by
  constructor
  · intro same
    have bytes : log.name = log'.name := by
      rw [← encode_fileName mem.named, same, encode_fileName mem'.named]
    exact mem.eq_of_name mem' bytes
  · rintro rfl
    rfl

/-- **The place of a nameless line can be told from its identifier.** The entries of an agent are
those that are found at some place; and of two of them whose records have no identifier that could
be used, the identifiers are the same just if it is one line of one log. -/
theorem agentEntries_id_eq_iff_of_nameless (disk : Disk) (options : FeedOptions) (now : Instant)
    (agent : Agent) :
    (∀ entry, entry ∈ agentEntries disk options now agent ↔
      ∃ log index record, FoundAt disk options now agent log index record entry) ∧
    ∀ log index record entry log' index' record' entry',
      FoundAt disk options now agent log index record entry →
      FoundAt disk options now agent log' index' record' entry' →
      record.Nameless → record'.Nameless →
        (entry.id = entry'.id ↔ log = log' ∧ index = index') := by
  refine ⟨fun entry => mem_agentEntries_iff_foundAt, ?_⟩
  intro log index record entry log' index' record' entry' found found' nameless nameless'
  rw [found.id_eq, found'.id_eq, EntryReader.entryId_eq_iff_of_nameless nameless nameless',
    found.recent.inDirectory.eq_iff_fileName found'.recent.inDirectory]

/-- The name of one log goes on like the places of another: the second line of `a.jsonl` and the
first of `a.jsonl-1.jsonl`, with zero and the empty text for identifiers. -/
theorem agentEntries_id_eq_iff_of_nameless_longer_name :
    let line (id : String) := "\x7b\"type\":\"message\",\"id\":" ++ id ++ ",\"message\":" ++
      "\x7b\"role\":\"user\",\"content\":\"Hello\"\x7d\x7d"
    let lines := [line "\"\"", line "0"]
    let name := Utf8.encode "a.jsonl".toList
    let longer := Utf8.encode "a.jsonl-1.jsonl".toList
    let time := FileTime.ofInstant (.ofMinutes 0)
    let bytes := Utf8.encode (List.intercalate ['\n'] (lines.map String.toList))
    let disk := { Disk.ofFile name bytes time with
      list? := fun _ => some (.ofNames [longer, name]) }
    let scout : Agent := ⟨"scout", "Scout", "#888", .ofString "/scout"⟩
    let log (name : List UInt8) : SessionLog := ⟨scout.sessionDir.child name, name, time⟩
    let now := Instant.ofMinutes 1
    ∃ record entry record' entry',
      (FoundAt disk {} now scout (log name) 1 record entry ∧
        FoundAt disk {} now scout (log longer) 0 record' entry' ∧
        record.Nameless ∧ record'.Nameless) ∧
      entry.id = "scout-a.jsonl-1" ∧ entry'.id = "scout-a.jsonl-1.jsonl-0" ∧
      (entry.id = entry'.id ↔ log name = log longer ∧ 1 = 0) := by
  intro line lines name longer time bytes disk scout log now
  have written : linesOfBytes bytes = lines := linesOfBytes_encode_intercalate (by decide +kernel)
  have fresh : (FileTime.ofInstant now).nanos - (86400 * 1000000000 + 0 : Nat) < time.nanos := by
    decide
  -- What is found at a place, if the name is listed and the line makes an entry.
  have found : ∀ other index text id, other ∈ (Listing.ofNames [longer, name]).names →
      SessionLog.isLogName other = true → lines[index]? = some text →
      ((Record.read? text).bind fun record =>
        (EntryReader.entry? ⟨scout, 300, now⟩ record (log other).fileName index).map fun entry =>
          (record.ownId?, entry.id)) = some (none, id) →
      ∃ record entry, FoundAt disk {} now scout (log other) index record entry ∧
        record.Nameless ∧ entry.id = id := by
    intro other index text id listed named atIndex made
    obtain ⟨record, carried, made⟩ := Option.bind_eq_some_iff.mp made
    obtain ⟨entry, shown, parts⟩ := Option.map_eq_some_iff.mp made
    obtain ⟨nameless, isId⟩ := Prod.mk.inj parts
    have recent : (log other).IsRecent disk scout.sessionDir 86400 now 0 :=
      ⟨⟨⟨_, rfl, listed⟩, named, rfl, rfl⟩, fresh⟩
    have read : disk.logLines (log other).path = lines := written
    exact ⟨record, entry, ⟨recent, ⟨text, read ▸ atIndex, carried⟩, shown⟩,
      Record.ownId?_eq_none_iff.mp nameless, isId⟩
  obtain ⟨record, entry, atName, nameless, isId⟩ := found name 1 (line "0") "scout-a.jsonl-1"
    (by decide +kernel) (by decide +kernel) rfl (by decide +kernel)
  obtain ⟨record', entry', atLonger, nameless', isId'⟩ := found longer 0 (line "\"\"")
    "scout-a.jsonl-1.jsonl-0" (by decide +kernel) (by decide +kernel) rfl (by decide +kernel)
  refine ⟨record, entry, record', entry', ⟨atName, atLonger, nameless, nameless'⟩, isId, isId', ?_⟩
  exact (agentEntries_id_eq_iff_of_nameless disk {} now scout).2 _ _ _ _ _ _ _ _ atName atLonger
    nameless nameless'

end FleetWatch
