import FleetWatch.Proofs.Session.Selection
import FleetWatch.Proofs.Text.Encoding
import FleetWatch.Proofs.Text.Lines
import FleetWatch.Session.Feed

/-!
# Logs that are appended to

A log grows at its end, and may be read while a line is being written. This module shows that the
lines that are complete give the same entries ever after, identifiers included, and that a line
takes the position it keeps as soon as it is complete.

## Main Definitions

* `shownLines` — the texts of lines that are not blank
* `completeLines` — the lines of a log's bytes that are closed by a line end and not blank
* `openLine` — the bytes behind the last line end

## Design Notes

An identifier can hold the position of a line among the lines that are not blank, so it is not
enough that a complete line is read to the same record: the lines before it must be counted alike.
What is open at the end of the bytes can be blank, malformed or cut off in a character, and is not
counted before the lines that are complete.
-/

namespace FleetWatch

open Text

/-- The texts of lines that are not blank. -/
def shownLines (lines : List (List Char)) : List String :=
  (lines.filter fun line => !allBlank line).map String.ofList

/-- The lines of a log's bytes that are closed by a line end and not blank, in order. -/
def completeLines (bytes : List UInt8) : List String :=
  shownLines (segments '\n' (Utf8.decodeLossy bytes)).dropLast

/-- The bytes behind the last line end: a line that has begun, or nothing. -/
def openLine (bytes : List UInt8) : List UInt8 :=
  lastSegment 0x0A bytes

theorem shownLines_cons_of_blank (lines : List (List Char)) {line : List Char}
    (h : allBlank line = true) : shownLines (line :: lines) = shownLines lines := by
  unfold shownLines
  rw [List.filter_cons_of_neg (by simp [h])]

theorem shownLines_cons_of_not_blank (lines : List (List Char)) {line : List Char}
    (h : allBlank line = false) :
    shownLines (line :: lines) = String.ofList line :: shownLines lines := by
  unfold shownLines
  rw [List.filter_cons_of_pos (by simp [h]), List.map_cons]

theorem shownLines_append (lines lines' : List (List Char)) :
    shownLines (lines ++ lines') = shownLines lines ++ shownLines lines' := by
  rw [shownLines, List.filter_append, List.map_append]
  rfl

/-- The lines of bytes are the texts of the lines of the bytes, read one by one. -/
theorem linesOfBytes_eq (bytes : List UInt8) :
    linesOfBytes bytes = shownLines ((segments 0x0A bytes).map Utf8.decodeLossy) := by
  rw [linesOfBytes, Utf8.segments_decodeLossy]
  rfl

/-- **Lines that are written are read as they are**, if none is blank or has a line end in it. -/
theorem linesOfBytes_encode_intercalate {lines : List String}
    (proper : ∀ line ∈ lines, '\n' ∉ line.toList ∧ allBlank line.toList = false) :
    linesOfBytes (Utf8.encode (List.intercalate ['\n'] (lines.map String.toList))) = lines := by
  rcases eq_or_ne lines [] with rfl | nonempty
  · rfl
  have parts : segments '\n' (List.intercalate ['\n'] (lines.map String.toList)) =
      lines.map String.toList := by
    refine segments_intercalate '\n' (by simpa using nonempty) ?_
    rw [List.forall_mem_map]
    exact fun line mem => (proper line mem).1
  have shown : (lines.map String.toList).filter (fun line => !allBlank line) =
      lines.map String.toList := by
    rw [List.filter_eq_self, List.forall_mem_map]
    intro line mem
    rw [(proper line mem).2, Bool.not_false]
  rw [linesOfBytes, Utf8.decodeLossy_encode, parts, shown, List.map_map]
  exact List.map_id'' (fun _ => String.ofList_toList) lines

theorem completeLines_eq (bytes : List UInt8) :
    completeLines bytes = shownLines ((segments 0x0A bytes).dropLast.map Utf8.decodeLossy) := by
  rw [completeLines, Utf8.segments_decodeLossy, ← List.map_dropLast]

/-- **Appending leaves the complete lines alone.** Only the open line goes on. -/
theorem linesOfBytes_append (bytes more : List UInt8) :
    linesOfBytes (bytes ++ more) =
      completeLines bytes ++ linesOfBytes (openLine bytes ++ more) := by
  rw [linesOfBytes_eq, linesOfBytes_eq, completeLines_eq, segments_append, List.map_append,
    shownLines_append]
  rfl

/-- The first line of bytes, up to a line end. -/
theorem linesOfBytes_of_first {first : List UInt8} (h : 0x0A ∉ first) (rest : List UInt8) :
    linesOfBytes (first ++ 0x0A :: rest) =
      shownLines [Utf8.decodeLossy first] ++ linesOfBytes rest := by
  rw [linesOfBytes_eq, linesOfBytes_eq, segments_append_separator, segments_of_notMem 0x0A h,
    List.map_append, shownLines_append]
  rfl

/-- The only line of bytes without a line end. -/
theorem linesOfBytes_of_only {only : List UInt8} (h : 0x0A ∉ only) :
    linesOfBytes only = shownLines [Utf8.decodeLossy only] := by
  rw [linesOfBytes_eq, segments_of_notMem 0x0A h]
  rfl

theorem newline_notMem_openLine (bytes : List UInt8) : 0x0A ∉ openLine bytes :=
  separator_notMem_lastSegment 0x0A bytes

/-- **An open line that is completed** comes right behind the complete lines, if it is not blank. -/
theorem exists_linesOfBytes_append {bytes more ending : List UInt8} (h : 0x0A ∉ ending)
    (completed : more = ending ∨ ∃ rest, more = ending ++ 0x0A :: rest)
    (shown : allBlank (Utf8.decodeLossy (openLine bytes ++ ending)) = false) :
    ∃ later, linesOfBytes (bytes ++ more) = completeLines bytes ++
      String.ofList (Utf8.decodeLossy (openLine bytes ++ ending)) :: later := by
  have notMem : 0x0A ∉ openLine bytes ++ ending := by
    rw [List.mem_append, not_or]
    exact ⟨newline_notMem_openLine bytes, h⟩
  have one : shownLines [Utf8.decodeLossy (openLine bytes ++ ending)] =
      [String.ofList (Utf8.decodeLossy (openLine bytes ++ ending))] := by
    simp [shownLines, shown]
  rw [linesOfBytes_append]
  rcases completed with rfl | ⟨rest, rfl⟩
  · rw [linesOfBytes_of_only notMem, one]
    exact ⟨[], rfl⟩
  · rw [← List.append_assoc, linesOfBytes_of_first notMem, one]
    exact ⟨linesOfBytes rest, rfl⟩

/-! ### Entries -/

/-- The entries of lines are those of the first ones, and then those of the others, whose positions
go on. -/
theorem lineEntries_append (reader : EntryReader) (file : String) (lines lines' : List String) :
    lineEntries reader file (lines ++ lines') = lineEntries reader file lines ++
      (lines'.zipIdx lines.length).filterMap fun (line, index) => reader.read? line file index := by
  rw [lineEntries, List.zipIdx_append, List.filterMap_append, Nat.zero_add]
  rfl

/-- A line behind others is read at the position that counts them. -/
theorem exists_lineEntries_append_cons (reader : EntryReader) (file : String)
    (lines : List String) (line : String) (later : List String) :
    ∃ entries, lineEntries reader file (lines ++ line :: later) =
      lineEntries reader file lines ++ (reader.read? line file lines.length).toList ++ entries := by
  refine ⟨(later.zipIdx (lines.length + 1)).filterMap
    fun (line, index) => reader.read? line file index, ?_⟩
  rw [lineEntries_append, List.zipIdx_cons, List.filterMap_cons, List.append_assoc]
  cases read : reader.read? line file lines.length <;> simp [read]

/-- The entries of a log whose bytes can be read. -/
theorem logEntries_of_read {disk : Disk} {log : SessionLog} {bytes : List UInt8}
    (reader : EntryReader) (h : disk.read log.path = .ok bytes) :
    logEntries disk reader log = lineEntries reader log.fileName (linesOfBytes bytes) := by
  rw [logEntries, Disk.logLines, h]

/-- **The entries of complete lines stay as they are.** Of a log that is read before and after bytes
are appended to it, the complete lines give the same first entries both times; and the line that
was open comes next as soon as it is completed and not blank, at the position that counts the
complete lines before it. -/
theorem logEntries_append_stable {disk disk' : Disk} {log log' : SessionLog}
    {bytes more : List UInt8} (reader : EntryReader) (name : log'.name = log.name)
    (before : disk.read log.path = .ok bytes) (after : disk'.read log'.path = .ok (bytes ++ more)) :
    lineEntries reader log.fileName (completeLines bytes) <+: logEntries disk reader log ∧
    lineEntries reader log.fileName (completeLines bytes) <+: logEntries disk' reader log' ∧
    ∀ ending : List UInt8, 0x0A ∉ ending →
      (more = ending ∨ ∃ rest, more = ending ++ 0x0A :: rest) →
      allBlank (Utf8.decodeLossy (openLine bytes ++ ending)) = false →
      let line := String.ofList (Utf8.decodeLossy (openLine bytes ++ ending))
      (disk'.logLines log'.path)[(completeLines bytes).length]? = some line ∧
      ∃ entries, logEntries disk' reader log' =
        lineEntries reader log.fileName (completeLines bytes) ++
          (reader.read? line log.fileName (completeLines bytes).length).toList ++ entries := by
  have fileName : log'.fileName = log.fileName := by
    rw [SessionLog.fileName, name, SessionLog.fileName]
  have linesAfter : disk'.logLines log'.path = linesOfBytes (bytes ++ more) := by
    rw [Disk.logLines, after]
  rw [logEntries_of_read reader before, logEntries_of_read reader after, fileName, linesAfter]
  refine ⟨?_, ?_, ?_⟩
  · -- Before, it is as if nothing had been appended.
    have lines := linesOfBytes_append bytes []
    rw [List.append_nil] at lines
    rw [lines, lineEntries_append]
    exact List.prefix_append _ _
  · rw [linesOfBytes_append, lineEntries_append]
    exact List.prefix_append _ _
  · intro ending notMem completed shown line
    obtain ⟨later, lines⟩ := exists_linesOfBytes_append notMem completed shown
    rw [lines]
    constructor
    · rw [List.getElem?_append_right (Nat.le_refl _), Nat.sub_self, List.getElem?_cons_zero]
    · exact exists_lineEntries_append_cons reader log.fileName (completeLines bytes) line later

/-- A log whose last line breaks off in the middle of a character, and its completion. -/
theorem logEntries_append_stable_cut_character :
    let reader : EntryReader := ⟨⟨"scout", "Scout", "#888", .ofString "/logs"⟩, 300, .ofMinutes 0⟩
    let line := "\x7b\"type\":\"message\",\"message\":" ++
      "\x7b\"role\":\"user\",\"content\":\"Price: 10 "
    let bytes := Utf8.encode (line ++ "!\"\x7d\x7d\n" ++ line).toList ++ [0xE2, 0x82]
    let ending := 0xAC :: Utf8.encode "\"\x7d\x7d".toList
    let log : SessionLog := ⟨.ofString "/logs/a.jsonl", Utf8.encode "a.jsonl".toList,
      .ofInstant (.ofMinutes 0)⟩
    let disk := Disk.ofFile log.name bytes log.modified
    let disk' := Disk.ofFile log.name (bytes ++ (ending ++ [0x0A])) log.modified
    (disk.read log.path = .ok bytes ∧ disk'.read log.path = .ok (bytes ++ (ending ++ [0x0A])) ∧
      0x0A ∉ ending ∧ allBlank (Utf8.decodeLossy (openLine bytes ++ ending)) = false) ∧
    lineEntries reader log.fileName (completeLines bytes) <+: logEntries disk' reader log ∧
    (disk'.logLines log.path)[(completeLines bytes).length]? =
      some (String.ofList (Utf8.decodeLossy (openLine bytes ++ ending))) ∧
    (logEntries disk' reader log).map (fun entry => (entry.id, entry.content)) =
      [("scout-a.jsonl-0", "Price: 10 !"), ("scout-a.jsonl-1", "Price: 10 €")] := by
  intro reader line bytes ending log disk disk'
  have notMem : 0x0A ∉ ending := by decide +kernel
  have shown : allBlank (Utf8.decodeLossy (openLine bytes ++ ending)) = false := by decide +kernel
  have before : disk.read log.path = .ok bytes := rfl
  have after : disk'.read log.path = .ok (bytes ++ (ending ++ [0x0A])) := rfl
  obtain ⟨-, kept, completed⟩ := logEntries_append_stable reader rfl before after
  have next := (completed ending notMem (Or.inr ⟨[], rfl⟩) shown).1
  exact ⟨⟨before, after, notMem, shown⟩, kept, next, by decide +kernel⟩

end FleetWatch
