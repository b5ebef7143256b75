import FleetWatch.Proofs.Session.AppendOnly
import Mathlib.Data.List.Basic

/-!
# What a line of a log leaves alone

A line of a log can hold anything: bytes that are no text, text that is no JSON, a record cut off in
the middle. This module shows that it changes nothing but its own entry. A line that is replaced by
another leaves the entries of all other lines as they are, provided that both or neither of the two
are blank.

## Main Definitions

* `bytesOfLines` — the bytes of lines
* `replaceLine` — a log with one of its lines replaced
* `entryAt?` — the entry of one line, at its position among the lines that are not blank

## Design Notes

The proviso is needed, since a blank line does not count for the positions of the lines behind it,
and these can show in identifiers. `entryAt?` says of each line on its own what entry it makes;
`lineEntries_linesOfBytes` shows that a log makes just these, in the order of the lines.
-/

namespace FleetWatch

open Text

/-! ### Lines and their bytes -/

/-- The bytes of lines, with line ends between them. -/
def bytesOfLines (lines : List (List UInt8)) : List UInt8 :=
  List.intercalate [0x0A] lines

/-- Lines are those of their bytes. -/
theorem segments_bytesOfLines {lines : List (List UInt8)} (ne : lines ≠ [])
    (h : ∀ line ∈ lines, 0x0A ∉ line) : segments 0x0A (bytesOfLines lines) = lines := by
  rw [bytesOfLines, segments_intercalate 0x0A ne h]

/-- The bytes of a log with the line at a position, counted from zero, replaced. -/
def replaceLine (bytes : List UInt8) (position : Nat) (line : List UInt8) : List UInt8 :=
  bytesOfLines ((segments 0x0A bytes).set position line)

theorem segments_replaceLine (bytes : List UInt8) (position : Nat) {line : List UInt8}
    (h : 0x0A ∉ line) :
    segments 0x0A (replaceLine bytes position line) = (segments 0x0A bytes).set position line := by
  refine segments_bytesOfLines ?_ ?_
  · rw [Ne, List.set_eq_nil_iff]
    exact segments_ne_nil 0x0A bytes
  · intro other mem
    rcases List.mem_or_eq_of_mem_set mem with mem | rfl
    · exact separator_notMem_of_mem_segments 0x0A mem
    · exact h

/-! ### The entry of a line -/

/-- Whether a line of bytes counts: its text is not blank. -/
def counts (line : List UInt8) : Bool :=
  !allBlank (Utf8.decodeLossy line)

/-- **The entry of the line at a position**, read on its own. It is counted by the lines before it
that are not blank; a blank line has none. -/
def entryAt? (reader : EntryReader) (file : String) (lines : List (List UInt8))
    (position : Nat) : Option Entry := do
  let line ← lines[position]?
  if counts line then
    reader.read? (String.ofList (Utf8.decodeLossy line)) file ((lines.take position).countP counts)
  else none

/-- The texts of lines that are not blank are as many as the lines that count. -/
theorem length_shownLines_map (lines : List (List UInt8)) :
    (shownLines (lines.map Utf8.decodeLossy)).length = lines.countP counts := by
  rw [shownLines, List.length_map, List.filter_map, List.length_map, List.countP_eq_length_filter]
  rfl

/-- What comes behind a line does not matter for its entry. -/
theorem entryAt?_append_of_lt (reader : EntryReader) (file : String)
    {lines : List (List UInt8)} (more : List (List UInt8)) {position : Nat}
    (h : position < lines.length) :
    entryAt? reader file (lines ++ more) position = entryAt? reader file lines position := by
  rw [entryAt?, entryAt?, List.getElem?_append_left h,
    List.take_append_of_le_length (Nat.le_of_lt h)]

/-- **The entries of lines are those of each line on its own**, in the order of the lines. -/
theorem lineEntries_shownLines (reader : EntryReader) (file : String)
    (lines : List (List UInt8)) :
    lineEntries reader file (shownLines (lines.map Utf8.decodeLossy)) =
      (List.range lines.length).filterMap (entryAt? reader file lines) := by
  induction lines using List.reverseRecOn with
  | nil => rfl
  | append_singleton lines line ih =>
      have before : (List.range lines.length).filterMap (entryAt? reader file (lines ++ [line])) =
          (List.range lines.length).filterMap (entryAt? reader file lines) := by
        refine List.filterMap_congr fun position mem => ?_
        exact entryAt?_append_of_lt reader file [line] (List.mem_range.mp mem)
      have last : entryAt? reader file (lines ++ [line]) lines.length =
          if counts line then
            reader.read? (String.ofList (Utf8.decodeLossy line)) file (lines.countP counts)
          else none := by
        simp [entryAt?]
      rw [List.map_append, shownLines_append, lineEntries_append, ih, length_shownLines_map,
        List.length_append, List.length_singleton, List.range_succ, List.filterMap_append, before]
      refine congrArg (_ ++ ·) ?_
      rw [List.filterMap_cons, List.filterMap_nil, last]
      cases h : allBlank (Utf8.decodeLossy line) with
      | true => simp [shownLines, counts, h]
      | false => simp [shownLines, counts, h, List.filterMap_cons]

/-- The entries of the bytes of a log. -/
theorem lineEntries_linesOfBytes (reader : EntryReader) (file : String) (bytes : List UInt8) :
    lineEntries reader file (linesOfBytes bytes) =
      (List.range (segments 0x0A bytes).length).filterMap
        (entryAt? reader file (segments 0x0A bytes)) := by
  rw [linesOfBytes_eq, lineEntries_shownLines]

/-- The number of lines that count stays the same when one is replaced by another that counts
alike. -/
theorem countP_set {lines : List (List UInt8)} {position : Nat} {line : List UInt8}
    (h : ∀ old, lines[position]? = some old → counts line = counts old) :
    (lines.set position line).countP counts = lines.countP counts := by
  induction lines generalizing position with
  | nil => rfl
  | cons first rest ih =>
      cases position with
      | zero =>
          rw [List.set_cons_zero, List.countP_cons, List.countP_cons, h first rfl]
      | succ position =>
          rw [List.set_cons_succ, List.countP_cons, List.countP_cons,
            ih fun old found => h old (by simpa using found)]

/-- **A line leaves the entries of the others alone**, if it counts like the line in whose place it
stands. -/
theorem entryAt?_set_of_ne (reader : EntryReader) (file : String) {lines : List (List UInt8)}
    {position other : Nat} {line : List UInt8}
    (h : ∀ old, lines[position]? = some old → counts line = counts old) (ne : other ≠ position) :
    entryAt? reader file (lines.set position line) other =
      entryAt? reader file lines other := by
  have index : ((lines.set position line).take other).countP counts =
      (lines.take other).countP counts := by
    rw [List.take_set]
    refine countP_set fun old found => h old ?_
    rw [List.getElem?_take] at found
    split at found
    · exact found
    · cases found
  rw [entryAt?, entryAt?, List.getElem?_set_ne (Ne.symm ne), index]

/-- **A corrupt line affects no other line.** Of a log that is read before and after one of its
lines is replaced by other bytes without a line end, blank just if the line was, the entries are
both times those of its lines, each read on its own, in their order; and the entry of every other
line is the same. The lines are read one by one, whatever their bytes are. -/
theorem logEntries_replaceLine {disk disk' : Disk} {log log' : SessionLog}
    {bytes line : List UInt8} {position : Nat} (reader : EntryReader) (name : log'.name = log.name)
    (before : disk.read log.path = .ok bytes)
    (after : disk'.read log'.path = .ok (replaceLine bytes position line)) (h : 0x0A ∉ line)
    (alike : ∀ old, (segments 0x0A bytes)[position]? = some old →
      (allBlank (Utf8.decodeLossy line) = true ↔ allBlank (Utf8.decodeLossy old) = true)) :
    let lines := segments 0x0A bytes
    let lines' := lines.set position line
    logEntries disk reader log =
      (List.range lines.length).filterMap (entryAt? reader log.fileName lines) ∧
    logEntries disk' reader log' =
      (List.range lines.length).filterMap (entryAt? reader log.fileName lines') ∧
    (∀ other, other ≠ position →
      entryAt? reader log.fileName lines' other = entryAt? reader log.fileName lines other) ∧
    ∀ any, linesOfBytes any =
      (((segments 0x0A any).map Utf8.decodeLossy).filter fun text => !allBlank text).map
        String.ofList := by
  intro lines lines'
  have fileName : log'.fileName = log.fileName := by
    rw [SessionLog.fileName, name, SessionLog.fileName]
  refine ⟨?_, ?_, ?_, linesOfBytes_eq⟩
  · rw [logEntries_of_read reader before, lineEntries_linesOfBytes]
  · rw [logEntries_of_read reader after, fileName, lineEntries_linesOfBytes,
      segments_replaceLine bytes position h, List.length_set]
  · intro other ne
    refine entryAt?_set_of_ne reader log.fileName (fun old found => ?_) ne
    rw [counts, counts, Bool.eq_iff_iff.mpr (alike old found)]

/-- A log with bytes that are no text between two records, and with the start of a character in
their place. -/
theorem logEntries_replaceLine_cut_character :
    let reader : EntryReader := ⟨⟨"scout", "Scout", "#888", .ofString "/logs"⟩, 300, .ofMinutes 0⟩
    let record := Utf8.encode ("\x7b\"type\":\"message\",\"message\":" ++
      "\x7b\"role\":\"user\",\"content\":\"Hello\"\x7d\x7d").toList
    let bytes := bytesOfLines [record, [0xFF, 0x22], record]
    let line : List UInt8 := [0xE2, 0x82]
    let log : SessionLog := ⟨.ofString "/logs/a.jsonl", Utf8.encode "a.jsonl".toList,
      .ofInstant (.ofMinutes 0)⟩
    let disk := Disk.ofFile log.name bytes log.modified
    let disk' := Disk.ofFile log.name (replaceLine bytes 1 line) log.modified
    (disk.read log.path = .ok bytes ∧ disk'.read log.path = .ok (replaceLine bytes 1 line) ∧
      0x0A ∉ line ∧ ∀ old, (segments 0x0A bytes)[1]? = some old →
        (allBlank (Utf8.decodeLossy line) = true ↔ allBlank (Utf8.decodeLossy old) = true)) ∧
    entryAt? reader log.fileName ((segments 0x0A bytes).set 1 line) 2 =
      entryAt? reader log.fileName (segments 0x0A bytes) 2 ∧
    (logEntries disk' reader log).map (·.id) = ["scout-a.jsonl-0", "scout-a.jsonl-2"] := by
  intro reader record bytes line log disk disk'
  have lines : segments 0x0A bytes = [record, [0xFF, 0x22], record] := by decide +kernel
  have notMem : 0x0A ∉ line := by decide
  have alike : ∀ old, (segments 0x0A bytes)[1]? = some old →
      (allBlank (Utf8.decodeLossy line) = true ↔ allBlank (Utf8.decodeLossy old) = true) := by
    rw [lines]
    rintro old ⟨⟩
    decide +kernel
  have before : disk.read log.path = .ok bytes := rfl
  have after : disk'.read log.path = .ok (replaceLine bytes 1 line) := rfl
  obtain ⟨-, -, others, -⟩ := logEntries_replaceLine reader rfl before after notMem alike
  exact ⟨⟨before, after, notMem, alike⟩, others 2 (by decide), by decide +kernel⟩

end FleetWatch
