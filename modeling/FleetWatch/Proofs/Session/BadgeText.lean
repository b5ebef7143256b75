import FleetWatch.Proofs.Session.Acceptance
import FleetWatch.Proofs.Session.AppendOnly
import FleetWatch.Proofs.Session.LastHeard
import FleetWatch.Proofs.Session.LivenessDecay
import FleetWatch.Proofs.Text.Excerpt

/-!
# The text of a status and that of its entry

The status of an agent shows what its assistant last said, and the feed shows the same message among
the others. Each cuts the text of the record to a limit of its own. Since an opening of an opening
is an opening of the text, the status shows what the feed shows, cut further.

## Main Definitions

* `SpeaksLast` — the last line of several with a text of the assistant
-/

namespace FleetWatch

open Text

/-- A text that is cut twice is cut once, to the smaller limit. -/
theorem cut_cut (first second : Nat) (text : String) :
    cut second (cut first text) = cut (min first second) text := by
  rw [cut, cut, cut, String.toList_ofList, opening_opening]

/-! ### The last line with a text -/

/-- **The last line with a text of the assistant**: none of the lines behind it has one. -/
def SpeaksLast (line text : String) (lines : List String) : Prop :=
  ∃ older newer, lines = older ++ line :: newer ∧ assistantTextOf? line = some text ∧
    ∀ other ∈ newer, assistantTextOf? other = none

/-- The message of a status is cut from the text of the last line that has one. -/
theorem SpeaksLast.lastMessage_scan {line text : String} {lines : List String}
    (h : SpeaksLast line text lines) (maxChars : Nat) :
    (Signals.scan maxChars lines).lastMessage = some (cut maxChars text) := by
  obtain ⟨older, newer, rfl, said, silent⟩ := h
  have behind : newer.filterMap assistantTextOf? = [] := by
    rw [List.filterMap_eq_nil_iff]
    exact silent
  have last : (older ++ line :: newer).reverse.findSome? assistantTextOf? = some text := by
    rw [← List.getLast?_filterMap, List.filterMap_append, List.filterMap_cons_some said, behind,
      List.getLast?_concat]
  rw [Signals.scan_eq, last, Option.map_some]

/-- An entry shows the text of its line, cut to the limit of the feed. -/
theorem EntryReader.content_of_read? {reader : EntryReader} {line file text : String} {index : Nat}
    {entry : Entry} (read : reader.read? line file index = some entry)
    (said : assistantTextOf? line = some text) : entry.content = cut reader.maxChars text := by
  obtain ⟨record, isRecord, shown⟩ := read?_eq_some_iff.mp read
  obtain ⟨role, text', -, isText, -, -, rfl⟩ := entry?_eq_some_iff.mp shown
  rw [assistantTextOf?, isRecord, Option.bind_some, Record.assistantText?] at said
  split at said
  · rw [isText] at said
    cases said
    rfl
  · cases said

/-! ### The same text -/

/-- **The status shows what the feed shows, cut further.** Where the last line with a text of the
assistant makes an entry, the backward pass over the lines finds just the content of that entry, cut
to the limit of the status if that is the smaller one; and so does every status that is read from
these lines at the end of a log. -/
theorem Signals.lastMessage_scan_of_read? {reader : EntryReader} {line file text : String}
    {index : Nat} {entry : Entry} {lines : List String} {limit : Nat}
    (le : limit ≤ reader.maxChars) (last : SpeaksLast line text lines)
    (read : reader.read? line file index = some entry) :
    (Signals.scan limit lines).lastMessage = some (cut limit entry.content) ∧
      ∀ (disk : Disk) (options : StatusOptions) (now : Instant) (directory : Path)
        (log : SessionLog) (status : Status), options.maxChars = limit →
        SessionLog.latest? disk directory = some log →
        disk.logTail log.path options.tailLines = lines →
        Status.of disk options now directory = .ok status →
          status.lastMessage = some (cut limit entry.content) := by
  have found : (Signals.scan limit lines).lastMessage = some (cut limit entry.content) := by
    have ⟨_, _, _, said, _⟩ := last
    rw [last.lastMessage_scan, EntryReader.content_of_read? read said, cut_cut,
      Nat.min_eq_right le]
  refine ⟨found, ?_⟩
  rintro disk options now directory log status rfl latest rfl answer
  rw [Status.of_eq_of_latest_eq_some latest] at answer
  cases heard : Status.lastHeard disk options log with
  | error fault =>
      rw [heard] at answer
      cases answer
  | ok instant =>
      rw [heard] at answer
      cases answer
      exact found

/-- A text that the feed cuts behind its second word, and the status behind the first, although the
log ends with a line of the user. -/
theorem Signals.lastMessage_scan_of_read?_two_words :
    let line := "\x7b\"type\":\"message\",\"message\":\x7b\"role\":\"assistant\"," ++
      "\"content\":\"hello world again\"\x7d\x7d"
    let reply := "\x7b\"type\":\"message\",\"message\":\x7b\"role\":\"user\"," ++
      "\"content\":\"Thank you\"\x7d\x7d"
    let scout : Agent := ⟨"scout", "Scout", "#888", .ofString "/scout"⟩
    let reader : EntryReader := ⟨scout, 13, .ofMinutes 0⟩
    let lines := [line, line, reply]
    let disk := Disk.ofFile (Utf8.encode "a.jsonl".toList)
      (Utf8.encode (List.intercalate ['\n'] (lines.map String.toList))) (.ofInstant (.ofMinutes 0))
    let options : StatusOptions := { maxChars := 7 }
    ∃ entry status, (options.maxChars ≤ reader.maxChars ∧
        SpeaksLast line "hello world again" lines ∧
        reader.read? line "a.jsonl" 1 = some entry ∧
        Status.of disk options (.ofMinutes 0) scout.sessionDir = .ok status) ∧
      entry.content = "hello world…" ∧
      (Signals.scan 7 lines).lastMessage = some (cut 7 entry.content) ∧
      status.lastMessage = some (cut 7 entry.content) ∧ cut 7 entry.content = "hello…" := by
  intro line reply scout reader lines disk options
  have shown : (reader.read? line "a.jsonl" 1).map (·.content) = some "hello world…" := by
    decide +kernel
  obtain ⟨entry, read, content⟩ := Option.map_eq_some_iff.mp shown
  have last : SpeaksLast line "hello world again" lines := by
    refine ⟨[line], [reply], rfl, by decide +kernel, ?_⟩
    intro other mem
    obtain rfl := List.mem_singleton.mp mem
    decide +kernel
  let log : SessionLog := ⟨scout.sessionDir.child (Utf8.encode "a.jsonl".toList),
    Utf8.encode "a.jsonl".toList, .ofInstant (.ofMinutes 0)⟩
  have latest : SessionLog.latest? disk scout.sessionDir = some log := by decide +kernel
  have written : disk.logLines log.path = lines :=
    linesOfBytes_encode_intercalate (by decide +kernel)
  have tail : disk.logTail log.path options.tailLines = lines := by
    rw [Disk.logTail, written]
    rfl
  have calendar : log.modified.toInstant? = some (.ofMinutes 0) := by decide
  obtain ⟨status, answer, -⟩ : ∃ status,
      Status.of disk options (.ofMinutes 0) scout.sessionDir = .ok status ∧
        status.IsShownBy disk options (.ofMinutes 0) scout.sessionDir :=
    Status.of_eq_ok_of_latest latest calendar
  have le : options.maxChars ≤ reader.maxChars := by decide
  obtain ⟨inScan, inStatus⟩ := lastMessage_scan_of_read? le last read
  refine ⟨entry, status, ⟨le, last, read, answer⟩, content, inScan, ?_, ?_⟩
  · exact inStatus disk options (.ofMinutes 0) _ log status rfl latest tail answer
  · rw [content]
    decide +kernel

end FleetWatch
