import FleetWatch.Proofs.Session.Selection
import FleetWatch.Session.Liveness

/-!
# When an agent was last heard of

What the status of a session directory says, in terms of the lines at the end of its latest log.
The timestamp and the message are looked for in one backward pass, which stops as soon as it has
both; two backward searches of their own find the same.

## Main Definitions

* `timestampOf?`, `assistantTextOf?` — the timestamp and the assistant's text of a line
* `Signals.found` — what two searches find, beyond what is known already
* `Status.IsShownBy` — a status that a session directory shows

## Design Notes

A timestamp that cannot be read is a third state of the pass beside "none yet" and "read": it ends
the search for a timestamp, but leaves no instant. `Signals.found` keeps the three apart, as the
pass does, so that the induction over the lines needs no side condition on the signals.
-/

namespace FleetWatch

open Text

/-! ### What a line shows -/

/-- A timestamp that counts as present: not null, and not the empty text. -/
def Json.isTimestamp : Json → Bool
  | .null => false
  | .text value => value != ""
  | _ => true

/-- The timestamp of a line that is a JSON object, if it counts as present. -/
def timestampOf? (line : String) : Option Json :=
  match Json.read? line with
  | some (.object fields) => (Json.lookup "timestamp" fields).filter Json.isTimestamp
  | _ => none

/-- The instant that a timestamp stands for: a text is read, and a number counts milliseconds. -/
def Json.instant? : Json → Option Instant
  | .text value => Instant.read? value
  | .number value => Record.instantOfMillis? value
  | _ => none

/-- The text of a line that is a message of the assistant. -/
def assistantTextOf? (line : String) : Option String :=
  (Record.read? line).bind Record.assistantText?

/-- A text cut to a number of characters. -/
def cut (maxChars : Nat) (text : String) : String :=
  String.ofList (opening maxChars text.toList)

/-- A line that holds no record carries no timestamp. -/
theorem timestampOf?_of_read?_eq_none {line : String} (h : Record.read? line = none) :
    timestampOf? line = none := by
  unfold timestampOf?
  split
  · next fields document =>
    rw [Record.read?, document] at h
    cases h
  · rfl

/-- A record carries the timestamp of its line. -/
theorem timestampOf?_of_read?_eq_some {line : String} {record : Record}
    (h : Record.read? line = some record) :
    timestampOf? line = if record.hasTimestamp then record.timestamp else none := by
  rw [Record.read?, Option.bind_eq_bind, Option.bind_eq_some_iff] at h
  obtain ⟨document, read, ofJson⟩ := h
  rw [timestampOf?, read]
  cases document with
  | object fields =>
      cases ofJson
      cases stamp : Json.lookup "timestamp" fields with
      | none => simp [Record.hasTimestamp, stamp]
      | some value =>
          cases value <;>
            simp [Record.hasTimestamp, stamp, present, Json.isTimestamp, Option.filter]
  | _ => cases ofJson

/-- A timestamp that counts as present is there. -/
theorem Record.exists_of_hasTimestamp {record : Record} (h : record.hasTimestamp = true) :
    ∃ value, record.timestamp = some value := by
  unfold Record.hasTimestamp at h
  split at h
  · cases h
  · next text found => exact ⟨_, found⟩
  · next value _ found => exact ⟨value, found⟩

/-- The instant of a record is that of its timestamp. -/
theorem instant?_of_timestamp {record : Record} {value : Json}
    (h : record.timestamp = some value) : record.instant? = value.instant? := by
  rw [Record.instant?, h]
  cases value <;> rfl

/-! ### One pass and two searches -/

/-- What two searches find in lines, beyond signals that are there already. The lines come in the
order of the searches. -/
def Signals.found (maxChars : Nat) (signals : Signals) (lines : List String) : Signals :=
  let timestamp := lines.findSome? timestampOf?
  ⟨signals.timestampSeen || timestamp.isSome,
    if signals.timestampSeen then signals.lastInstant
    else (timestamp.map Json.instant?).getD signals.lastInstant,
    signals.lastMessage.or ((lines.findSome? assistantTextOf?).map (cut maxChars))⟩

/-- Without lines nothing more is found. -/
theorem Signals.found_nil (maxChars : Nat) (signals : Signals) :
    Signals.found maxChars signals [] = signals := by
  simp [Signals.found]

/-- When nothing is left to be found, nothing more is found. -/
theorem Signals.found_of_complete {maxChars : Nat} {signals : Signals} (lines : List String)
    (h : (signals.timestampSeen && signals.lastMessage.isSome) = true) :
    Signals.found maxChars signals lines = signals := by
  obtain ⟨seen, instant, message⟩ := signals
  obtain ⟨rfl, some⟩ := Bool.and_eq_true_iff.mp h
  obtain ⟨text, rfl⟩ := Option.isSome_iff_exists.mp some
  simp [Signals.found]

/-- A line that holds no record adds nothing. -/
theorem Signals.found_cons_of_none {maxChars : Nat} {signals : Signals} {line : String}
    (lines : List String) (h : Record.read? line = .none) :
    Signals.found maxChars signals (line :: lines) = Signals.found maxChars signals lines := by
  have text : assistantTextOf? line = .none := by rw [assistantTextOf?, h, Option.bind_none]
  simp [Signals.found, timestampOf?_of_read?_eq_none h, text]

/-- **One step of the pass**: a record adds what either search finds in it. -/
theorem Signals.found_see {maxChars : Nat} {signals : Signals} {line : String} {record : Record}
    (lines : List String) (h : Record.read? line = some record) :
    Signals.found maxChars (signals.see maxChars record) lines =
      Signals.found maxChars signals (line :: lines) := by
  obtain ⟨seen, instant, message⟩ := signals
  have text : assistantTextOf? line = record.assistantText? := by
    rw [assistantTextOf?, h, Option.bind_some]
  have stamp := timestampOf?_of_read?_eq_some h
  cases hasTimestamp : record.hasTimestamp with
  | false =>
      -- Only the message can be new.
      rw [hasTimestamp] at stamp
      simp only [Bool.false_eq_true, if_false] at stamp
      cases message <;> cases spoken : record.assistantText? <;>
        simp [Signals.found, Signals.see, text, stamp, hasTimestamp, spoken, cut]
  | true =>
      -- The first timestamp decides, whether or not it can be read.
      obtain ⟨value, carried⟩ := record.exists_of_hasTimestamp hasTimestamp
      rw [hasTimestamp, if_pos rfl, carried] at stamp
      have instant := instant?_of_timestamp carried
      cases seen <;> cases message <;> cases spoken : record.assistantText? <;>
        simp [Signals.found, Signals.see, text, stamp, hasTimestamp, spoken, instant, cut]

/-- **The backward pass finds what two searches find**, from any signals on. -/
theorem Signals.run_eq_found (maxChars : Nat) (signals : Signals) (lines : List String) :
    Signals.run maxChars signals lines = Signals.found maxChars signals lines := by
  induction lines generalizing signals with
  | nil => rw [Signals.run, Signals.found_nil]
  | cons line lines ih =>
      rw [Signals.run]
      split
      · next complete => rw [Signals.found_of_complete _ complete]
      · split
        · next read => rw [ih, Signals.found_cons_of_none lines read]
        · next record read => rw [ih, Signals.found_see lines read]

/-- **The backward pass is two backward searches**: one for a timestamp, whether or not it can be
read, and one for what the assistant said. -/
theorem Signals.scan_eq (maxChars : Nat) (lines : List String) :
    Signals.scan maxChars lines =
      ⟨(lines.reverse.findSome? timestampOf?).isSome,
        (lines.reverse.findSome? timestampOf?).bind Json.instant?,
        (lines.reverse.findSome? assistantTextOf?).map (cut maxChars)⟩ := by
  rw [Signals.scan, Signals.run_eq_found, Signals.found]
  cases lines.reverse.findSome? timestampOf? <;> simp [Signals.none]

/-! ### The status of a directory -/

/-- The tail of a log is its last lines. -/
theorem exists_append_logTail (disk : Disk) (path : Path) (n : Nat) :
    ∃ older, disk.logLines path = older ++ disk.logTail path n ∧
      (disk.logTail path n).length = min n (disk.logLines path).length := by
  refine ⟨(disk.logLines path).take ((disk.logLines path).length - n), ?_, ?_⟩
  · exact (List.take_append_drop _ _).symm
  · simp only [Disk.logTail, List.length_drop]
    omega

/-- **A status that a session directory shows.** Without a log it is that of an agent of which
nothing is known. Otherwise it is read from the last lines of the latest log: the agent was last
heard of at the last timestamp that is present, or when the log was modified if that timestamp
cannot be read or there is none; the message is the last text of the assistant, cut short. -/
def Status.IsShownBy (disk : Disk) (options : StatusOptions) (now : Instant) (directory : Path)
    (status : Status) : Prop :=
  (∀ log : SessionLog, ¬ log.InDirectory disk directory) ∧ status = .offline ∨
    ∃ (log : SessionLog) (modified : Instant) (older tail : List String),
      log.IsLatest disk directory ∧
      log.modified.toInstant? = some modified ∧
      disk.logLines log.path = older ++ tail ∧
      tail.length = min options.tailLines (disk.logLines log.path).length ∧
      status.sessionFile = some log.fileName ∧
      status.lastActiveAt =
        some (((tail.filterMap timestampOf?).getLast?.bind Json.instant?).getD modified) ∧
      status.lastMessage = (tail.filterMap assistantTextOf?).getLast?.map (cut options.maxChars) ∧
      status.liveness = Liveness.classify options now status.lastActiveAt

/-- The status read from a log whose modification time lies in the calendar. -/
theorem Status.of_eq_ok_of_latest {disk : Disk} {options : StatusOptions} {now : Instant}
    {directory : Path} {log : SessionLog} {modified : Instant}
    (latest : SessionLog.latest? disk directory = some log)
    (calendar : log.modified.toInstant? = some modified) :
    ∃ status, Status.of disk options now directory = .ok status ∧
      status.IsShownBy disk options now directory := by
  obtain ⟨older, lines, length⟩ := exists_append_logTail disk log.path options.tailLines
  have signals := Signals.scan_eq options.maxChars (disk.logTail log.path options.tailLines)
  rw [← List.getLast?_filterMap, ← List.getLast?_filterMap] at signals
  rw [Status.of, latest]
  simp only [signals, modifiedInstant, calendar]
  refine ⟨⟨_, some ((((disk.logTail log.path options.tailLines).filterMap
    timestampOf?).getLast?.bind Json.instant?).getD modified), _, _⟩, ?_, Or.inr ⟨log, modified,
      older, disk.logTail log.path options.tailLines, SessionLog.latest?_eq_some_iff.mp latest,
      calendar, lines, length, rfl, rfl, rfl, rfl⟩⟩
  cases ((disk.logTail log.path options.tailLines).filterMap timestampOf?).getLast?.bind
    Json.instant? <;> rfl

/-- **The status of a directory is the one that the directory shows**, and its single backward pass
over the last lines finds what two separate searches find, where the modification times of the
logs lie in the calendar. -/
theorem Status.of_isShownBy (disk : Disk) (options : StatusOptions) (now : Instant)
    (directory : Path)
    (inCalendar : ∀ log : SessionLog, log.InDirectory disk directory →
      log.modified.toInstant?.isSome) :
    (∃ status, Status.of disk options now directory = .ok status ∧
      status.IsShownBy disk options now directory) ∧
    ∀ lines : List String, Signals.scan options.maxChars lines =
      ⟨(lines.reverse.findSome? timestampOf?).isSome,
        (lines.reverse.findSome? timestampOf?).bind Json.instant?,
        (lines.reverse.findSome? assistantTextOf?).map (cut options.maxChars)⟩ := by
  refine ⟨?_, Signals.scan_eq options.maxChars⟩
  cases latest : SessionLog.latest? disk directory with
  | none =>
      refine ⟨.offline, ?_, Or.inl ⟨SessionLog.latest?_eq_none_iff.mp latest, rfl⟩⟩
      rw [Status.of, latest]
  | some log =>
      have inDirectory := (SessionLog.latest?_eq_some_iff.mp latest).inDirectory
      obtain ⟨modified, calendar⟩ := Option.isSome_iff_exists.mp (inCalendar log inDirectory)
      exact Status.of_eq_ok_of_latest latest calendar

/-- A directory with two logs. The end of the later one is a line cut off in the middle; in front of
it stand a timestamp without a message and a message without a timestamp, and further up a line with
both that is not looked at any more. -/
theorem Status.of_isShownBy_two_logs :
    let directory := Path.ofString "/logs"
    let log (name : String) (minutes : Fin 60) : SessionLog :=
      ⟨directory.child (Utf8.encode name.toList), Utf8.encode name.toList,
        .ofInstant (.ofMinutes minutes)⟩
    let earlier := log "a.jsonl" 0
    let later := log "b.jsonl" 1
    let said (members text : String) := Utf8.encode ("\x7b\"type\":\"message\"" ++ members ++
      ",\"message\":\x7b\"role\":\"assistant\",\"content\":\"" ++ text ++ "\"\x7d\x7d").toList
    let lines (path : Path) :=
      if path = later.path then
        [said ",\"timestamp\":240000" "Too far up", said "" "All done.",
          Utf8.encode "\x7b\"timestamp\":120000\x7d".toList, Utf8.encode "\x7b\"type\":".toList]
      else [said ",\"timestamp\":300000" "Elsewhere"]
    let disk : Disk :=
      { state? := fun path =>
          some ⟨.regular, if path = later.path then later.modified else earlier.modified⟩
        read := fun path => .ok (List.intercalate [0x0A] (lines path))
        list? := fun _ => some (.ofNames [earlier.name, later.name]) }
    let options : StatusOptions := { tailLines := 3 }
    let status : Status := ⟨.idle, some (.ofMinutes 2), some "All done.", some "b.jsonl"⟩
    (∀ log : SessionLog, log.InDirectory disk directory → log.modified.toInstant?.isSome) ∧
      Status.of disk options (.ofMinutes 10) directory = .ok status ∧
      status.IsShownBy disk options (.ofMinutes 10) directory := by
  intro directory log earlier later said lines disk options status
  have inCalendar : ∀ log : SessionLog, log.InDirectory disk directory →
      log.modified.toInstant?.isSome := by
    intro log inDirectory
    have regular : some (FileState.mk .regular
        (if log.path = later.path then later.modified else earlier.modified)) =
        some ⟨.regular, log.modified⟩ := inDirectory.regular
    rw [← (FileState.mk.inj (Option.some.inj regular)).2]
    split <;> decide
  have listed : SessionLog.all disk directory = [earlier, later] := by
    have found : (Listing.ofNames [earlier.name, later.name]).names.filterMap
        (SessionLog.ofName? disk directory) = [earlier, later] := by
      decide +kernel
    show List.mergeSort _ _ = _
    rw [found]
    exact List.mergeSort_of_pairwise (by decide +kernel)
  have latest : SessionLog.latest? disk directory = some later := by
    rw [SessionLog.latest?, listed]
    decide +kernel
  have answer : Status.of disk options (.ofMinutes 10) directory = .ok status := by
    rw [Status.of, latest]
    decide +kernel
  obtain ⟨shown, read, isShownBy⟩ :=
    (Status.of_isShownBy disk options (.ofMinutes 10) directory inCalendar).1
  rw [answer] at read
  cases read
  exact ⟨inCalendar, answer, isShownBy⟩

end FleetWatch
