import FleetWatch.Http.Server
import FleetWatch.Proofs.Notes.OvernightLog
import FleetWatch.Proofs.Poll.AnyOrder
import FleetWatch.Proofs.Session.LastHeard
import FleetWatch.Proofs.Session.LivenessDecay

/-!
# Questions without an answer

Two questions turn the time of a file into an instant. The digest of the notes does so with the time
of the overnight log, and the status of a directory with the time of its latest log, but only if the
end of that log tells no instant itself. Where such a time lies in a year that instants do not have,
the question has no answer; nothing else on a disk can keep the two from being answered. Of all
requests only the one for the digest can fail, and its answer says what has failed.

## Main Definitions

* `SessionLog.toldInstant?` — the instant that the end of a log tells
-/

namespace FleetWatch

open Text

/-- **The instant that the end of a log tells**: that of the last timestamp in its last lines, if it
can be read. -/
def SessionLog.toldInstant? (disk : Disk) (options : StatusOptions) (log : SessionLog) :
    Option Instant :=
  ((disk.logTail log.path options.tailLines).filterMap timestampOf?).getLast?.bind Json.instant?

/-- The time of a file is an instant just in the years of the calendar. -/
theorem exists_modifiedInstant_iff {time : FileTime} :
    (∃ instant, modifiedInstant time = .ok instant) ↔ time.InCalendar := by
  rw [← FileTime.isSome_toInstant?_iff, modifiedInstant]
  cases time.toInstant? with
  | none =>
      refine iff_of_false ?_ Bool.false_ne_true
      rintro ⟨_, ⟨⟩⟩
  | some instant => exact iff_of_true ⟨instant, rfl⟩ rfl

/-! ### Statuses -/

namespace Status

variable {disk : Disk} {options : StatusOptions} {directory : Path} {log : SessionLog}

/-- An agent was last heard of at the instant that the end of its log tells, or else when the log
was modified. -/
theorem lastHeard_eq (disk : Disk) (options : StatusOptions) (log : SessionLog) :
    lastHeard disk options log =
      (log.toldInstant? disk options).elim (modifiedInstant log.modified) .ok := by
  have told : (Signals.scan options.maxChars
      (disk.logTail log.path options.tailLines)).lastInstant = log.toldInstant? disk options := by
    rw [Signals.scan_eq, ← List.getLast?_filterMap, SessionLog.toldInstant?]
  rw [lastHeard, told]
  cases log.toldInstant? disk options <;> rfl

/-- A log says when its agent was last heard of, if its own end or the calendar allows it. -/
theorem exists_lastHeard_iff :
    (∃ last, lastHeard disk options log = .ok last) ↔
      (log.toldInstant? disk options = none → log.modified.InCalendar) := by
  rw [lastHeard_eq]
  cases log.toldInstant? disk options with
  | none => exact exists_modifiedInstant_iff.trans (imp_iff_right rfl).symm
  | some instant => exact iff_of_true ⟨instant, rfl⟩ fun none => nomatch none

/-- **When a directory has a status**: its latest log tells an instant at its end, or was modified
in the years of the calendar. -/
theorem exists_of_eq_ok_iff (disk : Disk) (options : StatusOptions) (now : Instant)
    (directory : Path) :
    (∃ status, of disk options now directory = .ok status) ↔
      ∀ log : SessionLog, log.IsLatest disk directory → log.toldInstant? disk options = none →
        log.modified.InCalendar := by
  cases latest : SessionLog.latest? disk directory with
  | none =>
      refine iff_of_true ⟨_, of_eq_of_latest_eq_none latest⟩ fun log isLatest => ?_
      exact absurd isLatest.inDirectory (SessionLog.latest?_eq_none_iff.mp latest log)
  | some log =>
      have isLatest := SessionLog.latest?_eq_some_iff.mp latest
      rw [of_eq_of_latest_eq_some latest]
      constructor
      · rintro ⟨status, found⟩ other isLatest'
        rw [isLatest'.unique isLatest, ← exists_lastHeard_iff]
        cases heard : lastHeard disk options log with
        | error fault =>
            rw [heard] at found
            cases found
        | ok last => exact ⟨last, rfl⟩
      · intro inCalendar
        obtain ⟨last, heard⟩ := exists_lastHeard_iff.mpr (inCalendar log isLatest)
        rw [heard]
        exact ⟨_, rfl⟩

end Status

/-! ### Digests -/

/-- **When there is a digest**: the overnight log, if there is one, was modified in the years of the
calendar. -/
theorem MemoryDigest.exists_of_eq_ok_iff (disk : Disk) (sources : MemorySources) (today : Date) :
    (∃ digest, of disk sources today = .ok digest) ↔
      ∀ state, disk.state? sources.overnightLog = some state → state.modified.InCalendar := by
  cases found : disk.state? sources.overnightLog with
  | none =>
      obtain ⟨digest, read, -⟩ := of_missing today found
      exact iff_of_true ⟨digest, read⟩ fun state there => nomatch there
  | some state =>
      have only : (∀ other, some state = some other → other.modified.InCalendar) ↔
          state.modified.InCalendar :=
        ⟨fun all => all state rfl, fun inCalendar other same => Option.some.inj same ▸ inCalendar⟩
      rw [only, ← FileTime.isSome_toInstant?_iff]
      cases instant : state.modified.toInstant? with
      | none =>
          rw [of_toInstant?_eq_none today found instant]
          refine iff_of_false ?_ Bool.false_ne_true
          rintro ⟨_, ⟨⟩⟩
      | some modified =>
          obtain ⟨digest, read, -⟩ := of_toInstant? today found instant
          exact iff_of_true ⟨digest, read⟩ rfl

/-- There is no digest just if the overnight log was modified beyond the years of the calendar. -/
theorem MemoryDigest.eq_error_iff (disk : Disk) (sources : MemorySources) (today : Date)
    (fault : PollFault) :
    of disk sources today = .error fault ↔
      ∃ state, disk.state? sources.overnightLog = some state ∧ ¬ state.modified.InCalendar := by
  have answers := exists_of_eq_ok_iff disk sources today
  cases read : of disk sources today with
  | ok digest =>
      refine iff_of_false (by rintro ⟨⟩) ?_
      rintro ⟨state, found, outside⟩
      exact outside (answers.mp ⟨digest, read⟩ state found)
  | error fault' =>
      cases fault
      cases fault'
      refine iff_of_true rfl ?_
      by_contra inside
      push Not at inside
      obtain ⟨digest, read'⟩ := answers.mpr inside
      cases read.symm.trans read'

/-! ### Requests that fail -/

namespace Server

variable {server : Server} {moment : Moment} {route : Route} {text : String}

/-- Only the question for the digest can be without an answer, and this is what is said then. -/
theorem answer_eq_error_iff :
    server.answer moment route = .error text ↔
      route = .memory ∧
      (∃ state, moment.disk.state? server.dashboard.memorySources.overnightLog = some state ∧
        ¬ state.modified.InCalendar) ∧
      text = complaint moment "Failed to read memory" .timeOutOfRange := by
  cases route with
  | activity | agents | snapshot | health =>
      refine iff_of_false (by rintro ⟨⟩) ?_
      rintro ⟨⟨⟩, -⟩
  | memory =>
      have noDigest := MemoryDigest.eq_error_iff moment.disk server.dashboard.memorySources
        moment.today .timeOutOfRange
      rw [← noDigest, answer, Dashboard.memory]
      cases MemoryDigest.of moment.disk server.dashboard.memorySources moment.today with
      | ok digest =>
          refine iff_of_false (by rintro ⟨⟩) ?_
          rintro ⟨-, ⟨⟩, -⟩
      | error fault =>
          cases fault
          constructor
          · rintro ⟨⟩
            exact ⟨rfl, rfl, rfl⟩
          · rintro ⟨-, -, rfl⟩
            rfl

/-- **A request fails just if it asks for the digest and there is none.** The answer names what has
failed, and reports of the task that has died of it. -/
theorem serve_eq_failure_iff :
    server.serve moment route = failure text ↔
      route = .memory ∧
      (∃ state, moment.disk.state? server.dashboard.memorySources.overnightLog = some state ∧
        ¬ state.modified.InCalendar) ∧
      text = complaint moment "Failed to read memory" .timeOutOfRange := by
  rw [← answer_eq_error_iff, serve]
  cases server.answer moment route with
  | ok fields => simp [failure]
  | error text' => simp [failure]

end Server

/-! ### Both questions -/

/-- **Only a time beyond the calendar keeps a question from being answered.** A directory has a
status unless the end of its latest log tells no instant and that log was modified beyond the years
of the calendar. There is a digest unless the overnight log was modified beyond them. These years
are those from -262143 to 262142, which is told here in nanoseconds. -/
theorem Disk.answers_iff_inCalendar (disk : Disk) (options : StatusOptions) (now : Instant)
    (directory : Path) (sources : MemorySources) (today : Date) :
    ((∃ status, Status.of disk options now directory = .ok status) ↔
      ∀ log : SessionLog, log.IsLatest disk directory → log.toldInstant? disk options = none →
        log.modified.InCalendar) ∧
    ((∃ digest, MemoryDigest.of disk sources today = .ok digest) ↔
      ∀ state, disk.state? sources.overnightLog = some state → state.modified.InCalendar) ∧
    ∀ time : FileTime, time.InCalendar ↔
      -8334601228800 * 1000000000 ≤ time.nanos ∧ time.nanos < 8210266876800 * 1000000000 :=
  ⟨Status.exists_of_eq_ok_iff disk options now directory,
    MemoryDigest.exists_of_eq_ok_iff disk sources today, fun _ => FileTime.inCalendar_iff_nanos⟩

/-- **A file can be modified beyond the calendar**: here the log of an agent and the overnight log,
ten trillion seconds after the start of 1970. Neither question has an answer. So the agent is shown
as one of which nothing is known, although its log has a message, and a request for the digest
fails. -/
theorem Disk.not_answers_beyond_calendar :
    let line := "\x7b\"type\":\"message\",\"message\":" ++
      "\x7b\"role\":\"assistant\",\"content\":\"All done.\"\x7d\x7d"
    let time : FileTime := ⟨10000000000000 * 1000000000, by decide, by decide⟩
    let disk := Disk.ofFile (Utf8.encode "a.jsonl".toList) (Utf8.encode line.toList) time
    let scout : Agent := ⟨"scout", "Scout", "#888", .ofString "/scout"⟩
    let dashboard := Dashboard.watching [scout]
    let moment := Moment.ofDisk disk (.ofMinutes 1)
    ((Signals.scan 200 (disk.logLines (.ofString "/scout/a.jsonl"))).lastMessage =
        some "All done." ∧
      ¬ (∃ status,
        Status.of disk dashboard.statusOptions moment.now scout.sessionDir = .ok status) ∧
      dashboard.statuses moment = [⟨scout, .offline⟩]) ∧
    (¬ (∃ digest, MemoryDigest.of disk dashboard.memorySources moment.today = .ok digest) ∧
      ((Server.guarded dashboard none).respond moment ⟨"HEAD", "/api/memory", []⟩).status =
        500) := by
  intro line time disk scout dashboard moment
  have status : Status.of disk dashboard.statusOptions moment.now scout.sessionDir =
      .error .timeOutOfRange := by decide +kernel
  have digest : MemoryDigest.of disk dashboard.memorySources moment.today =
      .error .timeOutOfRange := by decide +kernel
  refine ⟨⟨by decide +kernel, ?_, by decide +kernel⟩, ?_, by decide +kernel⟩
  · rintro ⟨_, found⟩
    rw [status] at found
    cases found
  · rintro ⟨_, found⟩
    rw [digest] at found
    cases found

end FleetWatch
