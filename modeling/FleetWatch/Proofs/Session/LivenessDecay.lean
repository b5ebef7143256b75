import FleetWatch.Proofs.Session.Selection
import FleetWatch.Session.Liveness

/-!
# The liveness of a quiet directory

What becomes of a status while nothing is written. When the agent was last heard of, what it said
and the log that says so are read from the directory, and the time of the poll has no part in them.
Its liveness is judged from the time that has passed, which only grows, so an agent that is not
heard of is at work no more than before.

## Main Definitions

* `Liveness.rank` — how alive an agent is
* `Status.judgedAt` — a status as it is judged at another time
* `Status.DecaysTo` — a status and what can become of it while nothing is written

## Design Notes

Leap seconds are left out. One counts as a second of its own, and only when it belongs to the
instant with the smaller time of day; so from one instant to the next, the time that has passed
since a third can become less by up to a second.
-/

namespace FleetWatch

/-! ### The time that has passed -/

namespace Instant

/-- Outside leap seconds, the time that has passed is the difference. -/
theorem since_eq_of_noLeap {later earlier : Instant} (h : later.inLeapSecond = false)
    (h' : earlier.inLeapSecond = false) :
    later.since earlier =
      (later.seconds - earlier.seconds) * 1000000000 + later.nanos - earlier.nanos := by
  simp [since, h, h']

/-- **Outside leap seconds, the time that has passed only grows.** -/
theorem since_le_since {earlier later last : Instant} (le : earlier.le later = true)
    (noLeap : earlier.inLeapSecond = false) (noLeap' : later.inLeapSecond = false)
    (noLeapLast : last.inLeapSecond = false) : earlier.since last ≤ later.since last := by
  rw [since_eq_of_noLeap noLeap noLeapLast, since_eq_of_noLeap noLeap' noLeapLast]
  rw [le_iff] at le
  rw [inLeapSecond, decide_eq_false_iff_not] at noLeap
  omega

/-- A leap second begins, and less time has passed since the end of the day before. -/
example :
    let earlier : Instant := ⟨59, 999999999, by decide, by decide, by decide, by decide⟩
    let later : Instant := ⟨59, 1000000000, by decide, by decide, by decide, by decide⟩
    let last : Instant := ⟨-1, 0, by decide, by decide, by decide, by decide⟩
    earlier.le later = true ∧ later.since last < earlier.since last := by
  decide

end Instant

/-! ### Judging later -/

namespace Liveness

/-- How alive an agent is. -/
def rank : Liveness → Nat
  | .active => 2
  | .idle => 1
  | .offline => 0

/-- **The more time has passed, the less alive an agent is**, for thresholds of either sign and in
either order. -/
theorem rank_classify_le {options : StatusOptions} {earlier later last : Instant}
    (le : earlier.since last ≤ later.since last) :
    (classify options later (some last)).rank ≤ (classify options earlier (some last)).rank := by
  simp only [classify]
  by_cases active : later.since last < options.activeWithin
  · have activeBefore : earlier.since last < options.activeWithin := lt_of_le_of_lt le active
    rw [if_pos active, if_pos activeBefore]
  · by_cases idle : later.since last < options.idleWithin
    · -- Before, the agent was idle at least.
      have idleBefore : earlier.since last < options.idleWithin := lt_of_le_of_lt le idle
      rw [if_neg active, if_pos idle, if_pos idleBefore]
      split <;> simp [rank]
    · rw [if_neg active, if_neg idle]
      exact Nat.zero_le _

end Liveness

namespace Status

/-- The same status judged at another time. -/
def judgedAt (options : StatusOptions) (now : Instant) (status : Status) : Status :=
  { status with liveness := Liveness.classify options now status.lastActiveAt }

variable {disk : Disk} {options : StatusOptions} {directory : Path}

/-- When the latest log says that the agent was last heard of. -/
def lastHeard (disk : Disk) (options : StatusOptions) (log : SessionLog) :
    Except PollFault Instant :=
  match (Signals.scan options.maxChars (disk.logTail log.path options.tailLines)).lastInstant with
  | some instant => .ok instant
  | none => modifiedInstant log.modified

theorem of_eq_of_latest_eq_none {now : Instant}
    (latest : SessionLog.latest? disk directory = none) :
    of disk options now directory = .ok .offline := by
  rw [of, latest]

theorem of_eq_of_latest_eq_some {now : Instant} {log : SessionLog}
    (latest : SessionLog.latest? disk directory = some log) :
    of disk options now directory = (lastHeard disk options log).map fun last =>
      { liveness := Liveness.classify options now (some last)
        lastActiveAt := some last
        lastMessage := (Signals.scan options.maxChars
          (disk.logTail log.path options.tailLines)).lastMessage
        sessionFile := some log.fileName } := by
  rw [of, latest, lastHeard]
  simp only
  cases (Signals.scan options.maxChars (disk.logTail log.path options.tailLines)).lastInstant with
  | some instant => rfl
  | none => cases modifiedInstant log.modified <;> rfl

/-- **The time of a poll is only there to judge by.** -/
theorem of_eq_map_judgedAt (disk : Disk) (options : StatusOptions) (earlier later : Instant)
    (directory : Path) :
    of disk options later directory =
      (of disk options earlier directory).map (judgedAt options later) := by
  cases latest : SessionLog.latest? disk directory with
  | none =>
      rw [of_eq_of_latest_eq_none latest, of_eq_of_latest_eq_none latest]
      rfl
  | some log =>
      rw [of_eq_of_latest_eq_some latest, of_eq_of_latest_eq_some latest]
      cases lastHeard disk options log <;> rfl

/-- The liveness of an agent is judged by when it was last heard of. -/
theorem liveness_of_eq_ok {now : Instant} {status : Status}
    (h : of disk options now directory = .ok status) :
    status.liveness = Liveness.classify options now status.lastActiveAt := by
  have again := of_eq_map_judgedAt disk options now now directory
  rw [h] at again
  exact congrArg liveness (Except.ok.inj again)

/-- An agent was never heard of just when it has no log. -/
theorem lastActiveAt_eq_none_iff {now : Instant} {status : Status}
    (h : of disk options now directory = .ok status) :
    status.lastActiveAt = none ↔ ∀ log : SessionLog, ¬ log.InDirectory disk directory := by
  rw [← SessionLog.latest?_eq_none_iff]
  cases latest : SessionLog.latest? disk directory with
  | none =>
      rw [of_eq_of_latest_eq_none latest] at h
      cases h
      exact ⟨fun _ => rfl, fun _ => rfl⟩
  | some log =>
      rw [of_eq_of_latest_eq_some latest] at h
      cases heard : lastHeard disk options log with
      | error fault =>
          rw [heard] at h
          cases h
      | ok last =>
          rw [heard] at h
          cases h
          simp

/-- A directory has a status, if its latest log was modified at a time in the calendar. -/
theorem exists_of_eq_ok (now : Instant)
    (calendar : ∀ log : SessionLog, log.IsLatest disk directory →
      log.modified.toInstant?.isSome) :
    ∃ status, of disk options now directory = .ok status := by
  cases latest : SessionLog.latest? disk directory with
  | none => exact ⟨.offline, of_eq_of_latest_eq_none latest⟩
  | some log =>
      obtain ⟨modified, inCalendar⟩ := Option.isSome_iff_exists.mp
        (calendar log (SessionLog.latest?_eq_some_iff.mp latest))
      rw [of_eq_of_latest_eq_some latest, lastHeard, modifiedInstant, inCalendar]
      split <;> exact ⟨_, rfl⟩

/-- **What can become of a status while nothing is written**: it tells the same, and the agent is no
more alive than before. -/
structure DecaysTo (before after : Status) : Prop where
  lastActiveAt_eq : after.lastActiveAt = before.lastActiveAt
  lastMessage_eq : after.lastMessage = before.lastMessage
  sessionFile_eq : after.sessionFile = before.sessionFile
  rank_le : (∀ last, before.lastActiveAt = some last → last.inLeapSecond = false) →
    after.liveness.rank ≤ before.liveness.rank

/-- A status decays to what it is judged later. -/
theorem decaysTo_judgedAt {earlier later : Instant} {before : Status}
    (le : earlier.le later = true) (noLeap : earlier.inLeapSecond = false)
    (noLeap' : later.inLeapSecond = false)
    (judged : before.liveness = Liveness.classify options earlier before.lastActiveAt) :
    before.DecaysTo (before.judgedAt options later) where
  lastActiveAt_eq := rfl
  lastMessage_eq := rfl
  sessionFile_eq := rfl
  rank_le := by
    intro noLeapLast
    rw [judged, judgedAt]
    cases heard : before.lastActiveAt with
    | none => exact le_rfl
    | some last =>
        exact Liveness.rank_classify_le
          (Instant.since_le_since le noLeap noLeap' (noLeapLast last heard))

/-- **Without new signals liveness only decays.** Of two polls of one directory, the later one finds
the same instant, message and log, and the agent no more alive; where the one has no answer, neither
has the other. Directories that agree on when an agent was last heard of agree on its liveness,
whatever else they hold, and it was never heard of just when there is no log. -/
theorem of_decaysTo {earlier later : Instant} (le : earlier.le later = true)
    (noLeap : earlier.inLeapSecond = false) (noLeap' : later.inLeapSecond = false)
    (disk : Disk) (options : StatusOptions) (directory : Path) :
    (∀ before, of disk options earlier directory = .ok before →
      ∃ after, of disk options later directory = .ok after ∧ before.DecaysTo after) ∧
    (∀ fault, of disk options earlier directory = .error fault →
      of disk options later directory = .error fault) ∧
    ((∀ log : SessionLog, log.IsLatest disk directory → log.modified.toInstant?.isSome) →
      ∃ before, of disk options earlier directory = .ok before) ∧
    ∀ (now : Instant) (status : Status), of disk options now directory = .ok status →
      (status.lastActiveAt = none ↔ ∀ log : SessionLog, ¬ log.InDirectory disk directory) ∧
      ∀ (disk' : Disk) (directory' : Path) (status' : Status),
        of disk' options now directory' = .ok status' →
          status'.lastActiveAt = status.lastActiveAt → status'.liveness = status.liveness := by
  have judged := of_eq_map_judgedAt disk options earlier later directory
  refine ⟨?_, ?_, exists_of_eq_ok earlier, ?_⟩
  · intro before found
    rw [found] at judged
    exact ⟨_, judged, decaysTo_judgedAt le noLeap noLeap' (liveness_of_eq_ok found)⟩
  · intro fault found
    rw [found] at judged
    exact judged
  · intro now status found
    refine ⟨lastActiveAt_eq_none_iff found, ?_⟩
    intro disk' directory' status' found' same
    rw [liveness_of_eq_ok found, liveness_of_eq_ok found', same]

/-- An agent that was active one minute after it was heard of is idle after nineteen. -/
theorem of_decaysTo_idle :
    let line := "\x7b\"type\":\"message\",\"timestamp\":60000,\"message\":\x7b" ++
      "\"role\":\"assistant\",\"content\":\"Done.\"\x7d\x7d"
    let disk := Disk.ofFile (Text.Utf8.encode "a.jsonl".toList) (Text.Utf8.encode line.toList)
      (.ofInstant (.ofMinutes 0))
    let directory := Path.ofString "/logs"
    let earlier := Instant.ofMinutes 2
    let later := Instant.ofMinutes 20
    let before : Status := ⟨.active, some (.ofMinutes 1), some "Done.", some "a.jsonl"⟩
    let after : Status := ⟨.idle, some (.ofMinutes 1), some "Done.", some "a.jsonl"⟩
    (earlier.le later = true ∧ earlier.inLeapSecond = false ∧ later.inLeapSecond = false) ∧
      of disk {} earlier directory = .ok before ∧ of disk {} later directory = .ok after ∧
      before.DecaysTo after := by
  intro line disk directory earlier later before after
  have found : of disk {} earlier directory = .ok before := by decide +kernel
  have foundLater : of disk {} later directory = .ok after := by decide +kernel
  have le : earlier.le later = true := by decide
  have noLeap : earlier.inLeapSecond = false := by decide
  have noLeap' : later.inLeapSecond = false := by decide
  obtain ⟨becomes, -⟩ := of_decaysTo le noLeap noLeap' disk {} directory
  obtain ⟨other, found', decays⟩ := becomes before found
  rw [foundLater] at found'
  cases found'
  exact ⟨⟨le, noLeap, noLeap'⟩, found, foundLater, decays⟩

end Status

end FleetWatch
