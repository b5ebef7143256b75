import FleetWatch.Config.Options
import FleetWatch.Proofs.Session.FeedAging
import FleetWatch.Proofs.Session.LivenessDecay
import Mathlib.Data.List.Flatten

/-!
# Recent logs and the latest log

A poll selects logs of an agent twice: the feed reads those that were modified within a window of
time, and the status reads the one that was modified last. A window that holds any log holds the
latest one, so the status never shows what the feed has not looked at while it shows anything.

The window is set in hours. Before it is compared with the times of files, it is cut off twice:
where its seconds cannot be counted, and where it reaches back behind all times that a file can
have. Neither shows in what is selected, which is what plain integers say.

## Main Definitions

* `SessionLog.isWithin` — a log that was modified within some hours, in plain integers

## Design Notes

What a window holds is closed upwards in the order by which the latest log is chosen
(`SessionLog.isFresh_of_noLater`); this is all that the two selections have in common.
-/

namespace FleetWatch

variable {disk : Disk} {directory : Path} {log : SessionLog}

/-! ### A window holds the latest log, if any -/

namespace SessionLog

/-- What was modified no earlier than a fresh log is fresh as well. -/
theorem isFresh_of_noLater {window nanos : Nat} {now : Instant} {earlier later : SessionLog}
    (order : earlier.NoLater later) (fresh : earlier.isFresh window nanos now = true) :
    later.isFresh window nanos now = true := by
  rw [isFresh, decide_eq_true_eq] at fresh ⊢
  rcases order with lt | ⟨eq, -⟩
  · exact fresh.trans lt
  · exact eq ▸ fresh

namespace IsLatest

variable (latest : log.IsLatest disk directory)
include latest

/-- **The latest log is recent as soon as any log is.** -/
theorem mem_recent {window nanos : Nat} {now : Instant}
    (some : recent disk directory window now nanos ≠ []) :
    log ∈ recent disk directory window now nanos := by
  obtain ⟨other, mem⟩ := List.exists_mem_of_ne_nil _ some
  rw [recent_eq_filter, List.mem_filter] at mem ⊢
  have order := latest.latest other (mem_all.mp mem.1)
  exact ⟨mem_all.mpr latest.inDirectory, isFresh_of_noLater order mem.2⟩

/-- No log was modified after the latest one. -/
theorem modified_le {other : SessionLog} (mem : other ∈ all disk directory) :
    other.modified.nanos ≤ log.modified.nanos := by
  rcases latest.latest other (mem_all.mp mem) with lt | ⟨eq, -⟩
  · exact lt.le
  · exact eq.le

/-- The other logs of the time of the latest one come before it by name. -/
theorem name_lt {other : SessionLog} (mem : other ∈ all disk directory)
    (sameTime : other.modified.nanos = log.modified.nanos) (ne : other ≠ log) :
    other.name < log.name := by
  have inDirectory := mem_all.mp mem
  rcases latest.latest other inDirectory with lt | ⟨-, le⟩
  · exact absurd sameTime lt.ne
  · by_contra notLt
    exact ne (inDirectory.eq_of_name latest.inDirectory (List.le_antisymm le notLt))

end IsLatest

end SessionLog

/-- A status tells the name of the latest log, and the message of its last lines. -/
theorem Status.readFrom_of_eq_ok {options : StatusOptions} {now : Instant} {status : Status}
    (latest : SessionLog.latest? disk directory = some log)
    (h : Status.of disk options now directory = .ok status) :
    status.sessionFile = some log.fileName ∧
      status.lastMessage =
        (Signals.scan options.maxChars (disk.logTail log.path options.tailLines)).lastMessage := by
  rw [of_eq_of_latest_eq_some latest] at h
  cases heard : lastHeard disk options log with
  | error fault =>
      rw [heard] at h
      cases h
  | ok last =>
      rw [heard] at h
      cases h
      exact ⟨rfl, rfl⟩

/-- **The two selections agree.** If any log of a directory is recent, whatever the window and the
time, then a latest log is selected and is one of the recent logs; no log was modified after it, and
the others of its time come before it by name. The status is read from this log, so from one that
the feed reads, whenever the feed reads any. If no latest log is selected, no log is recent for any
window. -/
theorem SessionLog.latest?_mem_recent (disk : Disk) (directory : Path) :
    (∀ window nanos now, recent disk directory window now nanos ≠ [] →
      ∃ log, latest? disk directory = some log ∧ log ∈ recent disk directory window now nanos ∧
        (∀ other ∈ all disk directory, other.modified.nanos ≤ log.modified.nanos ∧
          (other.modified.nanos = log.modified.nanos → other ≠ log → other.name < log.name)) ∧
        ∀ options later status, Status.of disk options later directory = .ok status →
          status.sessionFile = some log.fileName ∧
          status.lastMessage = (Signals.scan options.maxChars
            (disk.logTail log.path options.tailLines)).lastMessage) ∧
    (latest? disk directory = none →
      ∀ window nanos now, recent disk directory window now nanos = []) := by
  cases latest : latest? disk directory with
  | none =>
      -- A recent log would be one of the directory, and there is none.
      have nothing : ∀ window nanos now, recent disk directory window now nanos = [] := by
        intro window nanos now
        rw [List.eq_nil_iff_forall_not_mem]
        intro log mem
        exact latest?_eq_none_iff.mp latest log (mem_recent.mp mem).inDirectory
      exact ⟨fun window nanos now some => absurd (nothing window nanos now) some,
        fun _ => nothing⟩
  | some log =>
      have isLatest := latest?_eq_some_iff.mp latest
      refine ⟨?_, fun none => absurd none (Option.some_ne_none log)⟩
      intro window nanos now some
      refine ⟨log, rfl, isLatest.mem_recent some, ?_, ?_⟩
      · intro other listed
        exact ⟨isLatest.modified_le listed, isLatest.name_lt listed⟩
      · intro options later status answer
        exact Status.readFrom_of_eq_ok latest answer

/-- A directory with two logs that were modified a minute before 1970, and one that was modified two
hours before; and a directory that is not there. -/
theorem SessionLog.latest?_mem_recent_two_of_one_time :
    let directory := Path.ofString "/scout"
    let missing := Path.ofString "/nowhere"
    let name (text : String) := Text.Utf8.encode text.toList
    let minute : FileTime := ⟨-60 * 1000000000, by decide, by decide⟩
    let hours : FileTime := ⟨-7200 * 1000000000, by decide, by decide⟩
    let disk : Disk :=
      { state? := fun path =>
          some ⟨.regular, if path = directory.child (name "old.jsonl") then hours else minute⟩
        read := fun _ => .ok []
        list? := fun path =>
          if path = directory then
            some (.ofNames [name "a.jsonl", name "b.jsonl", name "old.jsonl"])
          else none }
    let log (text : String) (time : FileTime) : SessionLog :=
      ⟨directory.child (name text), name text, time⟩
    let now := Instant.ofMinutes 0
    let recents := [log "a.jsonl" minute, log "b.jsonl" minute]
    recent disk directory 3600 now = recents ∧ recents ≠ [] ∧
    latest? disk directory = some (log "b.jsonl" minute) ∧ log "b.jsonl" minute ∈ recents ∧
    (∃ status, Status.of disk {} now directory = .ok status ∧
      status.sessionFile = some "b.jsonl") ∧
    latest? disk missing = none ∧ ∀ window later, recent disk missing window later = [] := by
  intro directory missing name minute hours disk log now recents
  have found : (Listing.ofNames [name "a.jsonl", name "b.jsonl", name "old.jsonl"]).names.filterMap
      (ofName? disk directory) = recents ++ [log "old.jsonl" hours] := by
    decide +kernel
  have logs : all disk directory = recents ++ [log "old.jsonl" hours] := by
    show List.mergeSort _ _ = _
    rw [found]
    exact List.mergeSort_of_pairwise (by decide +kernel)
  have recent_eq : recent disk directory 3600 now = recents := by
    rw [recent_eq_filter, logs]
    decide +kernel
  have latest_eq : latest? disk directory = some (log "b.jsonl" minute) := by
    rw [latest?, logs]
    decide +kernel
  have some : recents ≠ [] := List.cons_ne_nil _ _
  obtain ⟨found', selected, mem, -, shown⟩ :=
    (latest?_mem_recent disk directory).1 3600 0 now (recent_eq ▸ some)
  obtain rfl := Option.some.inj (latest_eq.symm.trans selected)
  obtain ⟨status, answer⟩ : ∃ status, Status.of disk {} now directory = .ok status := by
    rw [Status.of_eq_of_latest_eq_some selected]
    exact ⟨_, rfl⟩
  have name_eq : (log "b.jsonl" minute).fileName = "b.jsonl" := by decide +kernel
  have none : latest? disk missing = none := by decide +kernel
  refine ⟨recent_eq, some, latest_eq, recent_eq ▸ mem, ⟨status, answer, ?_⟩, none, ?_⟩
  · rw [(shown {} now status answer).1, name_eq]
  · intro window later
    exact (latest?_mem_recent disk missing).2 none window 0 later

/-! ### The window in hours -/

namespace SessionLog

/-- A log that was modified less than some hours ago. -/
def isWithin (hours : Nat) (now : Instant) (log : SessionLog) : Bool :=
  now.seconds * 1000000000 + now.nanos - hours * 3600 * 1000000000 < log.modified.nanos

/-- The longest window reaches back behind all times of files. -/
theorem isFresh_of_longestWindow_le {window : Nat} (long : Config.longestWindow ≤ window)
    (nanos : Nat) (now : Instant) (log : SessionLog) : log.isFresh window nanos now = true := by
  have lower := log.modified.le_nanos
  have seconds_le := now.seconds_le
  have nanos_lt := now.nanos_lt
  rw [Config.longestWindow] at long
  rw [isFresh, decide_eq_true_eq]
  show now.seconds * 1000000000 + now.nanos - _ < _
  omega

/-- A window in whole hours is one of so many seconds. -/
theorem isFresh_hours (hours : Nat) (now : Instant) (log : SessionLog) :
    log.isFresh (hours * 3600) 0 now = log.isWithin hours now := by
  rw [isFresh, isWithin, FileTime.ofInstant, Nat.add_zero]
  push_cast
  rfl

/-- **What is configured is what is selected**: that the seconds of a window are cut off at the
longest one makes no difference, since nothing is older. -/
theorem isFresh_feedOptions (config : Config) (now : Instant) (log : SessionLog) :
    log.isFresh config.feedOptions.window config.feedOptions.windowNanos now =
      log.isWithin config.activity.windowHours now := by
  rcases Nat.le_total (config.activity.windowHours * 3600) Config.longestWindow with short | long
  · have window : config.feedOptions.window = config.activity.windowHours * 3600 :=
      Nat.min_eq_left short
    rw [window, ← isFresh_hours]
    rfl
  · have window : config.feedOptions.window = Config.longestWindow := Nat.min_eq_right long
    rw [window, isFresh_of_longestWindow_le le_rfl, ← isFresh_hours,
      isFresh_of_longestWindow_le long]

/-- More hours hold more logs. -/
theorem isWithin_of_le {hours wider : Nat} (le : hours ≤ wider) {now : Instant}
    {log : SessionLog} (within : log.isWithin hours now = true) :
    log.isWithin wider now = true := by
  rw [isWithin, decide_eq_true_eq] at within ⊢
  omega

/-- The recent logs for a configuration are those within its hours. -/
theorem recent_eq_filter_isWithin (config : Config) (disk : Disk) (directory : Path)
    (now : Instant) :
    recent disk directory config.feedOptions.window now config.feedOptions.windowNanos =
      (all disk directory).filter (isWithin config.activity.windowHours now) := by
  rw [recent_eq_filter]
  exact List.filter_congr fun log _ => isFresh_feedOptions config now log

/-- More hours select more logs, in the same order. -/
theorem recent_sublist {config wider : Config}
    (le : config.activity.windowHours ≤ wider.activity.windowHours) (disk : Disk)
    (directory : Path) (now : Instant) :
    (recent disk directory config.feedOptions.window now config.feedOptions.windowNanos).Sublist
      (recent disk directory wider.feedOptions.window now wider.feedOptions.windowNanos) := by
  rw [recent_eq_filter_isWithin, recent_eq_filter_isWithin]
  exact List.monotone_filter_right _ fun log => isWithin_of_le le

/-- **The window is exact at every size.** The logs that are recent for a configuration are those of
the directory that were modified later than the configured hours before the present, in plain
integers; the entries of an agent are those of just these logs. More hours lose no log, and no
entry. -/
theorem recent_feedOptions (config : Config) (disk : Disk) (directory : Path) (now : Instant) :
    (∀ log, log ∈ recent disk directory config.feedOptions.window now
        config.feedOptions.windowNanos ↔
      log ∈ all disk directory ∧
        now.seconds * 1000000000 + now.nanos - config.activity.windowHours * 3600 * 1000000000 <
          log.modified.nanos) ∧
    (∀ agent, agentEntries disk config.feedOptions now agent =
      ((all disk agent.sessionDir).filter (isWithin config.activity.windowHours now)).flatMap
        (logEntries disk ⟨agent, config.activity.maxChars, now⟩)) ∧
    ∀ wider : Config, config.activity.windowHours ≤ wider.activity.windowHours →
      (recent disk directory config.feedOptions.window now config.feedOptions.windowNanos).Sublist
        (recent disk directory wider.feedOptions.window now wider.feedOptions.windowNanos) ∧
      (config.activity.maxChars = wider.activity.maxChars → ∀ agent,
        (agentEntries disk config.feedOptions now agent).Sublist
          (agentEntries disk wider.feedOptions now agent)) := by
  refine ⟨?_, ?_, ?_⟩
  · intro log
    rw [recent_eq_filter_isWithin, List.mem_filter, isWithin, decide_eq_true_eq]
  · intro agent
    rw [agentEntries, recent_eq_filter_isWithin]
    rfl
  · intro wider le
    refine ⟨recent_sublist le disk directory now, ?_⟩
    intro sameLength agent
    have sameReader : config.feedOptions.maxChars = wider.feedOptions.maxChars := sameLength
    rw [agentEntries, agentEntries, sameReader]
    exact (recent_sublist le disk agent.sessionDir now).flatMap _

/-- A log of the earliest time that a file can have is lost to a window of a day, and not to the
most hours that can be set. -/
theorem recent_feedOptions_earliest :
    let name := Text.Utf8.encode "a.jsonl".toList
    let earliest : FileTime := ⟨-9223372036854775808 * 1000000000, by decide, by decide⟩
    let disk := Disk.ofFile name [] earliest
    let scout : Agent := ⟨"scout", "Scout", "#888", .ofString "/scout"⟩
    let day : Config := {}
    let always : Config := { activity := { windowHours := 18446744073709551615 } }
    let now := Instant.ofMinutes 0
    let recents (config : Config) :=
      recent disk scout.sessionDir config.feedOptions.window now config.feedOptions.windowNanos
    day.activity.windowHours ≤ always.activity.windowHours ∧
    day.activity.maxChars = always.activity.maxChars ∧
    recents day = [] ∧ recents always = [⟨scout.sessionDir.child name, name, earliest⟩] ∧
    (recents day).Sublist (recents always) ∧
    (agentEntries disk day.feedOptions now scout).Sublist
      (agentEntries disk always.feedOptions now scout) := by
  intro name earliest disk scout day always now recents
  have le : day.activity.windowHours ≤ always.activity.windowHours := by decide
  have sameLength : day.activity.maxChars = always.activity.maxChars := rfl
  obtain ⟨logs, entries⟩ := (recent_feedOptions day disk scout.sessionDir now).2.2 always le
  exact ⟨le, sameLength, by decide +kernel, by decide +kernel, logs, entries sameLength scout⟩

end SessionLog

end FleetWatch
