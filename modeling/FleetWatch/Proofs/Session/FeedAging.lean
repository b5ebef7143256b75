import FleetWatch.Proofs.Session.FeedOrder

/-!
# The feed of a quiet disk

What becomes of a feed while nothing is written. A later poll reads fewer logs, since some have
fallen out of the window; the lines of the others give the entries that they gave before, except
that a record without a time of its own is shown at the present. So of the entries that have such a
time, a later feed shows some, in the order in which they were.

## Main Definitions

* `SessionLog.isFresh` — a log within a window of time
* `Sighting` — an entry beside the log and the record that it comes from
* `Sighting.isDated` — an entry whose record has a time of its own
* `Feed.sightings` — the sightings of a roster, in the order of the feed

## Design Notes

An entry does not tell whether its time is that of its record or that of the poll: the two can be
the same text. A sighting keeps the record, and the log as well, by which it will leave the feed.
Sightings are sorted by their entries, so a feed is what the sightings show
(`Feed.map_entry_sightings`).

One equation carries everything: what is found later is what was found before, without the logs
that have fallen out of the window, and shown at the later time (`rosterSightings_later`).
-/

namespace FleetWatch

/-! ### Sorting a part -/

section Sorting

variable {α : Type} {le : α → α → Bool}

/-- What sorting puts before an item does not come up to it, and what it puts behind it does. So
leaving out what does not satisfy a condition leaves out of either part. -/
theorem filter_insert {p : α → Bool} {a : α} {before after before' after' : List α}
    (below : ∀ b ∈ before, (!le a b) = true) (above : ∀ b ∈ after, le a b = true)
    (below' : ∀ b ∈ before', (!le a b) = true) (above' : ∀ b ∈ after', le a b = true)
    (same : (before ++ after).filter p = before' ++ after') :
    before.filter p = before' ∧ after.filter p = after' := by
  have parts : ∀ {xs ys : List α}, (∀ b ∈ xs, (!le a b) = true) → (∀ b ∈ ys, le a b = true) →
      (xs ++ ys).filter (fun b => !le a b) = xs := by
    intro xs ys low high
    have none : ys.filter (fun b => !le a b) = [] := by
      rw [List.filter_eq_nil_iff]
      intro b mem
      simp [high b mem]
    rw [List.filter_append, List.filter_eq_self.mpr low, none, List.append_nil]
  have first : before.filter p = before' := by
    have cut := congrArg (List.filter fun b => !le a b) same
    rwa [List.filter_comm, parts below above, parts below' above'] at cut
  refine ⟨first, ?_⟩
  rw [List.filter_append, first] at same
  exact List.append_cancel_left same

/-- **Leaving items out before sorting is leaving them out afterwards.** -/
theorem filter_mergeSort (trans : ∀ a b c, le a b = true → le b c = true → le a c = true)
    (total : ∀ a b, (le a b || le b a) = true) (p : α → Bool) (items : List α) :
    (items.mergeSort le).filter p = (items.filter p).mergeSort le := by
  induction items with
  | nil => simp
  | cons a items ih =>
      obtain ⟨before, after, sorted, rest, below⟩ := List.mergeSort_cons trans total a items
      by_cases keep : p a = true
      · obtain ⟨before', after', sorted', rest', below'⟩ :=
          List.mergeSort_cons trans total a (items.filter p)
        have above : ∀ {xs ys zs}, List.mergeSort xs le = ys ++ a :: zs →
            ∀ b ∈ zs, le a b = true := by
          intro xs ys zs sorted
          have inOrder := List.pairwise_mergeSort trans total xs
          rw [sorted, List.pairwise_append, List.pairwise_cons] at inOrder
          exact inOrder.2.1.1
        rw [rest, rest'] at ih
        obtain ⟨first, second⟩ := filter_insert below (above sorted) below' (above sorted') ih
        rw [List.filter_cons_of_pos keep, sorted, sorted', List.filter_append,
          List.filter_cons_of_pos keep, first, second]
      · rw [List.filter_cons_of_neg keep, sorted, List.filter_append, List.filter_cons_of_neg keep,
          ← List.filter_append, ← rest, ih]

end Sorting

/-! ### Logs that fall out of the window -/

namespace SessionLog

/-- A log that was modified within a window of time. -/
def isFresh (window nanos : Nat) (now : Instant) (log : SessionLog) : Bool :=
  (FileTime.ofInstant now).nanos - (window * 1000000000 + nanos : Nat) < log.modified.nanos

/-- The recent logs are the fresh ones of all. -/
theorem recent_eq_filter (disk : Disk) (directory : Path) (window : Nat) (now : Instant)
    (nanos : Nat) :
    recent disk directory window now nanos =
      (all disk directory).filter (isFresh window nanos now) := by
  unfold recent
  cases cutoff : (FileTime.ofInstant now).before? window nanos with
  | none =>
      -- A cutoff too early for any file is one that every file passes.
      symm
      rw [List.filter_eq_self]
      intro log _
      exact decide_eq_true (FileTime.lt_of_before?_eq_none cutoff log.modified)
  | some time =>
      apply List.filter_congr
      intro log _
      rw [isFresh, FileTime.nanos_of_before?_eq_some cutoff]

/-- A log that is fresh at some time was fresh at all times before. -/
theorem isFresh_of_le {window nanos : Nat} {earlier later : Instant} {log : SessionLog}
    (le : earlier.le later = true) (noLeap : earlier.inLeapSecond = false)
    (fresh : log.isFresh window nanos later = true) : log.isFresh window nanos earlier = true := by
  rw [Instant.le_iff] at le
  rw [Instant.inLeapSecond, decide_eq_false_iff_not] at noLeap
  have notLater : (FileTime.ofInstant earlier).nanos ≤ (FileTime.ofInstant later).nanos := by
    show earlier.seconds * 1000000000 + earlier.nanos ≤ later.seconds * 1000000000 + later.nanos
    omega
  rw [isFresh, decide_eq_true_eq] at fresh ⊢
  omega

/-- **The recent logs of a later time** are those of before that are still fresh. -/
theorem recent_later (disk : Disk) (directory : Path) (window nanos : Nat)
    {earlier later : Instant} (le : earlier.le later = true)
    (noLeap : earlier.inLeapSecond = false) :
    recent disk directory window later nanos =
      (recent disk directory window earlier nanos).filter (isFresh window nanos later) := by
  rw [recent_eq_filter, recent_eq_filter, List.filter_filter]
  apply List.filter_congr
  intro log _
  rw [Bool.eq_iff_iff, Bool.and_eq_true]
  constructor
  · intro fresh
    exact ⟨fresh, isFresh_of_le le noLeap fresh⟩
  · intro fresh
    exact fresh.1

end SessionLog

/-! ### Sightings -/

/-- **An entry beside the record that it shows**, and the log that the record is from. -/
structure Sighting where
  log : SessionLog
  record : Record
  entry : Entry

/-- A sighting of a record that has a text for its time. -/
def Sighting.isDated (sighting : Sighting) : Bool :=
  sighting.record.timestampText?.isSome

/-- The same record seen at another time. -/
def Sighting.shownAt (now : Instant) (sighting : Sighting) : Sighting :=
  { sighting with
    entry := { sighting.entry with timestamp := sighting.record.timestampText?.getD now.iso } }

/-- The sighting of the line at a position of a log, if the line is to be shown. -/
def EntryReader.sight? (reader : EntryReader) (log : SessionLog) (line : String) (index : Nat) :
    Option Sighting := do
  let record ← Record.read? line
  let entry ← reader.entry? record log.fileName index
  some ⟨log, record, entry⟩

/-- The sightings of a log. -/
def logSightings (disk : Disk) (reader : EntryReader) (log : SessionLog) : List Sighting :=
  (disk.logLines log.path).zipIdx.filterMap fun (line, index) => reader.sight? log line index

/-- The sightings of the recent logs of an agent. -/
def agentSightings (disk : Disk) (options : FeedOptions) (now : Instant) (agent : Agent) :
    List Sighting :=
  (SessionLog.recent disk agent.sessionDir options.window now options.windowNanos).flatMap
    (logSightings disk ⟨agent, options.maxChars, now⟩)

/-- The sightings of a roster, as they are found. -/
def rosterSightings (disk : Disk) (options : FeedOptions) (now : Instant) (roster : Roster) :
    List Sighting :=
  roster.flatMap (agentSightings disk options now)

/-- The sightings of a roster in the order of the feed. -/
def Feed.sightings (disk : Disk) (options : FeedOptions) (now : Instant) (roster : Roster) :
    List Sighting :=
  (rosterSightings disk options now roster).mergeSort fun a b => entryLE a.entry b.entry

variable {disk : Disk} {options : FeedOptions} {reader : EntryReader} {log : SessionLog}

/-! ### What is sighted is what is shown -/

theorem EntryReader.map_entry_sight? (reader : EntryReader) (log : SessionLog) (line : String)
    (index : Nat) :
    (reader.sight? log line index).map (·.entry) = reader.read? line log.fileName index := by
  rw [sight?, read?]
  cases Record.read? line with
  | none => rfl
  | some record =>
      simp only [Option.bind_eq_bind, Option.bind_some]
      cases reader.entry? record log.fileName index <;> rfl

theorem map_entry_logSightings (disk : Disk) (reader : EntryReader) (log : SessionLog) :
    (logSightings disk reader log).map (·.entry) = logEntries disk reader log := by
  rw [logSightings, logEntries, lineEntries, List.map_filterMap]
  simp only [EntryReader.map_entry_sight?]

theorem map_entry_rosterSightings (disk : Disk) (options : FeedOptions) (now : Instant)
    (roster : Roster) :
    (rosterSightings disk options now roster).map (·.entry) =
      (roster.map (agentEntries disk options now)).flatten := by
  rw [rosterSightings, List.map_flatMap, List.flatMap_def]
  refine congrArg List.flatten (List.map_congr_left ?_)
  intro agent _
  rw [agentSightings, List.map_flatMap, agentEntries]
  simp only [map_entry_logSightings]

/-- **The feed shows what is sighted**, entry by entry. -/
theorem Feed.map_entry_sightings (disk : Disk) (options : FeedOptions) (now : Instant)
    (roster : Roster) :
    (sightings disk options now roster).map (·.entry) = uncapped disk options now roster := by
  rw [uncapped, sorted_eq_mergeSort, ← map_entry_rosterSightings]
  apply List.map_mergeSort
  intro a _ b _
  rfl

/-! ### The same records at a later time -/

/-- When a record is read makes no difference but for the time that it is shown at. -/
theorem EntryReader.entry?_withNow (reader : EntryReader) (now : Instant) (record : Record)
    (file : String) (index : Nat) :
    entry? { reader with now := now } record file index =
      reader.entry? record file index >>= fun entry =>
        some { entry with timestamp := record.timestampText?.getD now.iso } := by
  unfold entry?
  cases record.role? with
  | none => rfl
  | some role =>
      cases record.text? with
      | none => rfl
      | some text =>
          simp only [Option.bind_eq_bind, Option.bind_some]
          split <;> rfl

theorem EntryReader.sight?_withNow (reader : EntryReader) (now : Instant) (log : SessionLog)
    (line : String) (index : Nat) :
    { reader with now := now }.sight? log line index =
      (reader.sight? log line index).map (Sighting.shownAt now) := by
  rw [sight?, sight?]
  cases Record.read? line with
  | none => rfl
  | some record =>
      simp only [Option.bind_eq_bind, Option.bind_some, entry?_withNow]
      cases reader.entry? record log.fileName index <;> rfl

/-- A log gives the same sightings at any time, each shown at that time. -/
theorem logSightings_withNow (disk : Disk) (reader : EntryReader) (now : Instant)
    (log : SessionLog) :
    logSightings disk { reader with now := now } log =
      (logSightings disk reader log).map (Sighting.shownAt now) := by
  rw [logSightings, logSightings, List.map_filterMap]
  simp only [EntryReader.sight?_withNow]

theorem EntryReader.log_of_sight? {line : String} {index : Nat} {sighting : Sighting}
    (h : reader.sight? log line index = some sighting) : sighting.log = log := by
  simp only [sight?, Option.bind_eq_bind, Option.bind_eq_some_iff] at h
  obtain ⟨record, -, entry, -, same⟩ := h
  cases same
  rfl

/-- The sightings of a log are from that log. -/
theorem log_of_mem_logSightings {sighting : Sighting}
    (h : sighting ∈ logSightings disk reader log) : sighting.log = log := by
  obtain ⟨⟨line, index⟩, -, seen⟩ := List.mem_filterMap.mp h
  exact EntryReader.log_of_sight? seen

/-- Leaving logs out leaves out their sightings. -/
theorem flatMap_logSightings_filter (disk : Disk) (reader : EntryReader) (keep : SessionLog → Bool)
    (logs : List SessionLog) :
    (logs.filter keep).flatMap (logSightings disk reader) =
      (logs.flatMap (logSightings disk reader)).filter fun sighting => keep sighting.log := by
  induction logs with
  | nil => rfl
  | cons log logs ih =>
      rw [List.flatMap_cons, List.filter_append, ← ih]
      cases kept : keep log with
      | true =>
          have all : (logSightings disk reader log).filter (fun sighting => keep sighting.log) =
              logSightings disk reader log := by
            rw [List.filter_eq_self]
            intro sighting mem
            rw [log_of_mem_logSightings mem, kept]
          rw [List.filter_cons_of_pos kept, List.flatMap_cons, all]
      | false =>
          have none : (logSightings disk reader log).filter (fun sighting => keep sighting.log) =
              [] := by
            rw [List.filter_eq_nil_iff]
            intro sighting mem
            simp [log_of_mem_logSightings mem, kept]
          rw [List.filter_cons_of_neg (by simp [kept]), none, List.nil_append]

/-- **What is sighted later** is what was sighted before in the logs that are still fresh, shown at
the later time. -/
theorem rosterSightings_later (disk : Disk) (options : FeedOptions) {earlier later : Instant}
    (le : earlier.le later = true) (noLeap : earlier.inLeapSecond = false) (roster : Roster) :
    rosterSightings disk options later roster =
      ((rosterSightings disk options earlier roster).filter fun sighting =>
        sighting.log.isFresh options.window options.windowNanos later).map
          (Sighting.shownAt later) := by
  rw [rosterSightings, rosterSightings, List.filter_flatMap, List.map_flatMap]
  apply List.flatMap_congr
  intro agent _
  have withNow := logSightings_withNow disk ⟨agent, options.maxChars, earlier⟩ later
  rw [agentSightings, agentSightings, SessionLog.recent_later disk _ _ _ le noLeap,
    ← flatMap_logSightings_filter, List.map_flatMap]
  simp only [← withNow]

/-- A sighting is shown at the time at which it is found. -/
theorem shownAt_of_mem_rosterSightings {now : Instant} {roster : Roster} {sighting : Sighting}
    (h : sighting ∈ rosterSightings disk options now roster) : sighting.shownAt now = sighting := by
  obtain ⟨agent, -, mem⟩ := List.mem_flatMap.mp h
  obtain ⟨log, -, mem⟩ := List.mem_flatMap.mp mem
  have again := logSightings_withNow disk ⟨agent, options.maxChars, now⟩ now log
  exact (List.map_eq_map_iff.mp ((List.map_id _).trans again) sighting mem).symm

/-- A record with a text for its time is shown at that time whenever it is seen. -/
theorem Sighting.shownAt_eq_of_isDated {sighting : Sighting} (h : sighting.isDated = true)
    (now now' : Instant) : sighting.shownAt now = sighting.shownAt now' := by
  obtain ⟨text, own⟩ := Option.isSome_iff_exists.mp h
  simp only [shownAt, own, Option.getD_some]

/-- Of the records with a text for their time, those that are sighted later are those that were
sighted before in the logs that are still fresh. -/
theorem filter_isDated_rosterSightings_later (disk : Disk) (options : FeedOptions)
    {earlier later : Instant} (le : earlier.le later = true)
    (noLeap : earlier.inLeapSecond = false) (roster : Roster) :
    (rosterSightings disk options later roster).filter Sighting.isDated =
      ((rosterSightings disk options earlier roster).filter Sighting.isDated).filter
        fun sighting => sighting.log.isFresh options.window options.windowNanos later := by
  have sameRecord : Sighting.isDated ∘ Sighting.shownAt later = Sighting.isDated := rfl
  rw [rosterSightings_later disk options le noLeap, List.filter_map, sameRecord, List.filter_comm]
  refine (List.map_congr_left ?_).trans (List.map_id _)
  intro sighting mem
  obtain ⟨found, dated⟩ := List.mem_filter.mp (List.mem_filter.mp mem).1
  exact (Sighting.shownAt_eq_of_isDated dated later earlier).trans
    (shownAt_of_mem_rosterSightings found)

/-! ### Feeds of a quiet disk -/

namespace Feed

theorem filter_sightings (p : Sighting → Bool) (disk : Disk) (options : FeedOptions)
    (now : Instant) (roster : Roster) :
    (sightings disk options now roster).filter p =
      ((rosterSightings disk options now roster).filter p).mergeSort
        fun a b => entryLE a.entry b.entry := by
  have trans : ∀ a b c : Sighting, entryLE a.entry b.entry = true →
      entryLE b.entry c.entry = true → entryLE a.entry c.entry = true :=
    fun a b c => entryLE_trans a.entry b.entry c.entry
  rw [sightings, filter_mergeSort trans fun a b => entryLE_total a.entry b.entry]

/-- Of the records with a text for their time, a later feed shows those that an earlier one shows
from the logs that are still fresh, in the same order. -/
theorem filter_isDated_sightings_later (disk : Disk) (options : FeedOptions)
    {earlier later : Instant} (le : earlier.le later = true)
    (noLeap : earlier.inLeapSecond = false) (roster : Roster) :
    (sightings disk options later roster).filter Sighting.isDated =
      ((sightings disk options earlier roster).filter Sighting.isDated).filter
        fun sighting => sighting.log.isFresh options.window options.windowNanos later := by
  rw [filter_sightings, filter_isDated_rosterSightings_later disk options le noLeap,
    List.filter_filter, List.filter_filter, filter_sightings]

/-- A feed counts as many entries as there are sightings. -/
theorem total_eq_length_sightings (disk : Disk) (options : FeedOptions) (now : Instant)
    (roster : Roster) :
    (of disk options now roster).total = (rosterSightings disk options now roster).length := by
  have length := congrArg List.length (map_entry_sightings disk options now roster)
  rw [List.length_map, sightings, List.length_mergeSort] at length
  exact length.symm

/-- A later feed counts no more entries. -/
theorem total_later_le (disk : Disk) (options : FeedOptions) {earlier later : Instant}
    (le : earlier.le later = true) (noLeap : earlier.inLeapSecond = false) (roster : Roster) :
    (of disk options later roster).total ≤ (of disk options earlier roster).total := by
  rw [total_eq_length_sightings, total_eq_length_sightings,
    rosterSightings_later disk options le noLeap, List.length_map]
  exact List.length_filter_le _ _

/-- A feed that has room for all entries shows all that is sighted. -/
theorem map_entry_sightings_of_total_le {now : Instant} {roster : Roster}
    (room : (of disk options now roster).total ≤ options.cap) :
    (sightings disk options now roster).map (·.entry) = (of disk options now roster).entries := by
  rw [of_eq_take_uncapped] at room ⊢
  rw [map_entry_sightings]
  exact (List.take_of_length_le room).symm

/-- **On a quiet disk a feed only ages.** Of two feeds of one disk that have room for all entries,
the later one shows no more entries than the earlier one. Of the entries whose records have a text
for their time, it shows those whose logs are still fresh, which are some of the earlier ones in the
order in which they were. -/
theorem dated_later_sublist {earlier later : Instant} {roster : Roster}
    (le : earlier.le later = true) (noLeap : earlier.inLeapSecond = false)
    (room : (of disk options earlier roster).total ≤ options.cap) :
    let before := sightings disk options earlier roster
    let after := sightings disk options later roster
    (before.map (·.entry) = (of disk options earlier roster).entries ∧
      after.map (·.entry) = (of disk options later roster).entries) ∧
    after.filter Sighting.isDated = (before.filter Sighting.isDated).filter
      (fun sighting => sighting.log.isFresh options.window options.windowNanos later) ∧
    ((after.filter Sighting.isDated).map (·.entry)).Sublist
      ((before.filter Sighting.isDated).map (·.entry)) ∧
    (of disk options later roster).total ≤ (of disk options earlier roster).total := by
  have fewer := total_later_le disk options le noLeap roster
  have dated := filter_isDated_sightings_later disk options le noLeap roster
  refine ⟨⟨?_, ?_⟩, dated, ?_, fewer⟩
  · exact map_entry_sightings_of_total_le room
  · exact map_entry_sightings_of_total_le (fewer.trans room)
  · rw [dated]
    exact List.filter_sublist.map _

/-- Two agents with one log each, of which that of the first falls out of the window. -/
theorem dated_later_sublist_scout_falls_out :
    let scout : Agent := ⟨"scout", "Scout", "#888", .ofString "/scout"⟩
    let clerk : Agent := ⟨"clerk", "Clerk", "#888", .ofString "/clerk"⟩
    let line := "\x7b\"type\":\"message\",\"timestamp\":\"yesterday\",\"message\":" ++
      "\x7b\"role\":\"user\",\"content\":\"Hello\"\x7d\x7d"
    let name := Text.Utf8.encode "a.jsonl".toList
    let disk := Disk.ofFile name (Text.Utf8.encode line.toList) (.ofInstant (.ofMinutes 0))
    let disk := { disk with
      state? := fun path =>
        if path = clerk.sessionDir.child name then some ⟨.regular, .ofInstant (.ofMinutes 1)⟩
        else disk.state? path }
    let options : FeedOptions := { window := 90 }
    let earlier := Instant.ofMinutes 1
    let later := Instant.ofMinutes 2
    let shown := fun now => ((sightings disk options now [scout, clerk]).filter
      Sighting.isDated).map (·.entry)
    (earlier.le later = true ∧ earlier.inLeapSecond = false ∧
      (of disk options earlier [scout, clerk]).total ≤ options.cap) ∧
    (shown earlier).map (·.id) = ["scout-a.jsonl-0", "clerk-a.jsonl-0"] ∧
    (shown later).map (·.id) = ["clerk-a.jsonl-0"] ∧
    (shown later).Sublist (shown earlier) ∧
    (of disk options later [scout, clerk]).total ≤
      (of disk options earlier [scout, clerk]).total := by
  intro scout clerk line name disk₀ disk options earlier later shown
  have room : (of disk options earlier [scout, clerk]).total ≤ options.cap := by
    rw [total_eq_length_sightings]
    decide +kernel
  -- The entries come in the order in which they are found, since the texts are no instants.
  have inOrder : ∀ now, ((rosterSightings disk options now [scout, clerk]).filter
      Sighting.isDated).Pairwise (fun a b => entryLE a.entry b.entry = true) →
      shown now = ((rosterSightings disk options now [scout, clerk]).filter
        Sighting.isDated).map (·.entry) := by
    intro now inOrder
    show ((sightings disk options now [scout, clerk]).filter Sighting.isDated).map _ = _
    rw [filter_sightings, List.mergeSort_of_pairwise inOrder]
  have le : earlier.le later = true := by decide
  have noLeap : earlier.inLeapSecond = false := by decide
  obtain ⟨-, -, part, fewer⟩ := dated_later_sublist le noLeap room
  refine ⟨⟨le, noLeap, room⟩, ?_, ?_, part, fewer⟩
  · rw [inOrder earlier (by decide +kernel)]
    decide +kernel
  · rw [inOrder later (by decide +kernel)]
    decide +kernel

end Feed

end FleetWatch
