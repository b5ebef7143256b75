import FleetWatch.Proofs.Session.Acceptance
import FleetWatch.Proofs.Session.FeedOrder
import FleetWatch.Session.Liveness

/-!
# What the logs of one agent leave alone

Two states of a disk that differ in the session directory of one agent only are compared. Whatever
that directory holds, and also if it is missing or cannot be listed, the feed shows the entries of
the other agents in the same order, and their statuses are the same.

## Main Definitions

* `Disk.Lists` — a directory lists a name
* `Disk.AgreeOn` — two disks hold the same files in a directory

## Design Notes

Nothing is asked of the listings but that they list the same names: the selectors find the same
logs in whatever order these are listed (`Disk.AgreeOn.all_eq`). In the feed the entries of the
agent are interleaved with those of the others by their instants; since the order of the feed is
unique, leaving them out afterwards is the same as not having found them (`Feed.sorted_filter`).
-/

namespace FleetWatch

variable {disk disk' : Disk} {directory : Path}

/-! ### Disks that agree on a directory -/

namespace Disk

/-- A directory lists a name. A directory that cannot be listed lists none. -/
def Lists (disk : Disk) (directory : Path) (name : List UInt8) : Prop :=
  ∃ listing, disk.list? directory = some listing ∧ name ∈ listing.names

/-- **Two disks agree on a directory**: they list the same names in it, and the files of these
names are in the same state and have the same bytes. -/
structure AgreeOn (disk disk' : Disk) (directory : Path) : Prop where
  lists_iff : ∀ name, disk.Lists directory name ↔ disk'.Lists directory name
  state?_eq : ∀ name, disk.Lists directory name →
    disk.state? (directory.child name) = disk'.state? (directory.child name)
  read_eq : ∀ name, disk.Lists directory name →
    disk.read (directory.child name) = disk'.read (directory.child name)

namespace AgreeOn

theorem symm (h : disk.AgreeOn disk' directory) : disk'.AgreeOn disk directory where
  lists_iff name := (h.lists_iff name).symm
  state?_eq name listed := (h.state?_eq name ((h.lists_iff name).mpr listed)).symm
  read_eq name listed := (h.read_eq name ((h.lists_iff name).mpr listed)).symm

theorem inDirectory (h : disk.AgreeOn disk' directory) {log : SessionLog}
    (log_mem : log.InDirectory disk directory) : log.InDirectory disk' directory where
  listed := (h.lists_iff log.name).mp log_mem.listed
  named := log_mem.named
  path_eq := log_mem.path_eq
  regular := by
    rw [log_mem.path_eq, ← h.state?_eq log.name log_mem.listed, ← log_mem.path_eq]
    exact log_mem.regular

/-- Disks that agree on a directory have the same logs in it. -/
theorem all_eq (h : disk.AgreeOn disk' directory) :
    SessionLog.all disk directory = SessionLog.all disk' directory := by
  refine SessionLog.eq_of_mem_iff (SessionLog.all_pairwise disk directory)
    (SessionLog.all_pairwise disk' directory) ?_
  intro log
  rw [SessionLog.mem_all, SessionLog.mem_all]
  exact ⟨h.inDirectory, h.symm.inDirectory⟩

/-- Disks that agree on a directory have the same lines in its logs. -/
theorem logLines_eq (h : disk.AgreeOn disk' directory) {log : SessionLog}
    (log_mem : log.InDirectory disk directory) :
    disk.logLines log.path = disk'.logLines log.path := by
  have read := h.read_eq log.name log_mem.listed
  rw [← log_mem.path_eq] at read
  rw [logLines, logLines, read]

end AgreeOn

end Disk

/-- The entries of an agent depend on its session directory only. -/
theorem agentEntries_congr {agent : Agent} (h : disk.AgreeOn disk' agent.sessionDir)
    (options : FeedOptions) (now : Instant) :
    agentEntries disk options now agent = agentEntries disk' options now agent := by
  have logs : SessionLog.recent disk agent.sessionDir options.window now options.windowNanos =
      SessionLog.recent disk' agent.sessionDir options.window now options.windowNanos := by
    rw [SessionLog.recent, SessionLog.recent, h.all_eq]
  rw [agentEntries, agentEntries, ← logs, List.flatMap_def, List.flatMap_def]
  refine congrArg List.flatten (List.map_congr_left ?_)
  intro log mem
  rw [logEntries, logEntries, h.logLines_eq (SessionLog.mem_recent.mp mem).inDirectory]

/-- The status of a directory depends on that directory only. -/
theorem Status.of_congr (h : disk.AgreeOn disk' directory) (options : StatusOptions)
    (now : Instant) :
    Status.of disk options now directory = Status.of disk' options now directory := by
  have latest : SessionLog.latest? disk directory = SessionLog.latest? disk' directory := by
    rw [SessionLog.latest?, SessionLog.latest?, h.all_eq]
  rw [Status.of, Status.of, ← latest]
  cases found : SessionLog.latest? disk directory with
  | none => rfl
  | some log =>
      have log_mem := (SessionLog.latest?_eq_some_iff.mp found).inDirectory
      simp only [Disk.logTail, h.logLines_eq log_mem]

/-! ### The entries of one agent among those of all -/

/-- The entries of an agent are those of the lines of its recent logs. -/
theorem mem_agentEntries {disk : Disk} {options : FeedOptions} {now : Instant} {agent : Agent}
    {entry : Entry} :
    entry ∈ agentEntries disk options now agent ↔
      ∃ log : SessionLog,
        log.IsRecent disk agent.sessionDir options.window now options.windowNanos ∧
        ∃ line index, (disk.logLines log.path)[index]? = some line ∧
          EntryReader.read? ⟨agent, options.maxChars, now⟩ line log.fileName index =
            some entry := by
  simp only [agentEntries, List.mem_flatMap, SessionLog.mem_recent, logEntries, lineEntries,
    List.mem_filterMap, Prod.exists, List.mk_mem_zipIdx_iff_getElem?]

/-- An entry of an agent is that of a record. -/
theorem exists_entry?_of_mem_agentEntries {options : FeedOptions} {now : Instant} {agent : Agent}
    {entry : Entry} (h : entry ∈ agentEntries disk options now agent) :
    ∃ record file index,
      EntryReader.entry? ⟨agent, options.maxChars, now⟩ record file index = some entry := by
  obtain ⟨log, -, line, index, -, read⟩ := mem_agentEntries.mp h
  obtain ⟨record, -, shown⟩ := EntryReader.read?_eq_some_iff.mp read
  exact ⟨record, log.fileName, index, shown⟩

/-- An entry names the agent in whose logs it was found. -/
theorem agentId_of_mem_agentEntries {options : FeedOptions} {now : Instant} {agent : Agent}
    {entry : Entry} (h : entry ∈ agentEntries disk options now agent) :
    entry.agentId = agent.id := by
  obtain ⟨record, file, index, shown⟩ := exists_entry?_of_mem_agentEntries h
  obtain ⟨role, text, -, -, -, -, rfl⟩ := EntryReader.entry?_eq_some_iff.mp shown
  rfl

/-- Of what is found for an agent, all entries are of that agent. -/
theorem filter_agentId_eq_self {options : FeedOptions} {now : Instant} {agent : Agent} :
    (agentEntries disk options now agent).filter (fun entry => entry.agentId = agent.id) =
      agentEntries disk options now agent := by
  rw [List.filter_eq_self]
  intro entry mem
  exact decide_eq_true (agentId_of_mem_agentEntries mem)

/-- Of what is found for another agent, no entry is of the agent. -/
theorem filter_agentId_eq_nil {options : FeedOptions} {now : Instant} {agent other : Agent}
    (h : other.id ≠ agent.id) :
    (agentEntries disk options now other).filter (fun entry => entry.agentId = agent.id) = [] := by
  rw [List.filter_eq_nil_iff]
  intro entry mem
  rw [agentId_of_mem_agentEntries mem, decide_eq_true_eq]
  exact h

/-- In a roster with distinct identifiers, the entries of an agent are those found in its logs. -/
theorem filter_agentId_flatten {options : FeedOptions} {now : Instant} {roster : Roster}
    {agent : Agent} (distinct : (roster.map Agent.id).Nodup) (mem : agent ∈ roster) :
    (roster.map (agentEntries disk options now)).flatten.filter
        (fun entry => entry.agentId = agent.id) =
      agentEntries disk options now agent := by
  induction roster with
  | nil => cases mem
  | cons first rest ih =>
      obtain ⟨notMem, distinctRest⟩ := List.nodup_cons.mp distinct
      rw [List.map_cons, List.flatten_cons, List.filter_append]
      rcases List.mem_cons.mp mem with rfl | memRest
      · -- No agent of the rest has the identifier of the first.
        have others : (rest.map (agentEntries disk options now)).flatten.filter
            (fun entry => entry.agentId = agent.id) = [] := by
          rw [List.filter_flatten, List.flatten_eq_nil_iff, List.map_map]
          intro part memPart
          obtain ⟨other, memOther, rfl⟩ := List.mem_map.mp memPart
          refine filter_agentId_eq_nil fun same => notMem ?_
          exact same ▸ List.mem_map_of_mem memOther
        rw [filter_agentId_eq_self, others, List.append_nil]
      · have ne : first.id ≠ agent.id := fun same =>
          notMem (same ▸ List.mem_map_of_mem memRest)
        rw [filter_agentId_eq_nil ne, List.nil_append, ih distinctRest memRest]

namespace Feed

variable {options : FeedOptions} {now : Instant} {roster : Roster} {agent : Agent}

/-- The number of entries of an agent in the feed is that of the entries found in its logs. -/
theorem length_filter_uncapped (distinct : (roster.map Agent.id).Nodup) (mem : agent ∈ roster) :
    ((uncapped disk options now roster).filter fun entry => entry.agentId = agent.id).length =
      (agentEntries disk options now agent).length := by
  rw [uncapped, ← sorted_filter, filter_agentId_flatten distinct mem]
  exact (isFeedOrder_sorted _).perm.length_eq

/-- The feed without the entries of an agent depends on the directories of the others only. -/
theorem filter_uncapped_congr
    (agree : ∀ other ∈ roster, other.id ≠ agent.id → disk.AgreeOn disk' other.sessionDir) :
    (uncapped disk options now roster).filter (fun entry => ¬ entry.agentId = agent.id) =
      (uncapped disk' options now roster).filter fun entry => ¬ entry.agentId = agent.id := by
  rw [uncapped, uncapped, ← sorted_filter, ← sorted_filter, List.filter_flatten,
    List.filter_flatten, List.map_map, List.map_map]
  refine congrArg (fun parts => sorted parts.flatten) (List.map_congr_left ?_)
  intro other mem
  rw [Function.comp_apply, Function.comp_apply]
  by_cases same : other.id = agent.id
  · have nothing : ∀ disk : Disk, (agentEntries disk options now other).filter
        (fun entry => ¬ entry.agentId = agent.id) = [] := by
      intro disk
      rw [List.filter_eq_nil_iff]
      intro entry memEntry
      simp [agentId_of_mem_agentEntries memEntry, same]
    rw [nothing disk, nothing disk']
  · rw [agentEntries_congr (agree other mem same)]

/-- **The logs of one agent disturb nothing of the others.** Of two disks that agree on the session
directories of all agents of a roster but one, the feeds without the entries of that agent are the
same, in the same order; the totals differ by what is found for the agent; and the statuses of the
other agents are the same. -/
theorem others_eq_of_agreeOn (distinct : (roster.map Agent.id).Nodup) (mem : agent ∈ roster)
    (agree : ∀ other ∈ roster, other ≠ agent → disk.AgreeOn disk' other.sessionDir)
    (options : FeedOptions) (now : Instant) :
    (uncapped disk options now roster).filter (fun entry => entry.agentId ≠ agent.id) =
      (uncapped disk' options now roster).filter (fun entry => entry.agentId ≠ agent.id) ∧
    ((of disk options now roster).total : Int) - (of disk' options now roster).total =
      (agentEntries disk options now agent).length -
        (agentEntries disk' options now agent).length ∧
    ∀ other ∈ roster, other ≠ agent → ∀ statusOptions : StatusOptions,
      AgentStatus.of disk statusOptions now other =
        AgentStatus.of disk' statusOptions now other := by
  have others : (uncapped disk options now roster).filter
        (fun entry => ¬ entry.agentId = agent.id) =
      (uncapped disk' options now roster).filter fun entry => ¬ entry.agentId = agent.id :=
    filter_uncapped_congr fun other memOther ne =>
      agree other memOther fun same => ne (congrArg Agent.id same)
  refine ⟨others, ?_, ?_⟩
  · -- Either total is made of the entries of the agent and those of the others.
    have parts : ∀ disk : Disk, (of disk options now roster).total =
        (agentEntries disk options now agent).length +
          ((uncapped disk options now roster).filter
            fun entry => ¬ entry.agentId = agent.id).length := by
      intro disk
      rw [← length_filter_uncapped distinct mem, of_eq_take_uncapped]
      have split := List.length_eq_length_filter_add
        (l := uncapped disk options now roster) fun entry => decide (entry.agentId = agent.id)
      simpa using split
    rw [parts disk, parts disk', others]
    omega
  · intro other memOther ne statusOptions
    rw [AgentStatus.of, AgentStatus.of, Status.of_congr (agree other memOther ne)]

/-- Two agents with one log each, and the same after the directory of one of them is gone. -/
theorem others_eq_of_agreeOn_missing :
    let scout : Agent := ⟨"scout", "Scout", "#888", .ofString "/scout"⟩
    let clerk : Agent := ⟨"clerk", "Clerk", "#888", .ofString "/clerk"⟩
    let line := "\x7b\"type\":\"message\",\"message\":" ++
      "\x7b\"role\":\"user\",\"content\":\"Hello\"\x7d\x7d"
    let disk := Disk.ofFile (Text.Utf8.encode "a.jsonl".toList) (Text.Utf8.encode line.toList)
      (.ofInstant (.ofMinutes 0))
    let disk' := { disk with
      list? := fun path => if path = scout.sessionDir then none else disk.list? path }
    let now := Instant.ofMinutes 1
    (([scout, clerk].map Agent.id).Nodup ∧ scout ∈ [scout, clerk] ∧
      ∀ other ∈ [scout, clerk], other ≠ scout → disk.AgreeOn disk' other.sessionDir) ∧
    (agentEntries disk {} now scout).map (·.id) = ["scout-a.jsonl-0"] ∧
    (agentEntries disk' {} now scout).map (·.id) = [] ∧
    ((of disk {} now [scout, clerk]).total : Int) - (of disk' {} now [scout, clerk]).total = 1 ∧
    AgentStatus.of disk {} now clerk = AgentStatus.of disk' {} now clerk := by
  intro scout clerk line disk disk' now
  have distinct : ([scout, clerk].map Agent.id).Nodup := by decide
  have mem : scout ∈ [scout, clerk] := List.mem_cons_self
  have agree : ∀ other ∈ [scout, clerk], other ≠ scout → disk.AgreeOn disk' other.sessionDir := by
    intro other memOther ne
    obtain rfl | rfl : other = scout ∨ other = clerk := by simpa using memOther
    · exact absurd rfl ne
    · have other_dir : clerk.sessionDir ≠ scout.sessionDir := by decide +kernel
      have listed : disk.list? clerk.sessionDir = disk'.list? clerk.sessionDir := by
        change disk.list? clerk.sessionDir =
          if clerk.sessionDir = scout.sessionDir then none else disk.list? clerk.sessionDir
        rw [if_neg other_dir]
      refine ⟨fun name => ?_, fun _ _ => rfl, fun _ _ => rfl⟩
      rw [Disk.Lists, Disk.Lists, listed]
  have found : (agentEntries disk {} now scout).map (·.id) = ["scout-a.jsonl-0"] := by
    decide +kernel
  have missing : (agentEntries disk' {} now scout).map (·.id) = [] := by decide +kernel
  obtain ⟨-, totals, statuses⟩ := others_eq_of_agreeOn distinct mem agree {} now
  have one : (agentEntries disk {} now scout).length = 1 := by
    simpa using congrArg List.length found
  have none : (agentEntries disk' {} now scout).length = 0 := by
    simpa using congrArg List.length missing
  rw [one, none] at totals
  refine ⟨⟨distinct, mem, agree⟩, found, missing, totals, ?_⟩
  exact statuses clerk (by simp) (by decide) {}

end Feed

end FleetWatch
