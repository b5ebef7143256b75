import FleetWatch.Proofs.Disk.Reordering
import FleetWatch.Proofs.Session.AgentIsolation

/-!
# The order of listings

A directory is listed in no particular order, and by the time its names are looked at some of them
may be gone. Which logs are found, and all that is made of them, is the same for every order; and
names that are gone take only their own logs away.

## Main Definitions

* `Disk.Loses` — a disk on which the files of some names in a directory are gone

## Design Notes

That the feed and the status are the same for every order is not a matter of sets of logs: an entry
without an identifier is named for its place in its log, entries of one instant stay in the order in
which they are found, and of several logs of one time the last is the latest. All this goes by the
order of names, in which the logs of a directory are put before anything is made of them.
-/

namespace FleetWatch

variable {disk disk' : Disk} {directory : Path}

namespace Disk

/-- Disks that differ in the order of their listings at most list the same names. -/
theorem Reorders.lists_iff (h : disk.Reorders disk') (name : List UInt8) :
    disk.Lists directory name ↔ disk'.Lists directory name := by
  have listings := h.list?_perm directory
  unfold Lists
  generalize disk.list? directory = listed at listings
  generalize disk'.list? directory = listed' at listings
  cases listings with
  | none => exact Iff.rfl
  | some perm => simp [perm.mem_iff]

/-- Disks that differ in the order of their listings at most agree on every directory. -/
theorem Reorders.agreeOn (h : disk.Reorders disk') (directory : Path) :
    disk.AgreeOn disk' directory where
  lists_iff := h.lists_iff
  state?_eq name _ := h.state?_eq (directory.child name)
  read_eq name _ := h.read_eq (directory.child name)

/-- **A disk on which the files of some names in a directory are gone.** They may still be listed,
in any order, or not; the files of all other names are as before. -/
structure Loses (disk disk' : Disk) (directory : Path) (gone : List UInt8 → Bool) : Prop where
  lists_iff : ∀ name, gone name = false →
    (disk'.Lists directory name ↔ disk.Lists directory name)
  state?_eq : ∀ name, gone name = false → disk.Lists directory name →
    disk'.state? (directory.child name) = disk.state? (directory.child name)
  read_eq : ∀ name, gone name = false → disk.Lists directory name →
    disk'.read (directory.child name) = disk.read (directory.child name)
  state?_of_gone : ∀ name, gone name = true → disk'.Lists directory name →
    disk'.state? (directory.child name) = none

namespace Loses

variable {gone : List UInt8 → Bool} (h : disk.Loses disk' directory gone)
include h

/-- What is left are the logs of names that are not gone. -/
theorem inDirectory_iff {log : SessionLog} :
    log.InDirectory disk' directory ↔
      log.InDirectory disk directory ∧ gone log.name = false := by
  constructor
  · intro left
    have kept : gone log.name = false := by
      rw [← Bool.not_eq_true]
      intro lost
      have state := left.regular
      rw [left.path_eq, h.state?_of_gone log.name lost left.listed] at state
      cases state
    have listed := (h.lists_iff log.name kept).mp left.listed
    refine ⟨⟨listed, left.named, left.path_eq, ?_⟩, kept⟩
    rw [left.path_eq, ← h.state?_eq log.name kept listed, ← left.path_eq]
    exact left.regular
  · rintro ⟨before, kept⟩
    refine ⟨(h.lists_iff log.name kept).mpr before.listed, before.named, before.path_eq, ?_⟩
    rw [before.path_eq, h.state?_eq log.name kept before.listed, ← before.path_eq]
    exact before.regular

/-- **Names that are gone take only their own logs away**, and leave the others in order. -/
theorem all_eq_filter :
    SessionLog.all disk' directory =
      (SessionLog.all disk directory).filter fun log => !gone log.name := by
  refine SessionLog.eq_of_mem_iff (SessionLog.all_pairwise disk' directory)
    ((SessionLog.all_pairwise disk directory).filter _) ?_
  intro log
  simp only [List.mem_filter, SessionLog.mem_all, h.inDirectory_iff, Bool.not_eq_true']

theorem recent_eq_filter (window : Nat) (now : Instant) (nanos : Nat) :
    SessionLog.recent disk' directory window now nanos =
      (SessionLog.recent disk directory window now nanos).filter fun log => !gone log.name := by
  unfold SessionLog.recent
  rw [h.all_eq_filter]
  split
  · rfl
  · rw [List.filter_filter, List.filter_filter]
    simp only [Bool.and_comm]

end Loses

end Disk

/-- Names that are gone take only the entries of their own logs away. -/
theorem agentEntries_of_loses {gone : List UInt8 → Bool} {agent : Agent}
    (h : disk.Loses disk' agent.sessionDir gone) (options : FeedOptions) (now : Instant) :
    agentEntries disk' options now agent =
      ((SessionLog.recent disk agent.sessionDir options.window now options.windowNanos).filter
        fun log => !gone log.name).flatMap (logEntries disk ⟨agent, options.maxChars, now⟩) := by
  rw [agentEntries, h.recent_eq_filter, List.flatMap_def, List.flatMap_def]
  refine congrArg List.flatten (List.map_congr_left ?_)
  intro log mem
  obtain ⟨recent, kept⟩ := List.mem_filter.mp mem
  have found := (SessionLog.mem_recent.mp recent).inDirectory
  have read := h.read_eq log.name (by simpa using kept) found.listed
  rw [← found.path_eq] at read
  rw [logEntries, logEntries, Disk.logLines, Disk.logLines, read]

/-- **Which logs are found does not depend on the order of listings.** They stand in the order of
their names, each once, and are the listed names that are the bytes of a text with the ending of
logs and lead to a regular file; names that are gone, or whose state cannot be told, are missing and
change nothing else. So the recent logs, the latest one, which of several logs of one time is the
last by name, the entries of an agent with their identifiers and the status are the same for every
order. -/
theorem SessionLog.all_of_reorders (h : disk.Reorders disk') (directory : Path) :
    all disk directory = all disk' directory ∧
    (all disk directory).Pairwise (fun a b => a.name < b.name) ∧
    (∀ log : SessionLog, log ∈ all disk directory ↔
      disk.Lists directory log.name ∧
      (∃ stem, log.name = Text.Utf8.encode (stem ++ ".jsonl".toList)) ∧
      log.path = directory.child log.name ∧
      disk.state? log.path = some ⟨.regular, log.modified⟩) ∧
    (∀ (later : Disk) (gone : List UInt8 → Bool), disk.Loses later directory gone →
      all later directory = (all disk directory).filter (fun log => !gone log.name) ∧
      ∀ (agent : Agent) options now, agent.sessionDir = directory →
        agentEntries later options now agent =
          ((recent disk directory options.window now options.windowNanos).filter
            fun log => !gone log.name).flatMap
              (logEntries disk ⟨agent, options.maxChars, now⟩)) ∧
    (∀ window now nanos,
      recent disk directory window now nanos = recent disk' directory window now nanos) ∧
    latest? disk directory = latest? disk' directory ∧
    (∀ log ∈ latest? disk directory, ∀ other ∈ all disk directory,
      other.modified.nanos < log.modified.nanos ∨
        other.modified.nanos = log.modified.nanos ∧ other.name ≤ log.name) ∧
    (∀ agent options now,
      agentEntries disk options now agent = agentEntries disk' options now agent) ∧
    ∀ options now,
      Status.of disk options now directory = Status.of disk' options now directory := by
  have agree := h.agreeOn directory
  refine ⟨agree.all_eq, all_pairwise disk directory, ?_, ?_, ?_, ?_, ?_, ?_, ?_⟩
  · intro log
    rw [mem_all]
    constructor
    · intro found
      exact ⟨found.listed, isLogName_iff.mp found.named, found.path_eq, found.regular⟩
    · rintro ⟨listed, named, path, regular⟩
      exact ⟨listed, isLogName_iff.mpr named, path, regular⟩
  · intro later gone lost
    refine ⟨lost.all_eq_filter, ?_⟩
    rintro agent options now rfl
    exact agentEntries_of_loses lost options now
  · intro window now nanos
    rw [recent, recent, agree.all_eq]
  · rw [latest?, latest?, agree.all_eq]
  · intro log found other mem
    exact (latest?_eq_some_iff.mp found).latest other (mem_all.mp mem)
  · intro agent options now
    exact agentEntries_congr (h.agreeOn agent.sessionDir) options now
  · intro options now
    exact Status.of_congr agree options now

/-- A directory with two logs of one time, a name that leads nowhere, a directory with the name of a
log, and names that are not those of logs, listed forwards and backwards; the same after one of the
logs is gone; and a volume with links, one to a log and one that leads nowhere. -/
theorem SessionLog.all_of_reorders_reversed :
    let directory := Path.ofString "/scout"
    let name (text : String) := Text.Utf8.encode text.toList
    let time := FileTime.ofInstant (.ofMinutes 0)
    let names := [name "b.jsonl", name "gone.jsonl", 0xFF :: name "c.jsonl", name "a.jsonl",
      name "notes.txt", name "d.jsonl"]
    let disk (names : List (List UInt8)) : Disk :=
      { state? := fun path =>
          if path = directory.child (name "gone.jsonl") then none
          else if path = directory.child (name "d.jsonl") then some ⟨.directory, time⟩
          else some ⟨.regular, time⟩
        read := fun _ => .ok []
        list? := fun _ => some (.ofNames names) }
    let log (text : String) : SessionLog := ⟨directory.child (name text), name text, time⟩
    let later := { disk names with
      state? := fun path =>
        if path = directory.child (name "b.jsonl") then none else (disk names).state? path }
    let files := [(name "b.jsonl", Volume.Node.link (.ofString "a.jsonl")),
      (name "gone.jsonl", .link (.ofString "nowhere")), (name "a.jsonl", .file [] time)]
    let volume (files : List (List UInt8 × Volume.Node)) : Volume := ⟨.directory files time⟩
    (disk names).Reorders (disk names.reverse) ∧
    all (disk names) directory = [log "a.jsonl", log "b.jsonl"] ∧
    latest? (disk names) directory = some (log "b.jsonl") ∧
    all later directory = [log "a.jsonl"] ∧
    all ((volume files).disk []) (.ofString "/") =
      all ((volume files.reverse).disk []) (.ofString "/") := by
  intro directory name time names disk log later files volume
  have reorders : (disk names).Reorders (disk names.reverse) :=
    ⟨fun _ => rfl, fun _ => rfl, fun _ => .some (Listing.perm_ofNames names.reverse_perm.symm)⟩
  -- Backwards, the two logs happen to be found in the order of their names.
  have found : (Listing.ofNames names.reverse).names.filterMap
      (ofName? (disk names.reverse) directory) = [log "a.jsonl", log "b.jsonl"] := by
    decide +kernel
  have backwards : all (disk names.reverse) directory = [log "a.jsonl", log "b.jsonl"] := by
    show List.mergeSort _ _ = _
    rw [found]
    exact List.mergeSort_of_pairwise (by decide +kernel)
  have loses : (disk names).Loses later directory fun other => other == name "b.jsonl" := by
    refine ⟨fun _ _ => Iff.rfl, ?_, fun _ _ _ => rfl, ?_⟩
    · rintro other kept ⟨listing, listed, mem⟩
      cases listed
      have distinct : ∀ other ∈ names, other ≠ name "b.jsonl" →
          directory.child other ≠ directory.child (name "b.jsonl") := by
        decide +kernel
      exact if_neg (distinct other (Listing.mem_ofNames.mp mem) (ne_of_beq_false kept))
    · intro other lost _
      rw [eq_of_beq lost]
      decide +kernel
  obtain ⟨same, -, -, gone, -, latest, -, -, -⟩ := all_of_reorders reorders directory
  have forwards := same.trans backwards
  refine ⟨reorders, forwards, ?_, ?_, ?_⟩
  · rw [latest, latest?, backwards]
    decide +kernel
  · rw [(gone later _ loses).1, forwards]
    decide +kernel
  · have distinct : (files.map (·.1)).Nodup := by decide +kernel
    have turned : (volume files).root.Reorders (volume files.reverse).root :=
      .of_perm files.reverse_perm.symm distinct
    exact (all_of_reorders (Volume.disk_reorders turned []) (.ofString "/")).1

end FleetWatch
