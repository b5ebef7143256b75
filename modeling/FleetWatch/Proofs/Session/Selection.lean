import FleetWatch.Proofs.Text.Decoding
import FleetWatch.Session.Log
import Mathlib.Data.List.Sort

/-!
# The logs of a directory

Which files of a session directory are read, and in which order. The selectors go through the
names of a directory as they are listed, which is in no particular order; what they find depends
only on which names there are.

## Main Definitions

* `SessionLog.InDirectory` — a log of a directory
* `SessionLog.IsRecent` — a log that was modified within a window of time
* `SessionLog.IsLatest` — the log that was modified last, of several the last by name

## Design Notes

The logs of a directory are told apart by their names, and `SessionLog.all` is strictly increasing
by name. A list of logs that is strictly increasing by name is determined by its members
(`SessionLog.eq_of_mem_iff`), so the selectors are pinned down by saying which logs they hold.
-/

namespace FleetWatch

namespace FileTime

/-- A time that lies too early for a file lies before every time of a file. -/
theorem lt_of_before?_eq_none {time : FileTime} {seconds nanos : Nat}
    (h : time.before? seconds nanos = none) (other : FileTime) :
    time.nanos - (seconds * 1000000000 + nanos : Nat) < other.nanos := by
  have lower := other.le_nanos
  have upper := time.nanos_lt
  rw [before?, ofNanos?] at h
  split at h
  · cases h
  · omega

/-- The time some seconds and nanoseconds earlier, where a file can have it. -/
theorem nanos_of_before?_eq_some {time cutoff : FileTime} {seconds nanos : Nat}
    (h : time.before? seconds nanos = some cutoff) :
    cutoff.nanos = time.nanos - (seconds * 1000000000 + nanos : Nat) := by
  rw [before?, ofNanos?] at h
  split at h
  · cases h
    rfl
  · cases h

end FileTime

/-- The instant some minutes after the start of 1970. -/
def Instant.ofMinutes (minutes : Fin 60) : Instant where
  seconds := minutes.val * 60
  nanos := 0
  le_seconds := by omega
  seconds_le := by omega
  nanos_lt := by omega
  leap := by omega

/-- A disk on which every directory holds one file of a given name, with the same bytes and
modification time. -/
def Disk.ofFile (name bytes : List UInt8) (modified : FileTime) : Disk where
  state? _ := some ⟨.regular, modified⟩
  read _ := .ok bytes
  list? _ := some (.ofNames [name])

namespace SessionLog

variable {disk : Disk} {directory : Path}

/-! ### The order of names -/

theorem nameLE_iff {a b : List UInt8} : nameLE a b = true ↔ a ≤ b := by
  simp [nameLE]

theorem nameLE_trans (a b c : SessionLog) (hab : nameLE a.name b.name = true)
    (hbc : nameLE b.name c.name = true) : nameLE a.name c.name = true := by
  rw [nameLE_iff] at hab hbc ⊢
  exact List.le_trans hab hbc

theorem nameLE_total (a b : SessionLog) :
    (nameLE a.name b.name || nameLE b.name a.name) = true := by
  rw [Bool.or_eq_true, nameLE_iff, nameLE_iff]
  exact List.le_total a.name b.name

/-! ### The names of logs -/

/-- **The name of a log** holds the bytes of a text that ends like the names of logs. -/
theorem isLogName_iff {name : List UInt8} :
    isLogName name = true ↔ ∃ stem, name = Text.Utf8.encode (stem ++ extension.toList) := by
  unfold isLogName
  constructor
  · intro named
    split at named
    · cases named
    · next text read =>
      obtain ⟨stem, rfl⟩ := List.isSuffixOf_iff_suffix.mp named
      exact ⟨stem, Text.Utf8.decode?_eq_some_iff.mp read⟩
  · rintro ⟨stem, rfl⟩
    rw [Text.Utf8.decode?_eq_some_iff.mpr rfl]
    exact List.isSuffixOf_iff_suffix.mpr ⟨stem, rfl⟩

/-- The name of a log can be told from its text. -/
theorem encode_fileName {log : SessionLog} (named : isLogName log.name = true) :
    Text.Utf8.encode log.fileName.toList = log.name := by
  obtain ⟨stem, bytes⟩ := isLogName_iff.mp named
  rw [fileName, bytes, Text.Utf8.decodeLossy_encode, String.toList_ofList]

/-! ### The logs of a directory -/

/-- **A log of a directory**: a listed name that is well-formed text with the ending of logs, and
that leads to a regular file. -/
structure InDirectory (disk : Disk) (directory : Path) (log : SessionLog) : Prop where
  listed : ∃ listing, disk.list? directory = some listing ∧ log.name ∈ listing.names
  named : isLogName log.name = true
  path_eq : log.path = directory.child log.name
  regular : disk.state? log.path = some ⟨.regular, log.modified⟩

/-- The log of a name has that name, and is there for names of logs of regular files. -/
theorem ofName?_eq_some_iff {name : List UInt8} {log : SessionLog} :
    ofName? disk directory name = some log ↔
      log.name = name ∧ isLogName log.name = true ∧ log.path = directory.child log.name ∧
        disk.state? log.path = some ⟨.regular, log.modified⟩ := by
  obtain ⟨path, logName, modified⟩ := log
  dsimp only
  unfold ofName?
  constructor
  · intro h
    split at h
    · next named =>
      split at h
      · next found state =>
        cases h
        exact ⟨rfl, named, rfl, state⟩
      · cases h
    · cases h
  · rintro ⟨rfl, named, rfl, regular⟩
    rw [if_pos named, regular]

/-- A directory is read for exactly its logs. -/
theorem mem_all {log : SessionLog} : log ∈ all disk directory ↔ log.InDirectory disk directory := by
  unfold all
  cases listed : disk.list? directory with
  | none =>
      simp only [List.not_mem_nil, false_iff]
      rintro ⟨⟨listing, h, -⟩, -⟩
      rw [listed] at h
      cases h
  | some listing =>
      simp only [List.mem_mergeSort, List.mem_filterMap, ofName?_eq_some_iff]
      constructor
      · rintro ⟨name, mem, rfl, named, path, regular⟩
        exact ⟨⟨listing, listed, mem⟩, named, path, regular⟩
      · rintro ⟨⟨listing', h, mem⟩, named, path, regular⟩
        rw [listed] at h
        cases h
        exact ⟨log.name, mem, rfl, named, path, regular⟩

/-- Logs of one directory are told apart by their names. -/
theorem InDirectory.eq_of_name {a b : SessionLog} (ha : a.InDirectory disk directory)
    (hb : b.InDirectory disk directory) (h : a.name = b.name) : a = b := by
  obtain ⟨-, -, pathA, stateA⟩ := ha
  obtain ⟨-, -, pathB, stateB⟩ := hb
  have path : a.path = b.path := by rw [pathA, pathB, h]
  have modified : a.modified = b.modified := by
    rw [path, stateB] at stateA
    simpa using stateA.symm
  calc a = ⟨a.path, a.name, a.modified⟩ := rfl
    _ = ⟨b.path, b.name, b.modified⟩ := by rw [path, h, modified]
    _ = b := rfl

/-- **The logs of a directory are read in the order of their names**, each name once. -/
theorem all_pairwise (disk : Disk) (directory : Path) :
    (all disk directory).Pairwise fun a b => a.name < b.name := by
  unfold all
  cases disk.list? directory with
  | none => exact List.Pairwise.nil
  | some listing =>
      -- The sort gives `≤`; that no name is listed twice makes it `<`.
      have distinct : (listing.names.filterMap (ofName? disk directory)).Pairwise
          fun a b => a.name ≠ b.name := by
        rw [List.pairwise_filterMap]
        refine listing.nodup.imp ?_
        intro name name' ne a ha b hb
        rw [(ofName?_eq_some_iff.mp ha).1, (ofName?_eq_some_iff.mp hb).1]
        exact ne
      have sorted := List.pairwise_mergeSort nameLE_trans nameLE_total
        (listing.names.filterMap (ofName? disk directory))
      have distinct' := (List.mergeSort_perm (listing.names.filterMap (ofName? disk directory))
        fun a b => nameLE a.name b.name).symm.pairwise distinct fun h => h.symm
      refine (sorted.and distinct').imp ?_
      rintro a b ⟨le, ne⟩
      rw [nameLE_iff] at le
      by_contra notLt
      exact ne (List.le_antisymm le notLt)

/-- **Logs in the order of their names are determined by which they are.** -/
theorem eq_of_mem_iff {as bs : List SessionLog} (ha : as.Pairwise fun a b => a.name < b.name)
    (hb : bs.Pairwise fun a b => a.name < b.name) (h : ∀ log, log ∈ as ↔ log ∈ bs) : as = bs := by
  have irrefl : ∀ a b : SessionLog, a.name < b.name → a ≠ b := by
    rintro a b lt rfl
    exact List.lt_irrefl a.name lt
  have perm : as.Perm bs :=
    (List.perm_ext_iff_of_nodup (ha.imp (irrefl _ _)) (hb.imp (irrefl _ _))).mpr h
  refine perm.eq_of_pairwise ?_ ha hb
  intro a b _ _ hab hba
  exact absurd (List.lt_trans hab hba) (List.lt_irrefl a.name)

/-! ### Recent logs -/

/-- **A log that was modified within a window of time.** -/
structure IsRecent (disk : Disk) (directory : Path) (window : Nat) (now : Instant) (nanos : Nat)
    (log : SessionLog) : Prop where
  inDirectory : log.InDirectory disk directory
  fresh : (FileTime.ofInstant now).nanos - (window * 1000000000 + nanos : Nat) < log.modified.nanos

theorem mem_recent {window nanos : Nat} {now : Instant} {log : SessionLog} :
    log ∈ recent disk directory window now nanos ↔
      log.IsRecent disk directory window now nanos := by
  unfold recent
  cases cutoff : (FileTime.ofInstant now).before? window nanos with
  | none =>
      -- A cutoff too early for any file is one that every file passes.
      rw [mem_all]
      exact ⟨fun h => ⟨h, FileTime.lt_of_before?_eq_none cutoff _⟩, fun h => h.inDirectory⟩
  | some time =>
      simp only [List.mem_filter, decide_eq_true_eq, mem_all]
      rw [FileTime.nanos_of_before?_eq_some cutoff]
      exact ⟨fun h => ⟨h.1, h.2⟩, fun h => ⟨h.inDirectory, h.fresh⟩⟩

theorem recent_pairwise (disk : Disk) (directory : Path) (window : Nat) (now : Instant)
    (nanos : Nat) :
    (recent disk directory window now nanos).Pairwise fun a b => a.name < b.name := by
  unfold recent
  split
  · exact all_pairwise disk directory
  · exact (all_pairwise disk directory).filter _

/-! ### The latest log -/

/-- The order in which a log is chosen: by modification time, and for one time by name. -/
def NoLater (a b : SessionLog) : Prop :=
  a.modified.nanos < b.modified.nanos ∨ a.modified.nanos = b.modified.nanos ∧ a.name ≤ b.name

namespace NoLater

theorem refl (a : SessionLog) : a.NoLater a :=
  Or.inr ⟨rfl, List.le_refl a.name⟩

theorem trans {a b c : SessionLog} (hab : a.NoLater b) (hbc : b.NoLater c) : a.NoLater c := by
  rcases hab with lt | ⟨eq, le⟩ <;> rcases hbc with lt' | ⟨eq', le'⟩
  · exact Or.inl (Int.lt_trans lt lt')
  · exact Or.inl (eq' ▸ lt)
  · exact Or.inl (eq ▸ lt')
  · exact Or.inr ⟨eq.trans eq', List.le_trans le le'⟩

theorem antisymm_name {a b : SessionLog} (hab : a.NoLater b) (hba : b.NoLater a) :
    a.name = b.name := by
  rcases hab with lt | ⟨eq, le⟩ <;> rcases hba with lt' | ⟨eq', le'⟩
  · exact absurd lt' (Int.not_lt.mpr (Int.le_of_lt lt))
  · omega
  · omega
  · exact List.le_antisymm le le'

end NoLater

/-- **The log that was modified last**, of several the last by name. -/
structure IsLatest (disk : Disk) (directory : Path) (log : SessionLog) : Prop where
  inDirectory : log.InDirectory disk directory
  latest : ∀ other : SessionLog, other.InDirectory disk directory → other.NoLater log

/-- A directory has at most one latest log. -/
theorem IsLatest.unique {a b : SessionLog} (ha : a.IsLatest disk directory)
    (hb : b.IsLatest disk directory) : a = b :=
  ha.inDirectory.eq_of_name hb.inDirectory
    ((hb.latest a ha.inDirectory).antisymm_name (ha.latest b hb.inDirectory))

/-- Of two logs in the order of their names, both come up to the chosen one. -/
theorem later_spec {a b : SessionLog} (h : a.name < b.name) :
    (later a b = a ∨ later a b = b) ∧ a.NoLater (later a b) ∧ b.NoLater (later a b) := by
  unfold later
  split
  · next lt => exact ⟨Or.inl rfl, .refl a, Or.inl lt⟩
  · next notLt =>
    -- Of one time, `b` is chosen, and it is the later one by name.
    refine ⟨Or.inr rfl, ?_, .refl b⟩
    rcases Int.lt_or_eq_of_le (Int.not_lt.mp notLt) with lt | eq
    · exact Or.inl lt
    · exact Or.inr ⟨eq, List.le_of_lt h⟩

/-- A pass over logs in the order of their names keeps the last of those that were modified
last. -/
theorem foldl_later (logs : List SessionLog) (log : SessionLog)
    (sorted : (log :: logs).Pairwise fun a b => a.name < b.name) :
    logs.foldl later log ∈ log :: logs ∧
      ∀ other ∈ log :: logs, other.NoLater (logs.foldl later log) := by
  induction logs generalizing log with
  | nil =>
      refine ⟨List.mem_singleton_self log, ?_⟩
      intro other mem
      rw [List.mem_singleton.mp mem]
      exact .refl log
  | cons next logs ih =>
      obtain ⟨before, sorted'⟩ := List.pairwise_cons.mp sorted
      obtain ⟨chosen, first, second⟩ := later_spec (before next List.mem_cons_self)
      -- The two first logs make way for the later of them, which keeps the order of names.
      have sorted'' : (later log next :: logs).Pairwise fun a b => a.name < b.name := by
        rcases chosen with h | h
        · rw [h]
          exact sorted.sublist ((List.sublist_cons_self next logs).cons_cons log)
        · rw [h]
          exact sorted'
      obtain ⟨mem, upper⟩ := ih (later log next) sorted''
      rw [List.foldl_cons]
      have last := upper _ List.mem_cons_self
      constructor
      · rcases List.mem_cons.mp mem with h | h
        · rw [h]
          rcases chosen with h' | h' <;> simp [h']
        · exact List.mem_cons_of_mem _ (List.mem_cons_of_mem _ h)
      · intro other memOther
        rcases List.mem_cons.mp memOther with rfl | memOther
        · exact first.trans last
        · rcases List.mem_cons.mp memOther with rfl | memOther
          · exact second.trans last
          · exact upper other (List.mem_cons_of_mem _ memOther)

/-- **The selected log is the latest one.** -/
theorem latest?_eq_some_iff {log : SessionLog} :
    latest? disk directory = some log ↔ log.IsLatest disk directory := by
  have sorted := all_pairwise disk directory
  have isLatest : ∀ found, latest? disk directory = some found →
      found.IsLatest disk directory := by
    intro found h
    unfold latest? at h
    split at h
    · cases h
    · next first rest logs =>
      rw [logs] at sorted
      obtain ⟨mem, upper⟩ := foldl_later rest first sorted
      cases h
      constructor
      · exact mem_all.mp (logs ▸ mem)
      · intro other inDirectory
        exact upper other (logs ▸ mem_all.mpr inDirectory)
  constructor
  · exact isLatest log
  · intro h
    cases found : latest? disk directory with
    | none =>
        unfold latest? at found
        split at found
        · next logs => exact absurd (mem_all.mpr h.inDirectory) (by simp [logs])
        · cases found
    | some other => rw [(isLatest other found).unique h]

/-- No log is selected just when the directory has none. -/
theorem latest?_eq_none_iff :
    latest? disk directory = none ↔ ∀ log : SessionLog, ¬ log.InDirectory disk directory := by
  unfold latest?
  split
  · next logs => simp [← mem_all, logs]
  · next first rest logs =>
    simp only [reduceCtorEq, false_iff, not_forall, not_not]
    exact ⟨first, mem_all.mp (by simp [logs])⟩

end SessionLog

end FleetWatch
