import FleetWatch.Proofs.Session.AppendOnly

/-!
# The order of the feed

What the feed of a roster holds, and in which order. The entries are found by going through agents,
logs and lines; the feed rearranges them by the instants of their timestamps and shows the first
of them.

## Main Definitions

* `ReadsAs` — the entries of successive lines of bytes, with the positions of the lines
* `LogFound`, `AgentFound`, `Found` — the entries found in a log, for an agent and for a roster
* `IsFeedOrder` — entries rearranged newest first, without changing the order of equal instants
* `Feed.uncapped` — all entries of a roster in the order of the feed

## Design Notes

`Found` says what is found without saying how: the logs of an agent are given by which they are
and by the order of their names, and the entries of a log by one rule for each kind of line. The
lines are those of the bytes, each read as text on its own. A line that is not shown takes a
position too, but a blank line does not.
-/

namespace FleetWatch

open Text

/-! ### Newest first -/

namespace Feed

theorem newerOrSame_iff {a b : Option Instant} :
    newerOrSame a b = true ↔ ∀ tb, b = some tb → ∃ ta, a = some ta ∧ tb.le ta = true := by
  cases a <;> cases b <;> simp [newerOrSame]

theorem newerOrSame_trans (a b c : Option Instant) (hab : newerOrSame a b = true)
    (hbc : newerOrSame b c = true) : newerOrSame a c = true := by
  rw [newerOrSame_iff] at hab hbc ⊢
  intro tc htc
  obtain ⟨tb, htb, hcb⟩ := hbc tc htc
  obtain ⟨ta, hta, hba⟩ := hab tb htb
  exact ⟨ta, hta, Instant.le_trans hcb hba⟩

theorem newerOrSame_total (a b : Option Instant) :
    (newerOrSame a b || newerOrSame b a) = true := by
  cases a with
  | none => cases b <;> rfl
  | some ta =>
      cases b with
      | none => rfl
      | some tb => simpa [newerOrSame] using Instant.le_total tb ta

theorem newerOrSame_antisymm {a b : Option Instant} (hab : newerOrSame a b = true)
    (hba : newerOrSame b a = true) : a = b := by
  cases a with
  | none =>
      cases b with
      | none => rfl
      | some tb => cases hab
  | some ta =>
      cases b with
      | none => cases hba
      | some tb => exact congrArg some (Instant.le_antisymm hba hab)

/-- The order of entries by their instants. -/
def entryLE (a b : Entry) : Bool :=
  newerOrSame a.instant? b.instant?

theorem entryLE_trans (a b c : Entry) (hab : entryLE a b = true) (hbc : entryLE b c = true) :
    entryLE a c = true :=
  newerOrSame_trans _ _ _ hab hbc

theorem entryLE_total (a b : Entry) : (entryLE a b || entryLE b a) = true :=
  newerOrSame_total _ _

/-- Reading each instant once makes no difference. -/
theorem sorted_eq_mergeSort (entries : List Entry) :
    sorted entries = entries.mergeSort entryLE := by
  have decorated : (entries.map fun entry => (entry.instant?, entry)).mergeSort
      (fun a b => newerOrSame a.1 b.1) =
      (entries.mergeSort entryLE).map fun entry => (entry.instant?, entry) := by
    symm
    apply List.map_mergeSort
    intro a _ b _
    rw [entryLE]
  rw [sorted, decorated, List.map_map]
  exact List.map_id _

/-- **Entries rearranged newest first.** Nothing is lost or doubled; the instants do not increase,
and what has none comes last; entries of one instant, and those without any, stay in the order in
which they were found. -/
structure IsFeedOrder (found order : List Entry) : Prop where
  perm : order.Perm found
  newest_first : order.Pairwise fun a b =>
    ∀ tb, b.instant? = some tb → ∃ ta, a.instant? = some ta ∧ tb.le ta = true
  stable : ∀ instant : Option Instant,
    order.filter (fun entry => entry.instant? = instant) =
      found.filter fun entry => entry.instant? = instant

/-- Sorting keeps the order of entries of one instant: they are in order already, so they are a
part of the sorted list, and there are no others of that instant. -/
theorem filter_sorted (entries : List Entry) (instant : Option Instant) :
    (sorted entries).filter (fun entry => entry.instant? = instant) =
      entries.filter fun entry => entry.instant? = instant := by
  rw [sorted_eq_mergeSort]
  -- Entries of one instant are in order as they are, so the sort keeps them as a sublist.
  have same : (entries.filter fun entry => entry.instant? = instant).Pairwise
      fun a b => entryLE a b = true := by
    refine List.pairwise_of_forall_mem_list ?_
    intro a ha b hb
    have ha' : a.instant? = instant := by simpa using (List.mem_filter.mp ha).2
    have hb' : b.instant? = instant := by simpa using (List.mem_filter.mp hb).2
    simpa [entryLE, ha', hb'] using newerOrSame_total instant instant
  have part := (List.sublist_mergeSort entryLE_trans entryLE_total same
    List.filter_sublist).filter fun entry => entry.instant? = instant
  rw [List.filter_filter] at part
  simp only [Bool.and_self] at part
  -- No entry of that instant is missing from the sublist, since the two are equally long.
  refine (part.eq_of_length_le ?_).symm
  exact ((List.mergeSort_perm entries entryLE).filter _).length_eq.le

theorem isFeedOrder_sorted (entries : List Entry) : IsFeedOrder entries (sorted entries) where
  perm := by
    rw [sorted_eq_mergeSort]
    exact List.mergeSort_perm entries entryLE
  newest_first := by
    rw [sorted_eq_mergeSort]
    refine (List.pairwise_mergeSort entryLE_trans entryLE_total entries).imp ?_
    intro a b le
    exact newerOrSame_iff.mp le
  stable := filter_sorted entries

/-- Two lists have the same entries of each instant, in the same order. -/
def SameByInstant (order order' : List Entry) : Prop :=
  ∀ instant : Option Instant, order.filter (fun entry => entry.instant? = instant) =
    order'.filter fun entry => entry.instant? = instant

theorem SameByInstant.mem_iff {order order' : List Entry} (h : SameByInstant order order')
    (entry : Entry) : entry ∈ order ↔ entry ∈ order' := by
  have members := congrArg (entry ∈ ·) (h entry.instant?)
  simpa using members

/-- Lists with the same entries of each instant have the same first one, if their first ones are of
one instant, and the same is true of what is behind it. -/
theorem SameByInstant.of_cons {first first' : Entry} {rest rest' : List Entry}
    (h : SameByInstant (first :: rest) (first' :: rest'))
    (instant : first'.instant? = first.instant?) : first = first' ∧ SameByInstant rest rest' := by
  have heads := h first.instant?
  rw [List.filter_cons_of_pos (by simp), List.filter_cons_of_pos (by simp [instant])] at heads
  obtain ⟨rfl, -⟩ := List.cons.inj heads
  refine ⟨rfl, fun instant => ?_⟩
  have parts := h instant
  by_cases same : first.instant? = instant
  · rw [List.filter_cons_of_pos (by simp [same]), List.filter_cons_of_pos (by simp [same])]
      at parts
    exact (List.cons.inj parts).2
  · rwa [List.filter_cons_of_neg (by simp [same]), List.filter_cons_of_neg (by simp [same])]
      at parts

/-- The first of entries that are in order is as new as any of them. -/
theorem entryLE_first {first entry : Entry} {rest : List Entry}
    (h : (first :: rest).Pairwise fun a b => entryLE a b = true) (mem : entry ∈ first :: rest) :
    entryLE first entry = true := by
  rcases List.mem_cons.mp mem with rfl | mem
  · simpa using entryLE_total entry entry
  · exact (List.pairwise_cons.mp h).1 entry mem

/-- Entries in the order of their instants are determined by the order within each instant: the
first entry of either list is as new as that of the other, so both are the first one of their
instant. -/
theorem SameByInstant.eq {order order' : List Entry} (h : SameByInstant order order')
    (sorted : order.Pairwise fun a b => entryLE a b = true)
    (sorted' : order'.Pairwise fun a b => entryLE a b = true) : order = order' := by
  induction order generalizing order' with
  | nil =>
      symm
      rw [List.eq_nil_iff_forall_not_mem]
      intro entry mem
      exact absurd ((h.mem_iff entry).mpr mem) List.not_mem_nil
  | cons first rest ih =>
      cases order' with
      | nil => exact absurd ((h.mem_iff first).mp List.mem_cons_self) List.not_mem_nil
      | cons first' rest' =>
          have le := entryLE_first sorted ((h.mem_iff first').mpr List.mem_cons_self)
          have le' := entryLE_first sorted' ((h.mem_iff first).mp List.mem_cons_self)
          obtain ⟨rfl, same⟩ := h.of_cons (newerOrSame_antisymm le' le)
          rw [ih same (List.pairwise_cons.mp sorted).2 (List.pairwise_cons.mp sorted').2]

/-- **What is found has one order only.** -/
theorem IsFeedOrder.unique {found order order' : List Entry} (h : IsFeedOrder found order)
    (h' : IsFeedOrder found order') : order = order' := by
  have same : SameByInstant order order' := fun instant =>
    (h.stable instant).trans (h'.stable instant).symm
  refine same.eq ?_ ?_
  · exact h.newest_first.imp newerOrSame_iff.mpr
  · exact h'.newest_first.imp newerOrSame_iff.mpr

/-- **Leaving entries out keeps the order of the others.** -/
theorem IsFeedOrder.filter {found order : List Entry} (h : IsFeedOrder found order)
    (p : Entry → Bool) : IsFeedOrder (found.filter p) (order.filter p) where
  perm := h.perm.filter p
  newest_first := h.newest_first.filter p
  stable := by
    intro instant
    rw [List.filter_comm, h.stable instant, List.filter_comm]

/-- It makes no difference whether entries are left out before or after sorting. -/
theorem sorted_filter (p : Entry → Bool) (entries : List Entry) :
    sorted (entries.filter p) = (sorted entries).filter p :=
  (isFeedOrder_sorted (entries.filter p)).unique ((isFeedOrder_sorted entries).filter p)

/-! ### All entries of a feed -/

/-- All entries of a roster in the order of the feed, however many may be shown. -/
def uncapped (disk : Disk) (options : FeedOptions) (now : Instant) (roster : Roster) :
    List Entry :=
  sorted (roster.map (agentEntries disk options now)).flatten

/-- **The feed shows the first of all entries**, and says how many there are. -/
theorem of_eq_take_uncapped (disk : Disk) (options : FeedOptions) (now : Instant)
    (roster : Roster) :
    of disk options now roster =
      ⟨(uncapped disk options now roster).take options.cap,
        (uncapped disk options now roster).length⟩ :=
  rfl

theorem mem_uncapped {disk : Disk} {options : FeedOptions} {now : Instant} {roster : Roster}
    {entry : Entry} :
    entry ∈ uncapped disk options now roster ↔
      ∃ agent ∈ roster, entry ∈ agentEntries disk options now agent := by
  rw [uncapped, (isFeedOrder_sorted _).perm.mem_iff]
  simp

end Feed

/-! ### What is found -/

/-- **The entries of successive lines of bytes**, the first of which stands at a position. A blank
line takes no position. Every other line takes one, also a line that is not shown. -/
inductive ReadsAs (reader : EntryReader) (file : String) :
    Nat → List (List UInt8) → List Entry → Prop
  | nil (index : Nat) : ReadsAs reader file index [] []
  | blank {index : Nat} {line : List UInt8} {lines : List (List UInt8)} {entries : List Entry}
      (isBlank : allBlank (Utf8.decodeLossy line) = true)
      (rest : ReadsAs reader file index lines entries) :
      ReadsAs reader file index (line :: lines) entries
  | shown {index : Nat} {line : List UInt8} {lines : List (List UInt8)} {entry : Entry}
      {entries : List Entry} (notBlank : allBlank (Utf8.decodeLossy line) = false)
      (read : reader.read? (String.ofList (Utf8.decodeLossy line)) file index = some entry)
      (rest : ReadsAs reader file (index + 1) lines entries) :
      ReadsAs reader file index (line :: lines) (entry :: entries)
  | skipped {index : Nat} {line : List UInt8} {lines : List (List UInt8)} {entries : List Entry}
      (notBlank : allBlank (Utf8.decodeLossy line) = false)
      (read : reader.read? (String.ofList (Utf8.decodeLossy line)) file index = none)
      (rest : ReadsAs reader file (index + 1) lines entries) :
      ReadsAs reader file index (line :: lines) entries

/-- The entries of lines are those of the texts of the lines that are not blank, each read at its
position among them. -/
theorem readsAs_iff {reader : EntryReader} {file : String} {index : Nat}
    {lines : List (List UInt8)} {entries : List Entry} :
    ReadsAs reader file index lines entries ↔
      ((shownLines (lines.map Utf8.decodeLossy)).zipIdx index).filterMap
        (fun (line, i) => reader.read? line file i) = entries := by
  induction lines generalizing index entries with
  | nil =>
      constructor
      · rintro ⟨⟩
        rfl
      · rintro rfl
        exact .nil index
  | cons line lines ih =>
      -- Whether the line is blank decides which rules can apply, and where the next line stands.
      rw [List.map_cons]
      cases counted : allBlank (Utf8.decodeLossy line) with
      | true =>
          rw [shownLines_cons_of_blank _ counted]
          constructor
          · intro h
            cases h with
            | blank _ rest => exact ih.mp rest
            | shown notBlank => exact absurd counted (ne_true_of_eq_false notBlank)
            | skipped notBlank => exact absurd counted (ne_true_of_eq_false notBlank)
          · exact fun h => .blank counted (ih.mpr h)
      | false =>
          rw [shownLines_cons_of_not_blank _ counted, List.zipIdx_cons, List.filterMap_cons]
          constructor
          · intro h
            cases h with
            | blank isBlank => exact absurd isBlank (ne_true_of_eq_false counted)
            | shown _ read rest => simp only [read, ih.mp rest]
            | skipped _ read rest => simp only [read, ih.mp rest]
          · intro h
            cases read : reader.read? (String.ofList (Utf8.decodeLossy line)) file index with
            | none =>
                simp only [read] at h
                exact .skipped counted read (ih.mpr h)
            | some entry =>
                simp only [read] at h
                subst h
                exact .shown counted read (ih.mpr rfl)

/-- **The entries found in a log**: those of the lines of its bytes, from the first on. A log that
cannot be read has none. -/
inductive LogFound (disk : Disk) (reader : EntryReader) (log : SessionLog) : List Entry → Prop
  | unreadable {cause : ReadError} (fails : disk.read log.path = .error cause) :
      LogFound disk reader log []
  | read {bytes : List UInt8} {entries : List Entry} (holds : disk.read log.path = .ok bytes)
      (lines : ReadsAs reader log.fileName 0 (segments 0x0A bytes) entries) :
      LogFound disk reader log entries

/-- What is found in a log is what `logEntries` gives. -/
theorem logFound_iff {disk : Disk} {reader : EntryReader} {log : SessionLog}
    {entries : List Entry} :
    LogFound disk reader log entries ↔ logEntries disk reader log = entries := by
  cases holds : disk.read log.path with
  | error cause =>
      have noEntries : logEntries disk reader log = [] := by
        rw [logEntries, Disk.logLines, holds]
        rfl
      rw [noEntries]
      constructor
      · intro h
        cases h with
        | unreadable => rfl
        | read holds' => cases holds.symm.trans holds'
      · rintro rfl
        exact .unreadable holds
  | ok bytes =>
      rw [logEntries_of_read reader holds, linesOfBytes_eq, lineEntries, ← readsAs_iff]
      constructor
      · intro h
        cases h with
        | unreadable fails => cases holds.symm.trans fails
        | read holds' lines =>
            cases holds.symm.trans holds'
            exact lines
      · exact .read holds

/-- **The entries found for an agent**: those of its recent logs in the order of their names. -/
def AgentFound (disk : Disk) (options : FeedOptions) (now : Instant) (agent : Agent)
    (entries : List Entry) : Prop :=
  ∃ (logs : List SessionLog) (perLog : List (List Entry)),
    (logs.Pairwise fun a b => a.name < b.name) ∧
    (∀ log, log ∈ logs ↔
      log.IsRecent disk agent.sessionDir options.window now options.windowNanos) ∧
    List.Forall₂ (LogFound disk ⟨agent, options.maxChars, now⟩) logs perLog ∧
    perLog.flatten = entries

/-- **The entries found for a roster**: those of its agents, in their order. -/
def Found (disk : Disk) (options : FeedOptions) (now : Instant) (roster : Roster)
    (entries : List Entry) : Prop :=
  ∃ perAgent : List (List Entry),
    List.Forall₂ (AgentFound disk options now) roster perAgent ∧ perAgent.flatten = entries

/-- A list that is related element by element to another by a function is its image. -/
theorem forall₂_iff_map_eq {α β : Type} {R : α → β → Prop} {f : α → β}
    (h : ∀ a b, R a b ↔ f a = b) (as : List α) (bs : List β) :
    List.Forall₂ R as bs ↔ as.map f = bs := by
  have relation : R = fun a b => f a = b := by
    funext a b
    exact propext (h a b)
  rw [relation, ← List.forall₂_map_left_iff, List.forall₂_eq_eq_eq]

/-- What is found for an agent is what `agentEntries` gives. -/
theorem agentFound_iff {disk : Disk} {options : FeedOptions} {now : Instant} {agent : Agent}
    {entries : List Entry} :
    AgentFound disk options now agent entries ↔ agentEntries disk options now agent = entries := by
  have perLog_iff := forall₂_iff_map_eq (R := LogFound disk ⟨agent, options.maxChars, now⟩)
    fun _ _ => logFound_iff
  have sorted := SessionLog.recent_pairwise disk agent.sessionDir options.window now
    options.windowNanos
  constructor
  · rintro ⟨logs, perLog, sorted', members, read, rfl⟩
    have same : logs =
        SessionLog.recent disk agent.sessionDir options.window now options.windowNanos :=
      SessionLog.eq_of_mem_iff sorted' sorted fun log => by
        rw [members, SessionLog.mem_recent]
    rw [← (perLog_iff logs perLog).mp read, agentEntries, List.flatMap_def, same]
  · rintro rfl
    exact ⟨_, _, sorted, fun _ => SessionLog.mem_recent, (perLog_iff _ _).mpr rfl, rfl⟩

/-- What is found for a roster is what its agents have, one after the other. -/
theorem found_iff {disk : Disk} {options : FeedOptions} {now : Instant} {roster : Roster}
    {entries : List Entry} :
    Found disk options now roster entries ↔
      (roster.map (agentEntries disk options now)).flatten = entries := by
  have perAgent_iff := forall₂_iff_map_eq (R := AgentFound disk options now)
    (fun _ _ => agentFound_iff) roster
  constructor
  · rintro ⟨perAgent, read, rfl⟩
    rw [(perAgent_iff perAgent).mp read]
  · rintro rfl
    exact ⟨_, (perAgent_iff _).mpr rfl, rfl⟩

/-- **The feed shows the first of what is found, newest first.** Exactly one list of entries is
found for a roster; its length is the total, and the entries shown are the first of it rearranged
into the order of the feed, as many as may be shown. -/
theorem Feed.of_eq_take_feedOrder (disk : Disk) (options : FeedOptions) (now : Instant)
    (roster : Roster) :
    ∃ found order : List Entry,
      (∀ entries, Found disk options now roster entries ↔ entries = found) ∧
      IsFeedOrder found order ∧
      (Feed.of disk options now roster).total = found.length ∧
      (Feed.of disk options now roster).entries = order.take (min options.cap found.length) := by
  have order := isFeedOrder_sorted (roster.map (agentEntries disk options now)).flatten
  refine ⟨_, _, fun entries => found_iff.trans eq_comm, order, ?_, ?_⟩
  · exact order.perm.length_eq
  · rw [← order.perm.length_eq, ← List.take_eq_take_min]
    rfl

/-- Two agents with one log each. In the first log a line is blank and takes no position, and a line
is no text and takes one. The newest entry comes in front; the two others are of one instant and
stay in the order in which they are found, and the last of them counts but is not shown. -/
theorem Feed.of_eq_take_feedOrder_two_agents :
    let said (millis text : String) := Utf8.encode ("\x7b\"type\":\"message\",\"timestamp\":" ++
      millis ++ ",\"message\":\x7b\"role\":\"user\",\"content\":\"" ++ text ++ "\"\x7d\x7d").toList
    let one := "1970-01-01T00:01:00.000Z"
    let two := "1970-01-01T00:02:00.000Z"
    let scout : Agent := ⟨"scout", "Scout", "#888", .ofString "/scout"⟩
    let clerk : Agent := ⟨"clerk", "Clerk", "#888", .ofString "/clerk"⟩
    let lines (path : Path) :=
      if path = .ofString "/scout/a.jsonl" then
        [said "60000" "First", [0x20], [0x7B, 0xFF], said "120000" "Second"]
      else [said "60000" "Third"]
    let disk := { Disk.ofFile (Utf8.encode "a.jsonl".toList) [] (.ofInstant (.ofMinutes 0)) with
      read := fun path => .ok (List.intercalate [0x0A] (lines path)) }
    let first : Entry := ⟨"scout-a.jsonl-0", "scout", "Scout", "#888", "user", "First", one, none⟩
    let second : Entry := ⟨"scout-a.jsonl-2", "scout", "Scout", "#888", "user", "Second", two, none⟩
    let third : Entry := ⟨"clerk-a.jsonl-0", "clerk", "Clerk", "#888", "user", "Third", one, none⟩
    Found disk { cap := 2 } (.ofMinutes 3) [scout, clerk] [first, second, third] ∧
    IsFeedOrder [first, second, third] [second, first, third] ∧
    Feed.of disk { cap := 2 } (.ofMinutes 3) [scout, clerk] = ⟨[second, first], 3⟩ := by
  intro said one two scout clerk lines disk first second third
  have isFound : Found disk { cap := 2 } (.ofMinutes 3) [scout, clerk] [first, second, third] :=
    found_iff.mpr (by decide +kernel)
  have rearranged : IsFeedOrder [first, second, third] [second, first, third] := by
    have sorted : [second, first, third].Pairwise fun a b => entryLE a b = true := by
      decide +kernel
    refine ⟨.swap first second [third], sorted.imp newerOrSame_iff.mp, fun instant => ?_⟩
    by_cases newest : second.instant? = instant
    · subst newest
      decide +kernel
    · simp [List.filter_cons, newest]
  obtain ⟨found, order, only, inOrder, total, shown⟩ :=
    Feed.of_eq_take_feedOrder disk { cap := 2 } (.ofMinutes 3) [scout, clerk]
  obtain rfl := (only _).mp isFound
  rw [inOrder.unique rearranged] at shown
  refine ⟨isFound, rearranged, ?_⟩
  calc Feed.of disk { cap := 2 } (.ofMinutes 3) [scout, clerk]
      = ⟨(Feed.of disk { cap := 2 } (.ofMinutes 3) [scout, clerk]).entries,
          (Feed.of disk { cap := 2 } (.ofMinutes 3) [scout, clerk]).total⟩ := rfl
    _ = ⟨[second, first], 3⟩ := by
      rw [shown, total]
      rfl

end FleetWatch
