import FleetWatch.Config.Options
import FleetWatch.Proofs.Session.AgentIsolation
import FleetWatch.Proofs.Session.AppendOnly

/-!
# Which agents can share an identifier

The identifier of an entry is that of its agent, a hyphen, and then what identifies the entry among
those of the agent. Identifiers of agents are free texts, and so are those of records, so a hyphen
in one of them can be taken for the one in between: the entry `b-x` of an agent `a` is called like
the entry `x` of an agent `a-b`. This module shows that this is the only way in which two agents get
into each other's way: it happens just if the identifier of one, with a hyphen behind it, is how
that of the other begins.

## Main Definitions

* `Agent.Overlaps` — the identifier of an agent begins like the entries of another
* `greeting` — a line with a message under a given identifier

## Design Notes

That two agents are told apart is a fact about the beginnings of identifiers: two beginnings of one
text begin one another (`List.prefix_or_prefix_of_prefix`). That they are not takes a disk with two
lines in all directories, whose records are called as is needed; so lines are written here, and not
only read.
-/

namespace FleetWatch

open Text

/-! ### Beginnings of identifiers -/

/-- **The identifier of an agent begins like the entries of another**: like that agent's identifier
with a hyphen behind it. -/
def Agent.Overlaps (agent other : Agent) : Prop :=
  (other.id ++ "-").toList <+: agent.id.toList

instance (agent other : Agent) : Decidable (agent.Overlaps other) :=
  inferInstanceAs (Decidable (_ <+: _))

/-- The identifier of an entry begins with that of its agent and a hyphen. -/
theorem EntryReader.prefix_entryId (reader : EntryReader) (record : Record) (file : String)
    (index : Nat) :
    (reader.agent.id ++ "-").toList <+: (reader.entryId record file index).toList := by
  unfold entryId
  split
  · simp [String.toList_append]
  · simp [String.toList_append]

theorem prefix_id_of_mem_agentEntries {disk : Disk} {options : FeedOptions} {now : Instant}
    {agent : Agent} {entry : Entry} (h : entry ∈ agentEntries disk options now agent) :
    (entry.agentId ++ "-").toList <+: entry.id.toList := by
  obtain ⟨record, file, index, shown⟩ := exists_entry?_of_mem_agentEntries h
  obtain ⟨role, text, -, -, -, -, rfl⟩ := EntryReader.entry?_eq_some_iff.mp shown
  exact EntryReader.prefix_entryId _ record file index

/-- Of two identifiers with a hyphen behind them that both begin one text, one begins the other. -/
theorem overlaps_of_begins {a b : Agent} {id : List Char} (ne : a.id ≠ b.id)
    (ha : (a.id ++ "-").toList <+: id) (hb : (b.id ++ "-").toList <+: id) :
    a.Overlaps b ∨ b.Overlaps a := by
  have dash : ∀ id : String, (id ++ "-").toList = id.toList ++ ['-'] := by
    simp [String.toList_append]
  have other : ∀ {a b : Agent}, a.id ≠ b.id → (a.id ++ "-").toList <+: (b.id ++ "-").toList →
      b.Overlaps a := by
    intro a b ne begins
    rw [dash b.id, List.prefix_concat_iff] at begins
    rcases begins with same | begins
    · rw [dash a.id] at same
      exact absurd (String.toList_inj.mp (List.append_cancel_right same)) ne
    · exact begins
  rcases List.prefix_or_prefix_of_prefix ha hb with begins | begins
  · exact Or.inr (other ne begins)
  · exact Or.inl (other (Ne.symm ne) begins)

/-! ### Lines under given identifiers -/

/-- The start of a line, up to the identifier of its record. -/
def greetingStart : List Char :=
  "\x7b\"type\":\"message\",\"id\":".toList

/-- The rest of a line, with a message of the user. -/
def greetingEnd : List Char :=
  ",\"message\":\x7b\"role\":\"user\",\"content\":\"Hello\"\x7d\x7d".toList

/-- A line with a message of the user, under an identifier of its own. -/
def greeting (own : String) : List Char :=
  greetingStart ++ (Json.quoted own ++ greetingEnd)

/-- The value that such a line is. -/
def greetingRecord (own : String) : Json :=
  .object [("type", .text "message"), ("id", .text own),
    ("message", .object [("role", .text "user"), ("content", .text "Hello")])]

theorem read?_greeting (own : String) :
    Json.read? (String.ofList (greeting own)) = some (greetingRecord own) := by
  let front : List Json.Token :=
    [.openObject, .text "type", .colon, .text "message", .comma, .text "id", .colon]
  let back : List Json.Token :=
    [.comma, .text "message", .colon, .openObject, .text "role", .colon, .text "user", .comma,
      .text "content", .colon, .text "Hello", .closeObject, .closeObject]
  have before : greetingStart.foldlM Json.Scanner.step ⟨.between, []⟩ =
      some ⟨.between, front.reverse⟩ := rfl
  have after : Json.Lexed greetingEnd back := Json.Token.scan?_eq_some_iff.mp rfl
  have scan : Json.Token.scan? (greeting own) = some (front ++ .text own :: back) := by
    refine (Json.Scanner.run?_append _ _ _).trans ?_
    rw [before, Option.bind_some, Json.Scanner.run?_of_lexed (.quoted own after),
      List.reverse_reverse]
  rw [Json.read?, String.toList_ofList, scan]
  rfl

/-- Such a line makes an entry under its identifier. -/
theorem exists_read?_greeting (reader : EntryReader) {own : String} (nonempty : own ≠ "")
    (file : String) (index : Nat) :
    ∃ entry, reader.read? (String.ofList (greeting own)) file index = some entry ∧
      entry.agentId = reader.agent.id ∧ entry.id = reader.agent.id ++ "-" ++ own := by
  let record : Record :=
    ⟨some "message", some (.text own), none, none, some ⟨some "user", some (.text "Hello")⟩⟩
  have read : Record.read? (String.ofList (greeting own)) = some record := by
    rw [Record.read?, read?_greeting]
    rfl
  have ownId : record.ownId? = some own := if_neg nonempty
  have worth : WorthShowing "Hello" := worthShowing_iff.mpr (by decide +kernel)
  refine ⟨_, EntryReader.read?_eq_some_iff.mpr ⟨record, read, EntryReader.entry?_eq_some_iff.mpr
    ⟨"user", "Hello", rfl, rfl, by decide, worth, rfl⟩⟩, rfl, ?_⟩
  simp only [EntryReader.entryId, ownId]

/-- The latest time that a file can have. -/
def FileTime.latest : FileTime where
  nanos := 9223372036854775808 * 1000000000 - 1
  le_nanos := by decide
  nanos_lt := by decide

/-- A disk on which every directory holds one log, with two lines under given identifiers. -/
def Disk.ofGreetings (own own' : String) : Disk :=
  .ofFile (Utf8.encode "a.jsonl".toList)
    (Utf8.encode (greeting own ++ '\n' :: greeting own')) .latest

theorem linesOfBytes_greetings (own own' : String) :
    linesOfBytes (Utf8.encode (greeting own ++ '\n' :: greeting own')) =
      [String.ofList (greeting own), String.ofList (greeting own')] := by
  have front : '\n' ∉ greetingStart := by decide +kernel
  have back : '\n' ∉ greetingEnd := by decide +kernel
  have notMem : ∀ own, '\n' ∉ greeting own := by
    intro own mem
    rcases List.mem_append.mp mem with mem | mem
    · exact front mem
    rcases List.mem_append.mp mem with mem | mem
    · exact Json.newline_notMem_quoted own mem
    · exact back mem
  have shown : ∀ own, allBlank (greeting own) = false := by
    intro own
    rw [allBlank, List.all_eq_false]
    exact ⟨'\x7b', List.mem_append_left _ (by decide +kernel), by decide⟩
  have joined : greeting own ++ '\n' :: greeting own' = List.intercalate ['\n']
      (([own, own'].map fun own => String.ofList (greeting own)).map String.toList) := by
    simp [List.intercalate]
  rw [joined]
  refine linesOfBytes_encode_intercalate ?_
  rw [List.forall_mem_map]
  intro own _
  rw [String.toList_ofList]
  exact ⟨notMem own, shown own⟩

/-- Every agent has an entry under either identifier on such a disk. -/
theorem exists_mem_agentEntries_ofGreetings (own own' : String) {name : String}
    (mem : name ∈ [own, own']) (nonempty : name ≠ "") (options : FeedOptions) (now : Instant)
    (agent : Agent) :
    ∃ entry ∈ agentEntries (.ofGreetings own own') options now agent,
      entry.agentId = agent.id ∧ entry.id = agent.id ++ "-" ++ name := by
  let log : SessionLog :=
    ⟨agent.sessionDir.child (Utf8.encode "a.jsonl".toList), Utf8.encode "a.jsonl".toList, .latest⟩
  have recent : log.IsRecent (.ofGreetings own own') agent.sessionDir options.window now
      options.windowNanos := by
    have named : SessionLog.isLogName (Utf8.encode "a.jsonl".toList) = true := by decide +kernel
    refine ⟨⟨⟨_, rfl, List.mem_singleton_self _⟩, named, rfl, rfl⟩, ?_⟩
    have seconds := now.seconds_le
    have nanos := now.nanos_lt
    show now.seconds * 1000000000 + now.nanos - _ < 9223372036854775808 * 1000000000 - 1
    omega
  obtain ⟨index, atIndex⟩ := List.getElem?_of_mem mem
  obtain ⟨entry, read, agentId, id⟩ :=
    exists_read?_greeting ⟨agent, options.maxChars, now⟩ nonempty log.fileName index
  refine ⟨entry, mem_agentEntries.mpr
    ⟨log, recent, String.ofList (greeting name), index, ?_, read⟩, agentId, id⟩
  have lines : (Disk.ofGreetings own own').logLines log.path =
      [own, own'].map fun own => String.ofList (greeting own) := linesOfBytes_greetings own own'
  rw [lines, List.getElem?_map, atIndex, Option.map_some]

/-! ### Agents that share an identifier -/

/-- **Agents that overlap can share an identifier.** -/
theorem Agent.Overlaps.exists_id_eq {agent other : Agent} (h : agent.Overlaps other)
    (options : FeedOptions) (now : Instant) :
    ∃ disk, ∃ entry ∈ agentEntries disk options now agent,
      ∃ entry' ∈ agentEntries disk options now other,
        entry.agentId = agent.id ∧ entry'.agentId = other.id ∧ entry.id = entry'.id := by
  obtain ⟨rest, id⟩ := h
  have id : agent.id = other.id ++ "-" ++ String.ofList rest := by
    rw [← String.toList_inj, String.toList_append, String.toList_ofList, id]
  have nonempty : String.ofList rest ++ "-x" ≠ "" := by
    rw [Ne, ← String.toList_inj, String.toList_append]
    simp
  obtain ⟨entry, mem, agentId, isId⟩ := exists_mem_agentEntries_ofGreetings
    "x" (String.ofList rest ++ "-x") List.mem_cons_self (by decide) options now agent
  obtain ⟨entry', mem', agentId', isId'⟩ := exists_mem_agentEntries_ofGreetings
    "x" (String.ofList rest ++ "-x") (List.mem_cons_of_mem _ List.mem_cons_self) nonempty options
    now other
  refine ⟨_, entry, mem, entry', mem', agentId, agentId', ?_⟩
  rw [isId, isId', id]
  simp only [String.append_assoc]
  rfl

namespace Feed

/-- **When identifiers tell two agents apart.** No disk and no circumstances make two entries of
different agents of a roster have the same identifier, if neither of the agents overlaps with the
other; and if one does, there is a disk on which they have. -/
theorem id_ne_iff_not_overlaps {roster : Roster} {agent other : Agent} (mem : agent ∈ roster)
    (memOther : other ∈ roster) (ne : agent.id ≠ other.id) (options : FeedOptions)
    (now : Instant) :
    (∀ disk, ∀ entry ∈ uncapped disk options now roster,
      ∀ entry' ∈ uncapped disk options now roster,
        entry.agentId = agent.id → entry'.agentId = other.id → entry.id ≠ entry'.id) ↔
      ¬ agent.Overlaps other ∧ ¬ other.Overlaps agent := by
  constructor
  · intro apart
    constructor
    · intro overlaps
      obtain ⟨disk, entry, memEntry, entry', memEntry', agentId, agentId', same⟩ :=
        overlaps.exists_id_eq options now
      exact apart disk entry (mem_uncapped.mpr ⟨agent, mem, memEntry⟩) entry'
        (mem_uncapped.mpr ⟨other, memOther, memEntry'⟩) agentId agentId' same
    · intro overlaps
      obtain ⟨disk, entry', memEntry', entry, memEntry, agentId', agentId, same⟩ :=
        overlaps.exists_id_eq options now
      exact apart disk entry (mem_uncapped.mpr ⟨agent, mem, memEntry⟩) entry'
        (mem_uncapped.mpr ⟨other, memOther, memEntry'⟩) agentId agentId' same.symm
  · rintro ⟨apart, apart'⟩ disk entry memEntry entry' memEntry' agentId agentId' same
    obtain ⟨_, -, found⟩ := mem_uncapped.mp memEntry
    obtain ⟨_, -, found'⟩ := mem_uncapped.mp memEntry'
    have begins := prefix_id_of_mem_agentEntries found
    have begins' := prefix_id_of_mem_agentEntries found'
    rw [agentId, same] at begins
    rw [agentId'] at begins'
    exact (overlaps_of_begins ne begins begins').elim apart apart'

/-- Two agents of which one is called like the other with some letters more, and no hyphen first. -/
theorem id_ne_iff_not_overlaps_scouts :
    let scout : Agent := ⟨"scout", "Scout", "#888", .ofString "/scout"⟩
    let scouts : Agent := ⟨"scouts-a", "Scouts", "#888", .ofString "/scouts"⟩
    let now := Instant.ofMinutes 1
    (scout ∈ [scout, scouts] ∧ scouts ∈ [scout, scouts] ∧ scout.id ≠ scouts.id) ∧
      ∀ disk, ∀ entry ∈ uncapped disk {} now [scout, scouts],
        ∀ entry' ∈ uncapped disk {} now [scout, scouts],
          entry.agentId = scout.id → entry'.agentId = scouts.id → entry.id ≠ entry'.id := by
  intro scout scouts now
  have mem : scout ∈ [scout, scouts] := List.mem_cons_self
  have memOther : scouts ∈ [scout, scouts] := List.mem_cons_of_mem _ List.mem_cons_self
  have ne : scout.id ≠ scouts.id := by decide
  have apart : ¬ scout.Overlaps scouts ∧ ¬ scouts.Overlaps scout := by decide +kernel
  exact ⟨⟨mem, memOther, ne⟩, (id_ne_iff_not_overlaps mem memOther ne {} now).mpr apart⟩

/-- **Agents of an accepted roster can share an identifier**: `a-b-x` is what the record `b-x` of
the agent `a` is called, and also the record `x` of the agent `a-b`. -/
theorem not_forall_id_ne :
    ¬ ∀ (config : Config) (env : Environment) (roster : Roster) (disk : Disk)
      (options : FeedOptions) (now : Instant) (entry entry' : Entry),
        config.roster env = .ok roster → entry ∈ uncapped disk options now roster →
          entry' ∈ uncapped disk options now roster → entry.agentId ≠ entry'.agentId →
            entry.id ≠ entry'.id := by
  intro apart
  let settings : AgentSettings := ⟨"a", none, none, none⟩
  let longer : AgentSettings := ⟨"a-b", none, none, none⟩
  let config : Config := { agents := [settings, longer] }
  let env : Environment := ⟨[], none⟩
  let base := env.expand config.paths.agentsBase
  let agent := settings.toAgent env base "a"
  let other := longer.toAgent env base "a-b"
  have trimmedIds : trimmed settings.id = "a" ∧ trimmed longer.id = "a-b" := by decide +kernel
  have accepted : config.roster env = .ok [agent, other] := by
    simp only [Config.roster, AgentSettings.roster, config, trimmedIds]
    rfl
  have overlaps : other.Overlaps agent := by
    show "a-".toList <+: "a-b".toList
    decide
  obtain ⟨disk, entry, mem, entry', mem', agentId, agentId', same⟩ :=
    overlaps.exists_id_eq {} (Instant.ofMinutes 1)
  have ne : entry.agentId ≠ entry'.agentId := by
    rw [agentId, agentId']
    decide
  refine apart config env [agent, other] disk {} (Instant.ofMinutes 1) entry entry' accepted
    (mem_uncapped.mpr ⟨other, by simp, mem⟩) (mem_uncapped.mpr ⟨agent, by simp, mem'⟩) ne same

end Feed

end FleetWatch
