import FleetWatch.Proofs.Session.EntryIdentity
import FleetWatch.Proofs.Text.Excerpt

/-!
# The form of the entries of a feed

What can be relied on in every entry that a feed shows, whatever the disk holds: that it is of an
agent of the roster and comes from a log of that agent, and that its fields are as a list of
messages needs them.

## Main Definitions

* `Entry.IsWellFormed` — an entry as it may be shown for an agent

## Design Notes

What is no news is left out by the whole text, and what is shown is its opening. That an opening is
no noise either is a fact of its own (`isNoise_opening`): a heartbeat or an announcement in the
opening has no ellipsis in it, so it would have been in the text.
-/

namespace FleetWatch

open Text

/-! ### Openings of what is news -/

/-- **The opening of news is news**, however short it is. -/
theorem isNoise_opening {text : String} (h : isNoise text = false) (max : Nat) :
    isNoise (String.ofList (opening max text.toList)) = false := by
  have shown : (String.ofList (opening max text.toList)).toList = opening max text.toList :=
    String.toList_ofList
  rw [← Bool.not_eq_true, isNoise_eq_true_iff, shown]
  rw [← Bool.not_eq_true, isNoise_eq_true_iff] at h
  intro noise
  apply h
  rcases noise with beats | ⟨bracket, announced⟩
  · exact Or.inl (prefix_of_prefix_opening (by decide +kernel) beats)
  · exact Or.inr ⟨prefix_of_prefix_opening (by decide) bracket,
      infix_of_infix_opening (by decide +kernel) announced⟩

/-- The opening of a text that is worth showing is empty only without room for it. -/
theorem WorthShowing.eq_zero_of_opening {text : String} (h : WorthShowing text) {max : Nat}
    (nothing : String.ofList (opening max text.toList) = "") : max = 0 := by
  have nonempty : text.toList ≠ [] := by
    intro empty
    have long := h.long
    rw [← String.length_toList, empty] at long
    exact absurd long (by decide)
  rw [← String.toList_inj, String.toList_ofList] at nothing
  exact eq_zero_of_opening_eq_nil nonempty nothing

/-! ### Entries -/

/-- **An entry as it may be shown for an agent.** It names the agent, and its identifier begins with
that of the agent and a hyphen; one of the two speakers has said its content, which keeps to the
limit, is no noise, and is empty only if nothing may be shown. -/
structure Entry.IsWellFormed (agent : Agent) (maxChars : Nat) (entry : Entry) : Prop where
  agentId : entry.agentId = agent.id
  agentName : entry.agentName = agent.name
  agentColor : entry.agentColor = agent.color
  id_begins : (agent.id ++ "-").toList <+: entry.id.toList
  role : entry.role = "assistant" ∨ entry.role = "user"
  content_short : entry.content.length ≤ maxChars
  content_news : isNoise entry.content = false
  content_empty : entry.content = "" → maxChars = 0

/-- The entry of a record is well formed for the agent whose log is read. -/
theorem EntryReader.isWellFormed_of_entry? {reader : EntryReader} {record : Record} {file : String}
    {index : Nat} {entry : Entry} (h : reader.entry? record file index = some entry) :
    entry.IsWellFormed reader.agent reader.maxChars := by
  obtain ⟨role, text, -, -, shown, worth, rfl⟩ := entry?_eq_some_iff.mp h
  have news : isNoise text = false := by
    rw [worthShowing_iff, not_or, Bool.not_eq_true] at worth
    exact worth.2
  constructor
  case agentId => rfl
  case agentName => rfl
  case agentColor => rfl
  case id_begins => exact prefix_entryId reader record file index
  case role => simpa [shownRoles] using shown
  case content_short =>
    rw [String.length_ofList]
    exact length_opening_le reader.maxChars text.toList
  case content_news => exact isNoise_opening news reader.maxChars
  case content_empty => exact worth.eq_zero_of_opening

/-! ### The feed -/

namespace Feed

/-- **Every entry of a feed is well formed.** Whatever is on the disk, an entry that is shown is the
entry of a line of a recent log in the session directory of an agent of the roster, and is well
formed for that agent. -/
theorem isWellFormed_of_mem (disk : Disk) (options : FeedOptions) (now : Instant)
    (roster : Roster) :
    ∀ entry ∈ (of disk options now roster).entries, ∃ agent ∈ roster, ∃ log : SessionLog,
      log.IsRecent disk agent.sessionDir options.window now options.windowNanos ∧
      (∃ line index, (disk.logLines log.path)[index]? = some line ∧
        EntryReader.read? ⟨agent, options.maxChars, now⟩ line log.fileName index =
          some entry) ∧
      entry.IsWellFormed agent options.maxChars := by
  intro entry mem
  rw [of_eq_take_uncapped] at mem
  obtain ⟨agent, memRoster, found⟩ := mem_uncapped.mp (List.mem_of_mem_take mem)
  obtain ⟨log, recent, line, index, atIndex, read⟩ := mem_agentEntries.mp found
  obtain ⟨record, -, shown⟩ := EntryReader.read?_eq_some_iff.mp read
  exact ⟨agent, memRoster, log, recent, ⟨line, index, atIndex, read⟩,
    EntryReader.isWellFormed_of_entry? shown⟩

/-- A text that is no heartbeat, cut in the word that would make it one. -/
theorem isWellFormed_of_mem_almost_heartbeat :
    let scout : Agent := ⟨"scout", "Scout", "#888", .ofString "/scout"⟩
    let line := "\x7b\"type\":\"message\",\"id\":7,\"message\":" ++
      "\x7b\"role\":\"user\",\"content\":\"HEARTBEAT_ OK\"\x7d\x7d"
    let disk := Disk.ofFile (Utf8.encode "a.jsonl".toList) (Utf8.encode line.toList)
      (.ofInstant (.ofMinutes 0))
    let options : FeedOptions := { maxChars := 12 }
    let now := Instant.ofMinutes 1
    let entry : Entry :=
      ⟨"scout-7", "scout", "Scout", "#888", "user", "HEARTBEAT_…", now.iso, none⟩
    entry ∈ (of disk options now [scout]).entries ∧ entry.IsWellFormed scout 12 := by
  intro scout line disk options now entry
  have mem : entry ∈ (of disk options now [scout]).entries := by decide +kernel
  obtain ⟨agent, memRoster, -, -, -, form⟩ :=
    isWellFormed_of_mem disk options now [scout] entry mem
  obtain rfl := List.mem_singleton.mp memRoster
  exact ⟨mem, form⟩

end Feed

end FleetWatch
