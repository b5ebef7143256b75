import FleetWatch.Poll.Dashboard
import Mathlib.Data.List.Forall2
import Mathlib.Data.List.Infix

/-!
# Valid configurations

Which configurations give a dashboard, and what is reported of the others. The entries of the agents
are looked at in order, each beside those in front of it, and the time limits after all entries. The
first fault in this order is reported, and there is one just if the configuration is not valid.

## Main Definitions

* `AgentSettings.agentId` — the identifier that an entry gives to its agent
* `AgentSettings.AreSound` — entries with identifiers that are not empty and not repeated
* `AgentSettings.IsFirstFault` — what is wrong with the first entry that is at fault
* `Config.IsValid`, `Config.IsFirstFault` — the same of a configuration, with its time limits
* `Agent.IsDescribedBy` — an agent as an entry describes it

## Design Notes

The loop over the entries knows those in front of it only by the identifiers that it has seen, and
compares with these. That they are the identifiers of the entries in front is the invariant of
`AgentSettings.roster_cases`; with it the loop can be told in terms of the entries alone.
-/

namespace FleetWatch

open Text

namespace AgentSettings

/-! ### Entries -/

/-- The identifier that an entry gives to its agent, without the white space at its ends. -/
def agentId (settings : AgentSettings) : String :=
  trimmed settings.id

/-- **Entries without a fault**: no identifier is empty, and no two are the same. -/
structure AreSound (entries : List AgentSettings) : Prop where
  nonempty : ∀ settings ∈ entries, settings.agentId ≠ ""
  distinct : entries.Pairwise fun a b => a.agentId ≠ b.agentId

/-- **What is wrong with an entry** behind others: its identifier is empty, or it is that of an
entry in front. -/
inductive IsAtFault (before : List AgentSettings) (settings : AgentSettings) : ConfigError → Prop
  | empty (isEmpty : settings.agentId = "") : IsAtFault before settings .emptyAgentId
  | repeated {earlier : AgentSettings} (mem : earlier ∈ before)
      (same : earlier.agentId = settings.agentId) :
      IsAtFault before settings (.duplicateAgent settings.agentId)

/-- **What is wrong with the first entry that is at fault**: those in front of it are sound. -/
def IsFirstFault (entries : List AgentSettings) (fault : ConfigError) : Prop :=
  ∃ before settings after, entries = before ++ settings :: after ∧ AreSound before ∧
    IsAtFault before settings fault

variable {before entries : List AgentSettings} {settings : AgentSettings} {fault : ConfigError}

theorem areSound_nil : AreSound [] :=
  ⟨fun _ mem => absurd mem List.not_mem_nil, List.Pairwise.nil⟩

/-- The first of sound entries are sound. -/
theorem AreSound.of_prefix (sound : AreSound entries) (first : before <+: entries) :
    AreSound before :=
  ⟨fun settings mem => sound.nonempty settings (first.subset mem),
    sound.distinct.sublist first.sublist⟩

/-- One more entry is sound with those in front of it just if nothing is wrong with it. -/
theorem areSound_concat_iff (sound : AreSound before) :
    AreSound (before ++ [settings]) ↔ ∀ fault, ¬ IsAtFault before settings fault := by
  constructor
  · rintro ⟨nonempty, distinct⟩ fault (isEmpty | ⟨mem, same⟩)
    · exact nonempty settings (List.mem_append_right _ (List.mem_singleton_self _)) isEmpty
    · exact (List.pairwise_append.mp distinct).2.2 _ mem _ (List.mem_singleton_self _) same
  · intro faultless
    constructor
    · intro other mem
      rcases List.mem_append.mp mem with front | last
      · exact sound.nonempty other front
      · rw [List.mem_singleton.mp last]
        exact fun isEmpty => faultless _ (.empty isEmpty)
    · refine List.pairwise_append.mpr ⟨sound.distinct, List.pairwise_singleton _ _, ?_⟩
      intro earlier mem other last same
      rw [List.mem_singleton.mp last] at same
      exact faultless _ (.repeated mem same)

/-- Behind sound entries only one thing can be wrong with an entry. -/
theorem IsAtFault.unique {fault' : ConfigError} (sound : AreSound before)
    (h : IsAtFault before settings fault) (h' : IsAtFault before settings fault') :
    fault = fault' := by
  cases h with
  | empty isEmpty =>
      cases h' with
      | empty => rfl
      | repeated mem same => exact absurd (same.trans isEmpty) (sound.nonempty _ mem)
  | repeated mem same =>
      cases h' with
      | empty isEmpty => exact absurd (same.trans isEmpty) (sound.nonempty _ mem)
      | repeated => rfl

/-- The entries up to one of them begin all entries. -/
theorem concat_isPrefix {after : List AgentSettings}
    (split : entries = before ++ settings :: after) : before ++ [settings] <+: entries :=
  ⟨after, by rw [split, ← List.append_cons]⟩

/-- With a first fault entries are not sound. -/
theorem IsFirstFault.not_areSound (h : IsFirstFault entries fault) : ¬ AreSound entries := by
  intro all
  obtain ⟨before, settings, after, split, sound, atFault⟩ := h
  have front : AreSound (before ++ [settings]) := all.of_prefix (concat_isPrefix split)
  exact (areSound_concat_iff sound).mp front fault atFault

/-- Sound entries at the start end in front of one that is at fault. -/
theorem prefix_of_isAtFault {before' : List AgentSettings}
    (atFault : IsAtFault before settings fault) (sound : AreSound before)
    (sound' : AreSound before') (first : before ++ [settings] <+: entries)
    (first' : before' <+: entries) : before' <+: before := by
  rcases List.prefix_or_prefix_of_prefix first first' with behind | here
  · exact absurd atFault ((areSound_concat_iff sound).mp (sound'.of_prefix behind) fault)
  · rcases List.prefix_concat_iff.mp here with rfl | front
    · exact absurd atFault ((areSound_concat_iff sound).mp sound' fault)
    · exact front

/-- There is one first fault at most. -/
theorem IsFirstFault.unique {fault' : ConfigError} (h : IsFirstFault entries fault)
    (h' : IsFirstFault entries fault') : fault = fault' := by
  obtain ⟨before, settings, after, split, sound, atFault⟩ := h
  obtain ⟨before', settings', after', split', sound', atFault'⟩ := h'
  have within : before' <+: before :=
    prefix_of_isAtFault atFault sound sound' (concat_isPrefix split) ⟨_, split'.symm⟩
  have within' : before <+: before' :=
    prefix_of_isAtFault atFault' sound' sound (concat_isPrefix split') ⟨_, split.symm⟩
  obtain rfl : before = before' := within'.eq_of_length_le within.length_le
  obtain ⟨rfl, rfl⟩ := List.cons.inj (List.append_cancel_left (split.symm.trans split'))
  exact atFault.unique sound atFault'

/-! ### The loop over the entries -/

/-- An empty identifier is reported. -/
theorem roster_cons_of_empty (env : Environment) (base : Path) (seen : List String)
    (rest : List AgentSettings) (isEmpty : settings.agentId = "") :
    roster env base seen (settings :: rest) = .error .emptyAgentId := by
  rw [agentId] at isEmpty
  rw [roster, if_pos isEmpty]

/-- An identifier that has been seen is reported. -/
theorem roster_cons_of_seen (env : Environment) (base : Path) {seen : List String}
    (rest : List AgentSettings) (nonempty : settings.agentId ≠ "")
    (repeated : settings.agentId ∈ seen) :
    roster env base seen (settings :: rest) = .error (.duplicateAgent settings.agentId) := by
  rw [agentId] at nonempty repeated
  rw [roster, if_neg nonempty, if_pos repeated, agentId]

/-- Any other entry becomes an agent in front of those of the rest, if the rest has no fault. -/
theorem roster_cons_of_new (env : Environment) (base : Path) {seen : List String}
    (rest : List AgentSettings) (nonempty : settings.agentId ≠ "")
    (new : settings.agentId ∉ seen) :
    roster env base seen (settings :: rest) =
      (roster env base (settings.agentId :: seen) rest).map
        (settings.toAgent env base settings.agentId :: ·) := by
  rw [agentId] at nonempty new ⊢
  rw [roster, if_neg nonempty, if_neg new]
  cases roster env base (trimmed settings.id :: seen) rest <;> rfl

/-- **What the loop makes of entries**, behind others that are sound. If it has seen the identifiers
of those, then either all entries are sound and each becomes an agent, or the first fault is
reported. -/
theorem roster_cases (env : Environment) (base : Path) {seen : List String}
    (entries : List AgentSettings) (sound : AreSound before)
    (invariant : ∀ id, id ∈ seen ↔ id ∈ before.map agentId) :
    (AreSound (before ++ entries) ∧ roster env base seen entries =
      .ok (entries.map fun settings => settings.toAgent env base settings.agentId)) ∨
    ∃ fault, IsFirstFault (before ++ entries) fault ∧
      roster env base seen entries = .error fault := by
  induction entries generalizing before seen with
  | nil =>
      rw [List.append_nil]
      exact Or.inl ⟨sound, rfl⟩
  | cons settings rest ih =>
      by_cases isEmpty : settings.agentId = ""
      · exact Or.inr ⟨_, ⟨before, settings, rest, rfl, sound, .empty isEmpty⟩,
          roster_cons_of_empty env base seen rest isEmpty⟩
      by_cases repeated : settings.agentId ∈ seen
      · obtain ⟨earlier, mem, same⟩ := List.mem_map.mp ((invariant _).mp repeated)
        exact Or.inr ⟨_, ⟨before, settings, rest, rfl, sound, .repeated mem same⟩,
          roster_cons_of_seen env base rest isEmpty repeated⟩
      -- The entry has no fault: it joins those in front, and its identifier those that are seen.
      have sound' : AreSound (before ++ [settings]) := by
        rw [areSound_concat_iff sound]
        rintro fault (empty | ⟨mem, same⟩)
        · exact isEmpty empty
        · exact repeated ((invariant _).mpr (List.mem_map.mpr ⟨_, mem, same⟩))
      have invariant' : ∀ id, id ∈ settings.agentId :: seen ↔
          id ∈ (before ++ [settings]).map agentId := by
        intro id
        rw [List.map_append, List.mem_append, ← invariant, List.map_singleton, List.mem_singleton,
          List.mem_cons, or_comm]
      rw [List.append_cons, roster_cons_of_new env base rest isEmpty repeated]
      rcases ih sound' invariant' with ⟨all, agents⟩ | ⟨fault, first, reported⟩
      · rw [agents]
        exact Or.inl ⟨all, rfl⟩
      · rw [reported]
        exact Or.inr ⟨fault, first, rfl⟩

end AgentSettings

/-- **An agent as an entry describes it.** Its identifier stands for a name that is not given, and
names the directory of its logs if no other is given. -/
structure Agent.IsDescribedBy (env : Environment) (base : Path) (agent : Agent)
    (settings : AgentSettings) : Prop where
  id : agent.id = settings.agentId
  name : agent.name = settings.name.getD settings.agentId
  color : agent.color = settings.color.getD Agent.defaultColor
  ownDir : ∀ directory, settings.sessionDir = some directory →
    agent.sessionDir = env.expand directory
  sharedDir : settings.sessionDir = none →
    agent.sessionDir = (base.join (.ofString settings.agentId)).join (.ofString "sessions")

/-- An entry describes the agent that is made of it. -/
theorem AgentSettings.isDescribedBy_toAgent (env : Environment) (base : Path)
    (settings : AgentSettings) :
    (settings.toAgent env base settings.agentId).IsDescribedBy env base settings where
  id := rfl
  name := rfl
  color := rfl
  ownDir := by
    intro directory own
    simp only [toAgent, own]
  sharedDir := by
    intro shared
    simp only [toAgent, shared]

namespace Config

/-! ### Time limits -/

/-- Seconds that can limit a time: their milliseconds have a count of 64 bits, and so has the
negated count. -/
def IsTimeLimit (seconds : Int) : Prop :=
  -9223372036854775 ≤ seconds ∧ seconds ≤ 9223372036854775

/-- A time limit is kept in nanoseconds, and reported if it is out of range. -/
theorem timeLimit_cases (key : String) (seconds : Int) :
    (IsTimeLimit seconds ∧ timeLimit key seconds = .ok (seconds * 1000000000)) ∨
      ¬ IsTimeLimit seconds ∧ timeLimit key seconds = .error (.invalidDuration key seconds) := by
  by_cases limit : IsTimeLimit seconds
  · exact Or.inl ⟨limit, if_pos limit⟩
  · exact Or.inr ⟨limit, if_neg limit⟩

/-! ### Configurations -/

/-- **A configuration that can be used**: its entries are sound, and its time limits are in
range. -/
structure IsValid (config : Config) : Prop where
  sound : AgentSettings.AreSound config.agents
  active : IsTimeLimit config.status.activeSecs
  idle : IsTimeLimit config.status.idleSecs

/-- **The first fault of a configuration**: that of an entry, or else that of a time limit, of which
the limit of activity comes first. -/
inductive IsFirstFault (config : Config) : ConfigError → Prop
  | entry {fault : ConfigError} (first : AgentSettings.IsFirstFault config.agents fault) :
      IsFirstFault config fault
  | active (sound : AgentSettings.AreSound config.agents)
      (outOfRange : ¬ IsTimeLimit config.status.activeSecs) :
      IsFirstFault config (.invalidDuration "status.active_secs" config.status.activeSecs)
  | idle (sound : AgentSettings.AreSound config.agents)
      (limit : IsTimeLimit config.status.activeSecs)
      (outOfRange : ¬ IsTimeLimit config.status.idleSecs) :
      IsFirstFault config (.invalidDuration "status.idle_secs" config.status.idleSecs)

variable {config : Config} {fault : ConfigError}

/-- A valid configuration has no fault. -/
theorem IsFirstFault.not_isValid (h : config.IsFirstFault fault) : ¬ config.IsValid := by
  intro valid
  cases h with
  | entry first => exact first.not_areSound valid.sound
  | active _ outOfRange => exact outOfRange valid.active
  | idle _ _ outOfRange => exact outOfRange valid.idle

/-- There is one first fault at most. -/
theorem IsFirstFault.unique {fault' : ConfigError} (h : config.IsFirstFault fault)
    (h' : config.IsFirstFault fault') : fault = fault' := by
  cases h with
  | entry first =>
      cases h' with
      | entry first' => exact first.unique first'
      | active sound => exact absurd sound first.not_areSound
      | idle sound => exact absurd sound first.not_areSound
  | active sound outOfRange =>
      cases h' with
      | entry first' => exact absurd sound first'.not_areSound
      | active => rfl
      | idle _ limit => exact absurd limit outOfRange
  | idle sound limit outOfRange =>
      cases h' with
      | entry first' => exact absurd sound first'.not_areSound
      | active _ outOfRange' => exact absurd limit outOfRange'
      | idle => rfl

/-- The roster of a configuration: an agent for each entry, or the first fault of an entry. -/
theorem roster_cases (config : Config) (env : Environment) :
    (AgentSettings.AreSound config.agents ∧ ∃ agents, config.roster env = .ok agents ∧
      List.Forall₂ (Agent.IsDescribedBy env (env.expand config.paths.agentsBase)) agents
        config.agents) ∨
    ∃ fault, AgentSettings.IsFirstFault config.agents fault ∧ config.roster env = .error fault := by
  rcases AgentSettings.roster_cases env (env.expand config.paths.agentsBase) config.agents
    AgentSettings.areSound_nil fun id => Iff.rfl with ⟨sound, agents⟩ | reported
  · refine Or.inl ⟨sound, _, agents, ?_⟩
    rw [List.forall₂_map_left_iff, List.forall₂_same]
    exact fun settings _ => settings.isDescribedBy_toAgent env _
  · exact Or.inr reported

end Config

/-! ### Dashboards -/

namespace Dashboard

/-- What a configuration comes to. -/
theorem ofConfig_cases (config : Config) (env : Environment) :
    (config.IsValid ∧ ∃ dashboard, ofConfig config env = .ok dashboard ∧
      List.Forall₂ (Agent.IsDescribedBy env (env.expand config.paths.agentsBase)) dashboard.roster
        config.agents) ∨
    ∃ fault, config.IsFirstFault fault ∧ ofConfig config env = .error fault := by
  rw [ofConfig]
  rcases config.roster_cases env with ⟨sound, agents, roster, described⟩ | ⟨fault, first, reported⟩
  · rw [roster, Config.statusOptions]
    rcases Config.timeLimit_cases "status.active_secs" config.status.activeSecs with
      ⟨active, limit⟩ | ⟨active, outOfRange⟩
    · rcases Config.timeLimit_cases "status.idle_secs" config.status.idleSecs with
        ⟨idle, limit'⟩ | ⟨idle, outOfRange⟩
      · rw [limit, limit']
        exact Or.inl ⟨⟨sound, active, idle⟩, _, rfl, described⟩
      · rw [limit, outOfRange]
        exact Or.inr ⟨_, .idle sound active idle, rfl⟩
    · rw [outOfRange]
      exact Or.inr ⟨_, .active sound active, rfl⟩
  · rw [reported]
    exact Or.inr ⟨fault, .entry first, rfl⟩

/-- **A configuration gives a dashboard just if it is valid.** The dashboard watches one agent for
each entry, in the order of the entries and as the entries describe them. If the configuration is
not valid, its first fault is reported and nothing else: that of the first entry with an empty or
repeated identifier, and only where no entry is at fault that of a time limit. -/
theorem ofConfig_eq_ok_iff_isValid (config : Config) (env : Environment) :
    ((∃ dashboard, ofConfig config env = .ok dashboard) ↔ config.IsValid) ∧
    (∀ dashboard, ofConfig config env = .ok dashboard →
      List.Forall₂ (Agent.IsDescribedBy env (env.expand config.paths.agentsBase)) dashboard.roster
        config.agents) ∧
    ∀ fault, ofConfig config env = .error fault ↔ config.IsFirstFault fault := by
  rcases ofConfig_cases config env with
    ⟨valid, dashboard, made, described⟩ | ⟨fault, first, reported⟩
  · rw [made]
    refine ⟨iff_of_true ⟨dashboard, rfl⟩ valid, ?_, ?_⟩
    · rintro _ ⟨⟩
      exact described
    · intro fault
      exact iff_of_false (fun reported => nomatch reported) fun first => first.not_isValid valid
  · rw [reported]
    refine ⟨iff_of_false (fun ⟨_, made⟩ => nomatch made) first.not_isValid, ?_, ?_⟩
    · rintro _ ⟨⟩
    · intro fault'
      constructor
      · rintro ⟨⟩
        exact first
      · intro first'
        rw [first.unique first']

end Dashboard

end FleetWatch
