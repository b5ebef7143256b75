import FleetWatch.Poll.Dashboard
import FleetWatch.Proofs.Session.AgentIsolation
import Mathlib.Data.List.Induction
import Mathlib.Logic.Function.Basic

/-!
# Polls whose tasks end in any order

A poll runs one task for each agent. The tasks end in any order, and any of them may die. This
module shows that the order is not seen in the answers, and that a dead task costs the entries or
the status of its own agent and nothing else: the feed is the one that a single pass over the
roster gives when the dead agents have nothing to read, and every agent has its own view in its own
place.

## Main Definitions

* `Schedule.deaths` — which tasks die, in the order of the tasks
* `Disk.emptied` — a disk with one directory taken as empty
* `Disk.StandsFor` — a disk that shows an agent what its task sees
* `Feed.ofViews` — the feed of agents of which each sees a disk of its own
* `AgentStatus.reported` — what is shown of an agent whose task may die

## Design Notes

The tasks share nothing but the slots, and each task has one. So a run is one step after another
that fills a slot (`Schedule.fill_concat`), and what it comes to is known slot by slot
(`Schedule.fill_eq`): all that is left of the order is which tasks are in it.

Two agents may have one session directory, and the task of one of them may die while that of the
other goes on. Then no disk is empty for the one and as it was for the other, which is why an agent
is given a disk of its own in `Feed.ofViews`. Where the agents that go on have directories of their
own, one disk will do for all.
-/

namespace FleetWatch

/-! ### Slots -/

namespace Schedule

variable {α : Type} {n : Nat}

/-- **One task ends**: its slot is filled, and all others are as they were. -/
theorem fill_concat (outcomes : Fin n → Outcome α) (ended : List (Fin n)) (last : Fin n) :
    fill outcomes (ended ++ [last]) =
      Function.update (fill outcomes ended) last (some (outcomes last)) := by
  funext i
  by_cases h : i = last
  · subst h
    simp [fill, List.foldl_append]
  · simp [fill, List.foldl_append, h]

/-- **After any run** the slots of the tasks that have ended are filled, each with the outcome of
its own task, and no others. -/
theorem fill_eq (outcomes : Fin n → Outcome α) (ended : List (Fin n)) (i : Fin n) :
    fill outcomes ended i = if i ∈ ended then some (outcomes i) else none := by
  induction ended using List.reverseRecOn with
  | nil => rfl
  | append_singleton ended last ih =>
      rw [fill_concat]
      by_cases h : i = last
      · subst h
        simp
      · rw [Function.update_of_ne h, ih]
        simp [h]

/-- Which tasks die, in the order of the tasks. -/
def deaths (schedule : Schedule n) : List Bool :=
  List.ofFn schedule.dies

@[simp] theorem length_deaths (schedule : Schedule n) : schedule.deaths.length = n :=
  List.length_ofFn

/-- **The results are the outcomes of the tasks one by one.** Of the schedule they show which tasks
die, and nothing of the order. -/
theorem results_eq (tasks : List (Except PollFault α)) (schedule : Schedule tasks.length) :
    results tasks schedule = List.zipWith outcome schedule.deaths tasks := by
  have slots : results tasks schedule =
      List.ofFn fun i : Fin tasks.length => outcome (schedule.dies i) tasks[i] := by
    apply congrArg List.ofFn
    funext i
    rw [fill_eq, if_pos (schedule.complete i), Option.getD_some]
  rw [slots]
  apply List.ext_getElem
  · simp
  · intro i _ _
    simp [deaths]

/-- The results of one task for each of some items. -/
theorem results_map {ι : Type} (task : ι → Except PollFault α) (items : List ι)
    (schedule : Schedule (items.map task).length) :
    results (items.map task) schedule =
      List.zipWith (fun dies item => outcome dies (task item)) schedule.deaths items := by
  rw [results_eq, List.zipWith_map_right]

end Schedule

/-! ### What the dead have to read -/

/-- A disk with one directory taken as empty. -/
def Disk.emptied (disk : Disk) (directory : Path) : Disk :=
  { disk with list? := fun path => if path = directory then some .empty else disk.list? path }

theorem Disk.not_lists_emptied (disk : Disk) (directory : Path) (name : List UInt8) :
    ¬ (disk.emptied directory).Lists directory name := by
  rintro ⟨listing, listed, mem⟩
  simp only [emptied, if_true, Option.some.injEq] at listed
  subst listed
  simp [Listing.empty] at mem

/-- The other directories are as they were. -/
theorem Disk.agreeOn_emptied (disk : Disk) {directory other : Path} (ne : other ≠ directory) :
    disk.AgreeOn (disk.emptied directory) other where
  lists_iff name := by
    have same : (disk.emptied directory).list? other = disk.list? other := if_neg ne
    rw [Lists, Lists, same]
  state?_eq _ _ := rfl
  read_eq _ _ := rfl

/-- An agent whose session directory lists nothing has no entries. -/
theorem agentEntries_eq_nil {disk : Disk} {agent : Agent}
    (h : ∀ name, ¬ disk.Lists agent.sessionDir name) (options : FeedOptions) (now : Instant) :
    agentEntries disk options now agent = [] := by
  have noLogs : SessionLog.recent disk agent.sessionDir options.window now
      options.windowNanos = [] := by
    rw [List.eq_nil_iff_forall_not_mem]
    intro log mem
    exact h log.name (SessionLog.mem_recent.mp mem).inDirectory.listed
  rw [agentEntries, noLogs, List.flatMap_nil]

/-- What the task of an agent sees, if a dead task is said to see an empty directory. -/
def Disk.seenBy (disk : Disk) (dies : Bool) (agent : Agent) : Disk :=
  if dies then disk.emptied agent.sessionDir else disk

/-- **A second disk shows an agent what its task sees**: nothing in its session directory if the
task dies, and what the first disk holds there if it goes on. -/
def Disk.StandsFor (disk other : Disk) (dies : Bool) (agent : Agent) : Prop :=
  if dies then ∀ name, ¬ other.Lists agent.sessionDir name
  else disk.AgreeOn other agent.sessionDir

/-- The feed of agents of which each sees a disk of its own. -/
def Feed.ofViews (options : FeedOptions) (now : Instant) (views : List (Disk × Agent)) : Feed :=
  merge (views.map fun view => agentEntries view.1 options now view.2) options.cap

/-- If all agents see the same disk, their feed is that of the roster. -/
theorem Feed.of_eq_ofViews (disk : Disk) (options : FeedOptions) (now : Instant)
    (roster : Roster) :
    of disk options now roster = ofViews options now (roster.map fun agent => (disk, agent)) := by
  rw [of, ofViews, List.map_map]
  rfl

/-- What a task leaves of the entries of its agent is what the agent finds in what the task sees. -/
theorem getD_outcome_agentEntries (disk : Disk) (options : FeedOptions) (now : Instant)
    (dies : Bool) (agent : Agent) :
    (Schedule.outcome dies (.ok (agentEntries disk options now agent))).getD [] =
      agentEntries (disk.seenBy dies agent) options now agent := by
  cases dies with
  | false => rfl
  | true => exact (agentEntries_eq_nil (disk.not_lists_emptied agent.sessionDir) options now).symm

/-! ### What is shown of the dead -/

/-- What is shown of an agent: its status, or that of an agent of which nothing is known, if its
task dies or cannot tell. -/
def AgentStatus.reported (disk : Disk) (options : StatusOptions) (now : Instant) (dies : Bool)
    (agent : Agent) : AgentStatus :=
  if dies then ⟨agent, .offline⟩
  else
    match AgentStatus.of disk options now agent with
    | .ok own => own
    | .error _ => ⟨agent, .offline⟩

theorem getD_outcome_agentStatus (disk : Disk) (options : StatusOptions) (now : Instant)
    (dies : Bool) (agent : Agent) :
    (Schedule.outcome dies (AgentStatus.of disk options now agent)).getD ⟨agent, .offline⟩ =
      AgentStatus.reported disk options now dies agent := by
  cases dies with
  | true => rfl
  | false =>
      unfold AgentStatus.reported Schedule.outcome
      cases AgentStatus.of disk options now agent <;> rfl

/-- **What a poll may show of an agent**, by how its task ends: its own status if the task goes on
and has one, and otherwise that nothing is known. -/
structure AgentStatus.IsReported (disk : Disk) (options : StatusOptions) (now : Instant)
    (dies : Bool) (agent : Agent) (view : AgentStatus) : Prop where
  agent_eq : view.agent = agent
  of_dead : dies = true → view.status = .offline
  of_alive : dies = false → ∀ own, AgentStatus.of disk options now agent = .ok own → view = own
  of_fault : ∀ fault, AgentStatus.of disk options now agent = .error fault →
    view.status = .offline

/-- The status of an agent is under its name. -/
theorem AgentStatus.agent_of_eq_ok {disk : Disk} {options : StatusOptions} {now : Instant}
    {agent : Agent} {own : AgentStatus} (h : AgentStatus.of disk options now agent = .ok own) :
    own.agent = agent := by
  rw [AgentStatus.of] at h
  cases status : Status.of disk options now agent.sessionDir with
  | error fault =>
      rw [status] at h
      cases h
  | ok status =>
      rw [status] at h
      cases h
      rfl

theorem AgentStatus.isReported_reported (disk : Disk) (options : StatusOptions) (now : Instant)
    (dies : Bool) (agent : Agent) :
    (reported disk options now dies agent).IsReported disk options now dies agent := by
  unfold reported
  cases dies with
  | true =>
      rw [if_pos rfl]
      refine ⟨rfl, fun _ => rfl, ?_, fun _ _ => rfl⟩
      intro alive
      cases alive
  | false =>
      rw [if_neg Bool.false_ne_true]
      cases found : AgentStatus.of disk options now agent with
      | error fault =>
          refine ⟨rfl, fun _ => rfl, ?_, fun _ _ => rfl⟩
          intro _ own isOwn
          rw [found] at isOwn
          cases isOwn
      | ok own =>
          refine ⟨agent_of_eq_ok found, ?_, ?_, ?_⟩
          · intro dead
            cases dead
          · intro _ other isOther
            rw [found] at isOther
            exact Except.ok.inj isOther
          · intro fault isFault
            rw [found] at isFault
            cases isFault

/-! ### Polls -/

/-- The dashboard of a roster, with the notes in the directory of the root and no services. -/
def Dashboard.watching (roster : Roster) : Dashboard where
  roster := roster
  feedOptions := {}
  statusOptions := {}
  snapshotSources := .ofWorkspaces (.ofString "/") (.ofString "/")
  memorySources := .ofWorkspace (.ofString "/")
  services := []
  diskMount := .ofString "/"
  probeTimeout := 2000

/-- A moment at which a disk is found, on a host of which nothing else is known. -/
def Moment.ofDisk (disk : Disk) (now : Instant) : Moment where
  disk := disk
  now := now
  today := now.date
  surroundings := { reading := fun _ => ⟨none, none, 0⟩, answers := fun _ _ => false }

namespace Dashboard

variable (dashboard : Dashboard) (moment : Moment)

/-- The agents of a poll, each with what its task sees. -/
def views (deaths : List Bool) : List (Disk × Agent) :=
  List.zipWith (fun dies agent => (moment.disk.seenBy dies agent, agent)) deaths dashboard.roster

/-- The feed of a poll is that of its agents, each with what its task sees. -/
theorem feedUnder_eq_ofViews (schedule : Schedule (dashboard.feedTasks moment).length)
    (cap : Nat) :
    dashboard.feedUnder moment schedule cap =
      Feed.ofViews { dashboard.feedOptions with cap := cap } moment.now
        (dashboard.views moment schedule.deaths) := by
  have entries : (Schedule.results _ schedule).map (·.getD []) =
      (dashboard.views moment schedule.deaths).map fun view =>
        agentEntries view.1 dashboard.feedOptions moment.now view.2 := by
    refine (congrArg _ (Schedule.results_map _ dashboard.roster schedule)).trans ?_
    rw [views, List.map_zipWith, List.map_zipWith]
    simp only [getD_outcome_agentEntries]
    rfl
  rw [feedUnder, entries]
  rfl

/-- A disk that shows every agent what its task sees shows all of them together the same feed. -/
theorem ofViews_eq_of {deaths : List Bool} (length : deaths.length = dashboard.roster.length)
    {disk : Disk} (alike : ∀ dies agent, (dies, agent) ∈ deaths.zip dashboard.roster →
      moment.disk.StandsFor disk dies agent) (options : FeedOptions) :
    Feed.ofViews options moment.now (dashboard.views moment deaths) =
      Feed.of disk options moment.now dashboard.roster := by
  have paired : (deaths.zip dashboard.roster).map Prod.snd = dashboard.roster :=
    List.map_snd_zip length.ge
  have entries : (dashboard.views moment deaths).map (fun view =>
        agentEntries view.1 options moment.now view.2) =
      (dashboard.roster.map fun agent => (disk, agent)).map fun view =>
        agentEntries view.1 options moment.now view.2 := by
    rw [views, List.map_zipWith, ← List.map_uncurry_zip_eq_zipWith, ← paired, List.map_map,
      List.map_map, paired]
    apply List.map_congr_left
    rintro ⟨dies, agent⟩ mem
    have own := alike dies agent mem
    cases dies with
    | false => exact agentEntries_congr own options moment.now
    | true =>
        have nothing := agentEntries_eq_nil own options moment.now
        have emptied := agentEntries_eq_nil
          (moment.disk.not_lists_emptied agent.sessionDir) options moment.now
        exact emptied.trans nothing.symm
  rw [Feed.of_eq_ofViews, Feed.ofViews, Feed.ofViews, entries]

/-- The statuses of a poll, agent by agent. -/
theorem statusesUnder_eq (schedule : Schedule (dashboard.statusTasks moment).length) :
    dashboard.statusesUnder moment schedule =
      List.zipWith (AgentStatus.reported moment.disk dashboard.statusOptions moment.now)
        schedule.deaths dashboard.roster := by
  have beside : ∀ deaths : List Bool,
      List.zipWith (fun outcome agent => Outcome.getD ⟨agent, .offline⟩ outcome)
        (List.zipWith (fun dies agent => Schedule.outcome dies
          (AgentStatus.of moment.disk dashboard.statusOptions moment.now agent))
          deaths dashboard.roster) dashboard.roster =
      List.zipWith (AgentStatus.reported moment.disk dashboard.statusOptions moment.now)
        deaths dashboard.roster := by
    intro deaths
    apply List.ext_getElem
    · simp
    · intro i _ _
      simp [getD_outcome_agentStatus]
  have outcomes := Schedule.results_map _ dashboard.roster schedule
  exact (congrArg (List.zipWith _ · _) outcomes).trans (beside schedule.deaths)

/-- A poll shows one status for each agent, in the order of the roster and under its name. -/
theorem map_agent_statusesUnder (schedule : Schedule (dashboard.statusTasks moment).length) :
    (dashboard.statusesUnder moment schedule).map (·.agent) = dashboard.roster := by
  have length : schedule.deaths.length = dashboard.roster.length :=
    schedule.length_deaths.trans (List.length_map _)
  rw [statusesUnder_eq, List.map_zipWith]
  simp only [(AgentStatus.isReported_reported _ _ _ _ _).agent_eq]
  rw [← List.map_uncurry_zip_eq_zipWith]
  exact List.map_snd_zip length.ge

/-- What a poll shows of each agent goes by how its own task ends. -/
theorem isReported_of_getElem? {schedule : Schedule (dashboard.statusTasks moment).length}
    {i : Nat} {agent : Agent} {dies : Bool} {view : AgentStatus}
    (isAgent : dashboard.roster[i]? = some agent) (isDeath : schedule.deaths[i]? = some dies)
    (isView : (dashboard.statusesUnder moment schedule)[i]? = some view) :
    view.IsReported moment.disk dashboard.statusOptions moment.now dies agent := by
  rw [statusesUnder_eq, List.getElem?_zipWith, isAgent, isDeath] at isView
  cases isView
  exact AgentStatus.isReported_reported _ _ _ dies agent

/-- **A poll is one pass over the roster**, whatever the order in which its tasks end, and whichever
of them die. The feed is that of the roster when the session directories of the dead are taken as
empty, which one disk can show where the others have directories of their own. The statuses are one
for each agent, in the order of the roster and under its name: its own if its task goes on and comes
to an end, and otherwise that of an agent of which nothing is known. -/
theorem polled_eq_sequential (cap : Nat)
    (feedSchedule : Schedule (dashboard.feedTasks moment).length)
    (statusSchedule : Schedule (dashboard.statusTasks moment).length) :
    let options := { dashboard.feedOptions with cap := cap }
    let feed := dashboard.feedUnder moment feedSchedule cap
    let statuses := dashboard.statusesUnder moment statusSchedule
    (feed = Feed.ofViews options moment.now (dashboard.views moment feedSchedule.deaths) ∧
      ∀ disk : Disk, (∀ dies agent, (dies, agent) ∈ feedSchedule.deaths.zip dashboard.roster →
          moment.disk.StandsFor disk dies agent) →
        feed = Feed.of disk options moment.now dashboard.roster) ∧
    (statuses.map (·.agent) = dashboard.roster ∧
      ∀ (i : Nat) (agent : Agent) (dies : Bool) (view : AgentStatus),
        dashboard.roster[i]? = some agent → statusSchedule.deaths[i]? = some dies →
          statuses[i]? = some view →
            view.IsReported moment.disk dashboard.statusOptions moment.now dies agent) ∧
    (∀ other : Schedule (dashboard.feedTasks moment).length,
      other.deaths = feedSchedule.deaths → dashboard.feedUnder moment other cap = feed) ∧
    ∀ other : Schedule (dashboard.statusTasks moment).length,
      other.deaths = statusSchedule.deaths → dashboard.statusesUnder moment other = statuses := by
  have seen := dashboard.feedUnder_eq_ofViews moment feedSchedule cap
  have length : feedSchedule.deaths.length = dashboard.roster.length :=
    feedSchedule.length_deaths.trans (List.length_map _)
  refine ⟨⟨seen, ?_⟩, ⟨?_, ?_⟩, ?_, ?_⟩
  · intro disk alike
    exact seen.trans (dashboard.ofViews_eq_of moment length alike _)
  · exact dashboard.map_agent_statusesUnder moment statusSchedule
  · intro i agent dies view
    exact dashboard.isReported_of_getElem? moment
  · intro other same
    rw [seen, dashboard.feedUnder_eq_ofViews moment other cap, same]
  · intro other same
    rw [statusesUnder_eq, statusesUnder_eq, same]

/-- Two agents with one log each. The task of the second ends first, and then that of the first
dies. -/
theorem polled_eq_sequential_scout_dies :
    let scout : Agent := ⟨"scout", "Scout", "#888", .ofString "/scout"⟩
    let clerk : Agent := ⟨"clerk", "Clerk", "#888", .ofString "/clerk"⟩
    let line := "\x7b\"type\":\"message\",\"message\":" ++
      "\x7b\"role\":\"user\",\"content\":\"Hello\"\x7d\x7d"
    let disk := Disk.ofFile (Text.Utf8.encode "a.jsonl".toList) (Text.Utf8.encode line.toList)
      (.ofInstant (.ofMinutes 0))
    let dashboard := Dashboard.watching [scout, clerk]
    let moment := Moment.ofDisk disk (.ofMinutes 1)
    let schedule : Schedule 2 := ⟨[1, 0], by decide, fun i => i = 0⟩
    (∀ dies agent, (dies, agent) ∈ schedule.deaths.zip [scout, clerk] →
      disk.StandsFor (disk.emptied scout.sessionDir) dies agent) ∧
    dashboard.feedUnder moment schedule 50 =
      Feed.of (disk.emptied scout.sessionDir) {} moment.now [scout, clerk] ∧
    (dashboard.feedUnder moment schedule 50).entries.map (·.id) = ["clerk-a.jsonl-0"] ∧
    (dashboard.statusesUnder moment schedule).map (·.agent) = [scout, clerk] ∧
    (dashboard.statusesUnder moment schedule).map (·.status.liveness) = [.offline, .active] := by
  intro scout clerk line disk dashboard moment schedule
  have alike : ∀ dies agent, (dies, agent) ∈ schedule.deaths.zip [scout, clerk] →
      disk.StandsFor (disk.emptied scout.sessionDir) dies agent := by
    intro dies agent mem
    obtain ⟨rfl, rfl⟩ | ⟨rfl, rfl⟩ :
        dies = true ∧ agent = scout ∨ dies = false ∧ agent = clerk := by
      simpa [schedule, Schedule.deaths] using mem
    · exact disk.not_lists_emptied scout.sessionDir
    · have ne : clerk.sessionDir ≠ scout.sessionDir := by decide +kernel
      exact disk.agreeOn_emptied ne
  obtain ⟨⟨-, feed⟩, ⟨agents, -⟩, -⟩ := dashboard.polled_eq_sequential moment 50 schedule schedule
  refine ⟨alike, feed _ alike, ?_, agents, ?_⟩
  · decide +kernel
  · decide +kernel

end Dashboard

end FleetWatch
