import FleetWatch.Config.Options
import FleetWatch.Host.Health
import FleetWatch.Poll.Schedule

/-!
# The dashboard

What a dashboard watches, and the answers to its five questions at one moment. Nothing is kept
from one question to the next.

## Main Definitions

* `Dashboard` — what is watched
* `Dashboard.ofConfig` — the dashboard of a configuration
* `Moment` — what can be observed when a question is asked
* `Dashboard.feed`, `Dashboard.statuses`, `Dashboard.snapshot`, `Dashboard.memory`,
  `Dashboard.health` — the answers
-/

namespace FleetWatch

/-- What a dashboard watches: agents, notes, and the health of the host. -/
structure Dashboard where
  roster : Roster
  feedOptions : FeedOptions
  statusOptions : StatusOptions
  snapshotSources : SnapshotSources
  memorySources : MemorySources
  services : List Service
  diskMount : Path
  probeTimeout : Nat
deriving DecidableEq, Repr

/-- The dashboard of a configuration. A fault of the roster comes before one of the time limits. -/
def Dashboard.ofConfig (config : Config) (env : Environment) : Except ConfigError Dashboard := do
  let roster ← config.roster env
  let statusOptions ← config.statusOptions
  .ok
    { roster := roster
      feedOptions := config.feedOptions
      statusOptions := statusOptions
      snapshotSources := config.snapshotSources env
      memorySources := config.memorySources env
      services := config.health.services
      diskMount := config.diskMount env
      probeTimeout := config.health.timeoutMillis }

/-- What can be observed when a question is asked: the files, the time in UTC, the local date, and
the surroundings. -/
structure Moment where
  disk : Disk
  now : Instant
  today : Date
  surroundings : Surroundings

namespace Dashboard

/-- The tasks that read the logs of the agents. -/
def feedTasks (dashboard : Dashboard) (moment : Moment) : List (Except PollFault (List Entry)) :=
  dashboard.roster.map fun agent =>
    .ok (agentEntries moment.disk dashboard.feedOptions moment.now agent)

/-- The feed with at most `cap` entries, under a schedule of the tasks. A task that dies has no
entries. -/
def feedUnder (dashboard : Dashboard) (moment : Moment)
    (schedule : Schedule (dashboard.feedTasks moment).length) (cap : Nat) : Feed :=
  Feed.merge ((Schedule.results _ schedule).map (·.getD [])) cap

/-- The feed with at most `cap` entries. -/
def feed (dashboard : Dashboard) (moment : Moment) (cap : Nat) : Feed :=
  dashboard.feedUnder moment (.inOrder _) cap

/-- The tasks that judge the agents. -/
def statusTasks (dashboard : Dashboard) (moment : Moment) : List (Except PollFault AgentStatus) :=
  dashboard.roster.map (AgentStatus.of moment.disk dashboard.statusOptions moment.now)

/-- The status of each agent, under a schedule of the tasks. An agent whose task dies is offline. -/
def statusesUnder (dashboard : Dashboard) (moment : Moment)
    (schedule : Schedule (dashboard.statusTasks moment).length) : List AgentStatus :=
  List.zipWith (fun outcome agent => outcome.getD ⟨agent, .offline⟩)
    (Schedule.results _ schedule) dashboard.roster

/-- The status of each agent, in the order of the roster. -/
def statuses (dashboard : Dashboard) (moment : Moment) : List AgentStatus :=
  dashboard.statusesUnder moment (.inOrder _)

/-- The counters of the notes. -/
def snapshot (dashboard : Dashboard) (moment : Moment) : Snapshot :=
  Snapshot.of moment.disk dashboard.snapshotSources

/-- The digest of the notes. -/
def memory (dashboard : Dashboard) (moment : Moment) : Except PollFault MemoryDigest :=
  MemoryDigest.of moment.disk dashboard.memorySources moment.today

/-- The health of the host. -/
def health (dashboard : Dashboard) (moment : Moment) : Health :=
  Health.observe moment.surroundings dashboard.diskMount dashboard.services dashboard.probeTimeout

end Dashboard

end FleetWatch
