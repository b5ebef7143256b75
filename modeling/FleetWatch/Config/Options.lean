import FleetWatch.Config.Basic
import FleetWatch.Config.Environment
import FleetWatch.Config.Error
import FleetWatch.Notes.Memory
import FleetWatch.Notes.Snapshot
import FleetWatch.Session.Feed
import FleetWatch.Session.Liveness

/-!
# From settings to options

What the settings of a configuration come to. The roster and the time limits of the status can be
at fault; everything else is as it is set.

## Main Definitions

* `Config.roster` — the agents, or the first of them that is at fault
* `Config.feedOptions`, `Config.statusOptions` — the options of the feed and of the status
* `Config.snapshotSources`, `Config.memorySources` — where the notes are
-/

namespace FleetWatch

open Text

/-! ### The roster -/

/-- The agent that an entry with the given trimmed identifier describes. Its name is the
identifier if it has none, and its logs are in a directory named for it if no other is given. -/
def AgentSettings.toAgent (env : Environment) (base : Path) (settings : AgentSettings)
    (id : String) : Agent where
  id := id
  name := settings.name.getD id
  color := settings.color.getD Agent.defaultColor
  sessionDir :=
    match settings.sessionDir with
    | some directory => env.expand directory
    | none => (base.join (.ofString id)).join (.ofString "sessions")

/-- The agents of entries, given the identifiers before them. An identifier must not be blank, and
must not be one of those before it. -/
def AgentSettings.roster (env : Environment) (base : Path) (seen : List String) :
    List AgentSettings → Except ConfigError Roster
  | [] => .ok []
  | settings :: rest =>
    let id := trimmed settings.id
    if id = "" then .error .emptyAgentId
    else if id ∈ seen then .error (.duplicateAgent id)
    else do
      let agents ← roster env base (id :: seen) rest
      .ok (settings.toAgent env base id :: agents)

namespace Config

/-- The agents of a configuration, in order. -/
def roster (config : Config) (env : Environment) : Except ConfigError Roster :=
  AgentSettings.roster env (env.expand config.paths.agentsBase) [] config.agents

/-! ### Options -/

/-- The longest window of the feed in seconds. -/
def longestWindow : Nat := 18446744073709551615

/-- The options of the feed. A window that is too long is as long as can be. -/
def feedOptions (config : Config) : FeedOptions where
  window := min (config.activity.windowHours * 3600) longestWindow
  cap := config.activity.cap
  maxChars := config.activity.maxChars

/-- The largest time limit in seconds, and without its sign the smallest. -/
def longestLimit : Int := 9223372036854775

/-- A time limit in nanoseconds. -/
def timeLimit (key : String) (seconds : Int) : Except ConfigError Int :=
  if -longestLimit ≤ seconds ∧ seconds ≤ longestLimit then .ok (seconds * 1000000000)
  else .error (.invalidDuration key seconds)

/-- The options of the status. -/
def statusOptions (config : Config) : Except ConfigError StatusOptions := do
  let activeWithin ← timeLimit "status.active_secs" config.status.activeSecs
  let idleWithin ← timeLimit "status.idle_secs" config.status.idleSecs
  .ok
    { tailLines := config.status.tailLines
      maxChars := config.status.maxChars
      activeWithin := activeWithin
      idleWithin := idleWithin }

/-- Where the notes are that are counted. -/
def snapshotSources (config : Config) (env : Environment) : SnapshotSources :=
  .ofWorkspaces (env.expand config.paths.workspaceMain) (env.expand config.paths.workspaceBusiness)

/-- Where the notes are that are digested. -/
def memorySources (config : Config) (env : Environment) : MemorySources :=
  .ofWorkspace (env.expand config.paths.workspaceMain)

/-- The mount point that is looked at. -/
def diskMount (config : Config) (env : Environment) : Path :=
  env.expand config.health.diskMount

end Config

end FleetWatch
