import FleetWatch.Host.Health
import FleetWatch.Roster

/-!
# Configurations

What can be set, with what holds where nothing is set.

## Main Definitions

* `Config` — the settings in sections
* `AgentSettings` — the settings of one agent
-/

namespace FleetWatch

/-- Where the server listens. -/
structure ServerSettings where
  host : String := "127.0.0.1"
  port : Nat := 3100
deriving DecidableEq, Repr

/-- Where the files are. In these paths variables and the home directory may be named. -/
structure PathSettings where
  agentsBase : String := "~/.openclaw/agents"
  workspaceMain : String := "~/.openclaw/workspace-main"
  workspaceBusiness : String := "~/.openclaw/workspace-business"
deriving DecidableEq, Repr

/-- How the feed is made. -/
structure ActivitySettings where
  windowHours : Nat := 24
  cap : Nat := 50
  maxChars : Nat := 300
deriving DecidableEq, Repr

/-- How a status is judged. -/
structure StatusSettings where
  tailLines : Nat := 10
  maxChars : Nat := 200
  activeSecs : Int := 300
  idleSecs : Int := 1800
deriving DecidableEq, Repr

/-- What is looked at for the health of the host. -/
structure HealthSettings where
  diskMount : String := "/"
  timeoutMillis : Nat := 2000
  services : List Service := [⟨"gateway", "127.0.0.1:18789"⟩, ⟨"ollama", "127.0.0.1:11434"⟩]
deriving DecidableEq, Repr

/-- An agent as it is configured. -/
structure AgentSettings where
  id : String
  name : Option String
  color : Option String
  sessionDir : Option String
deriving DecidableEq, Repr

/-- The agents that are watched where none are configured. -/
def AgentSettings.defaults : List AgentSettings :=
  [⟨"jarvis", some "Jarvis", some "#63D866", none⟩,
    ⟨"codebot", some "CodeBot", some "#3A7BC8", none⟩,
    ⟨"reviewbot", some "ReviewBot", some "#B49A60", none⟩,
    ⟨"bizbot", some "BizBot", some "#9AED9C", none⟩]

/-- A configuration. -/
structure Config where
  server : ServerSettings := {}
  paths : PathSettings := {}
  activity : ActivitySettings := {}
  status : StatusSettings := {}
  health : HealthSettings := {}
  agents : List AgentSettings := AgentSettings.defaults
deriving DecidableEq, Repr

end FleetWatch
