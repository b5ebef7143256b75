import FleetWatch.Disk.Path

/-!
# Rosters

The agents that are watched, in the order in which they are configured.

## Main Definitions

* `Agent` — an agent and the directory of its session logs
* `Roster` — the agents in order
-/

namespace FleetWatch

/-- An agent: how it is shown, and where it keeps its session logs. -/
structure Agent where
  id : String
  name : String
  color : String
  sessionDir : Path
deriving DecidableEq, Repr

/-- The color of an agent that has none of its own. -/
def Agent.defaultColor : String := "#888"

/-- The watched agents, in order. -/
abbrev Roster := List Agent

end FleetWatch
