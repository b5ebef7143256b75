import FleetWatch.Poll.Dashboard

/-!
# The reach of a dashboard

The places on a disk that the answers of a dashboard depend on, so that a copy of these places can
stand for the disk.

## Main Definitions

* `Dashboard.logDirectories`, `Dashboard.noteDirectories` — the directories whose names count
* `Dashboard.documents` — the files that are read as a whole
-/

namespace FleetWatch

namespace Dashboard

/-- The directories whose logs are read. -/
def logDirectories (dashboard : Dashboard) : List Path :=
  dashboard.roster.map (·.sessionDir)

/-- The directories whose notes are counted. -/
def noteDirectories (dashboard : Dashboard) : List Path :=
  [dashboard.snapshotSources.memoryDir]

/-- The files that are read as a whole on a given day. -/
def documents (dashboard : Dashboard) (today : Date) : List Path :=
  [dashboard.snapshotSources.leads, dashboard.snapshotSources.properties,
    dashboard.snapshotSources.ideas, dashboard.snapshotSources.businessLog,
    dashboard.memorySources.memoryDir.join (.ofString (today.text ++ ".md")),
    dashboard.memorySources.longTerm, dashboard.memorySources.overnightLog]

end Dashboard

end FleetWatch
