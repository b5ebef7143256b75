import FleetWatch.Disk.Basic
import FleetWatch.Notes.Counters
import FleetWatch.Session.View

/-!
# The business snapshot

The counters of the notes in two workspaces. A note that cannot be read counts as empty.

## Main Definitions

* `SnapshotSources` — where the notes are
* `Snapshot` — the counters
* `Snapshot.of` — the counters of the notes on a disk
-/

namespace FleetWatch

/-- Where the notes are. -/
structure SnapshotSources where
  leads : Path
  properties : Path
  ideas : Path
  businessLog : Path
  memoryDir : Path
deriving DecidableEq, Repr

/-- The notes of a main and a business workspace. -/
def SnapshotSources.ofWorkspaces (main business : Path) : SnapshotSources where
  leads := business.join (.ofString "leads.md")
  properties := main.join (.ofString "properties.md")
  ideas := main.join (.ofString "ideas.md")
  businessLog := main.join (.ofString "business-log.md")
  memoryDir := main.join (.ofString "memory")

/-- The counters of the notes. -/
structure Snapshot where
  leads : Nat
  properties : Nat
  ideas : Nat
  memoryFiles : Nat
  lastLogEntry : Option String
deriving DecidableEq, Repr

/-- Whether a name is that of a note, which it is by its ending. -/
def isNoteName (name : List UInt8) : Bool :=
  (".md".toList).isSuffixOf (Text.Utf8.decodeLossy name)

/-- The number of names of notes in a directory, of whatever kind the files are. -/
def Disk.noteCount (disk : Disk) (directory : Path) : Nat :=
  match disk.list? directory with
  | none => 0
  | some listing => listing.names.countP isNoteName

namespace Snapshot

/-- The counters of the notes on a disk. -/
def of (disk : Disk) (sources : SnapshotSources) : Snapshot :=
  let document (path : Path) := (disk.document? path).map String.toList
  { leads := ((document sources.leads).map Notes.leadCount).getD 0
    properties := ((document sources.properties).map Notes.propertyCount).getD 0
    ideas := ((document sources.ideas).map Notes.ideaCount).getD 0
    memoryFiles := disk.noteCount sources.memoryDir
    lastLogEntry :=
      ((document sources.businessLog).bind Notes.lastHeading?).map String.ofList }

/-- The members of a snapshot. -/
def fields (snapshot : Snapshot) : List (String × Json) :=
  [("leads", .ofNat snapshot.leads), ("properties", .ofNat snapshot.properties),
    ("ideas", .ofNat snapshot.ideas), ("memoryFiles", .ofNat snapshot.memoryFiles),
    ("lastLogEntry", .ofText? snapshot.lastLogEntry)]

/-- A snapshot. -/
def toJson (snapshot : Snapshot) : Json :=
  .object snapshot.fields

end Snapshot

end FleetWatch
