import FleetWatch.Poll.Reach

/-!
# Looking at files

Copies of the places of the real file system that are of interest. What is not looked at counts as
missing.

## Main Definitions

* `Sightings` — what has been seen of a file system
* `Sightings.disk` — what has been seen, as a disk
* `Sightings.ofPaths`, `Sightings.ofDashboard` — looking at files
-/

namespace FleetWatch

/-- What has been seen of a file system: files with their state and bytes, and the names in
directories. -/
structure Sightings where
  files : List (Path × Option FileState × Except ReadError (List UInt8))
  listings : List (Path × Option Listing)

namespace Sightings

/-- What has been seen, as a disk. -/
def disk (seen : Sightings) : Disk where
  state? path := (seen.files.lookup path).bind (·.1)
  read path := ((seen.files.lookup path).map (·.2)).getD (.error .notFound)
  list? path := (seen.listings.lookup path).bind id

/-- What has been seen at two times. -/
def append (a b : Sightings) : Sightings :=
  ⟨a.files ++ b.files, a.listings ++ b.listings⟩

/-- The cause that the number of an error stands for. The number may come with a minus sign. -/
def causeOfCode (code : UInt32) : ReadError :=
  match (if code < 0x80000000 then code else 0 - code).toNat with
  | 20 => .notDirectory
  | 21 => .isDirectory
  | 22 => .zeroByte
  | 36 => .nameTooLong
  | 40 => .tooManyLinks
  | _ => .notFound

/-- The cause of a failed reading. -/
def cause : IO.Error → ReadError
  | .permissionDenied .. => .denied
  | .inappropriateType _ code _ => causeOfCode code
  | .invalidArgument _ code _ => causeOfCode code
  | .otherError code _ => causeOfCode code
  | _ => .notFound

/-- The kind of a file. -/
def kind : IO.FS.FileType → FileKind
  | .file => .regular
  | .dir => .directory
  | _ => .other

/-- Looks at the state of a file. -/
def state (path : Path) : IO (Option FileState) := do
  try
    let data ← (System.mkFilePath [path.display]).metadata
    let nanos := data.modified.sec * 1000000000 + data.modified.nsec.toNat
    return (FileTime.ofNanos? nanos).map (⟨kind data.type, ·⟩)
  catch _ => return none

/-- Reads a file. -/
def bytes (path : Path) : IO (Except ReadError (List UInt8)) := do
  try
    return .ok (← IO.FS.readBinFile path.display).toList
  catch e => return .error (cause e)

/-- Looks at files. -/
def ofPaths (paths : List Path) : IO Sightings := do
  let files ← paths.mapM fun path => do
    return (path, ← state path, ← bytes path)
  return ⟨files, []⟩

/-- Looks at the names in a directory. -/
def names (directory : Path) : IO (Option (List (List UInt8))) := do
  try
    let entries ← (System.mkFilePath [directory.display]).readDir
    return some (entries.toList.map fun entry => Text.Utf8.encode entry.fileName.toList)
  catch _ => return none

/-- Looks at a directory, and at the logs in it if they are of interest. -/
def ofDirectory (logs : Bool) (directory : Path) : IO Sightings := do
  match ← names directory with
  | none => return ⟨[], []⟩
  | some names =>
    let paths := if logs then (names.filter SessionLog.isLogName).map directory.child else []
    let seen ← ofPaths paths
    return { seen with listings := [(directory, some (.ofNames names))] }

/-- Looks at all that the answers of a dashboard depend on. -/
def ofDashboard (dashboard : Dashboard) (today : Date) : IO Sightings := do
  let mut seen ← ofPaths (dashboard.documents today)
  for directory in dashboard.logDirectories do
    seen := seen.append (← ofDirectory true directory)
  for directory in dashboard.noteDirectories do
    seen := seen.append (← ofDirectory false directory)
  return seen

end Sightings

end FleetWatch
