import FleetWatch.Disk.Basic
import FleetWatch.Text.Blank
import FleetWatch.Text.Search

/-!
# Session logs

The log files in the session directory of an agent. A file that vanishes or cannot be read leaves
the others as they are.

## Main Definitions

* `SessionLog` — a log file and its modification time
* `SessionLog.all` — the logs of a directory, ordered by name
* `SessionLog.recent` — those modified within a window of time
* `SessionLog.latest?` — the one modified last
* `Disk.logLines`, `Disk.logTail` — the lines of a log that are not blank
-/

namespace FleetWatch

open Text

/-- A log file. Its name is text. -/
structure SessionLog where
  path : Path
  name : List UInt8
  modified : FileTime
deriving DecidableEq, Repr

namespace SessionLog

/-- The ending of the names of logs. -/
def extension : String := ".jsonl"

/-- The name of a log: well-formed text with the right ending. -/
def isLogName (name : List UInt8) : Bool :=
  match Utf8.decode? name with
  | none => false
  | some text => extension.toList.isSuffixOf text

/-- The name of the file as text. -/
def fileName (log : SessionLog) : String :=
  String.ofList (Utf8.decodeLossy log.name)

/-- The log of a given name in a directory, if the name is one of a log and leads to a regular
file. -/
def ofName? (disk : Disk) (directory : Path) (name : List UInt8) : Option SessionLog :=
  if isLogName name then
    match disk.state? (directory.child name) with
    | some ⟨.regular, modified⟩ => some ⟨directory.child name, name, modified⟩
    | _ => none
  else none

/-- The order of names by their bytes. -/
def nameLE (a b : List UInt8) : Bool :=
  !decide (b < a)

/-- The logs of a directory, ordered by name. A directory that cannot be listed has none. -/
def all (disk : Disk) (directory : Path) : List SessionLog :=
  match disk.list? directory with
  | none => []
  | some listing =>
    (listing.names.filterMap (ofName? disk directory)).mergeSort fun a b => nameLE a.name b.name

/-- The logs of a directory that were modified within the last `window` seconds and `nanos`
nanoseconds. If no file can be older than that, all of them. -/
def recent (disk : Disk) (directory : Path) (window : Nat) (now : Instant) (nanos : Nat := 0) :
    List SessionLog :=
  match (FileTime.ofInstant now).before? window nanos with
  | none => all disk directory
  | some cutoff => (all disk directory).filter fun log => cutoff.nanos < log.modified.nanos

/-- The later modified of two logs, the second if there is no difference. -/
def later (a b : SessionLog) : SessionLog :=
  if b.modified.nanos < a.modified.nanos then a else b

/-- The log of a directory that was modified last; of several, the last by name. -/
def latest? (disk : Disk) (directory : Path) : Option SessionLog :=
  match all disk directory with
  | [] => none
  | log :: logs => some (logs.foldl later log)

end SessionLog

/-- The lines of a log's bytes that are not blank, in order. -/
def linesOfBytes (bytes : List UInt8) : List String :=
  ((segments '\n' (Utf8.decodeLossy bytes)).filter fun line => !allBlank line).map String.ofList

/-- The lines of a log that are not blank, in order. A log that cannot be read has none. -/
def Disk.logLines (disk : Disk) (path : Path) : List String :=
  match disk.read path with
  | .error _ => []
  | .ok bytes => linesOfBytes bytes

/-- The last `n` lines of a log that are not blank, in order. -/
def Disk.logTail (disk : Disk) (path : Path) (n : Nat) : List String :=
  let lines := disk.logLines path
  lines.drop (lines.length - n)

end FleetWatch
