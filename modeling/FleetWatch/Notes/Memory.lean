import FleetWatch.Disk.Basic
import FleetWatch.Session.Liveness
import FleetWatch.Session.View
import FleetWatch.Text.Excerpt

/-!
# The memory digest

The note of the day, the end of the long-term notes, and the age of the overnight log.

## Main Definitions

* `MemorySources` — where the notes are
* `MemoryDigest` — the digest
* `MemoryDigest.of` — the digest of the notes on a disk
-/

namespace FleetWatch

open Text

/-- Where the notes are. -/
structure MemorySources where
  memoryDir : Path
  longTerm : Path
  overnightLog : Path
deriving DecidableEq, Repr

/-- The notes of a workspace. -/
def MemorySources.ofWorkspace (main : Path) : MemorySources where
  memoryDir := main.join (.ofString "memory")
  longTerm := main.join (.ofString "MEMORY.md")
  overnightLog := main.join (.ofString "overnight-log.md")

/-- The digest: the note of a day, the end of the long-term notes, and when the overnight log was
modified. -/
structure MemoryDigest where
  date : Date
  today : Option String
  longTerm : Option String
  overnight : Option Instant
deriving DecidableEq, Repr

namespace MemoryDigest

/-- How many characters of the long-term notes are shown. -/
def longTermChars : Nat := 500

/-- The digest of the notes on a disk. -/
def of (disk : Disk) (sources : MemorySources) (today : Date) : Except PollFault MemoryDigest := do
  let note := disk.document? (sources.memoryDir.join (.ofString (today.text ++ ".md")))
  let longTerm := (disk.document? sources.longTerm).map fun text =>
    String.ofList (ending longTermChars text.toList)
  let overnight ←
    match disk.state? sources.overnightLog with
    | none => .ok none
    | some state => (modifiedInstant state.modified).map some
  .ok ⟨today, note, longTerm, overnight⟩

/-- The members of a digest. -/
def fields (digest : MemoryDigest) : List (String × Json) :=
  [("today",
      .object
        [("date", .text digest.date.text), ("content", .ofText? digest.today),
          ("exists", .bool digest.today.isSome)]),
    ("longTerm",
      .object
        [("content", .ofText? digest.longTerm), ("exists", .bool digest.longTerm.isSome)]),
    ("overnightLog",
      .object
        [("mtime",
            match digest.overnight with
            | some modified => .number (.integer modified.millis)
            | none => .null),
          ("mtimeIso", .ofInstant? digest.overnight)])]

/-- A digest. -/
def toJson (digest : MemoryDigest) : Json :=
  .object digest.fields

end MemoryDigest

end FleetWatch
