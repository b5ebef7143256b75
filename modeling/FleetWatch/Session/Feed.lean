import FleetWatch.Session.Entry
import FleetWatch.Session.Log

/-!
# The activity feed

The messages of all agents, newest first. Messages of one instant stay in the order in which they
were found: by agent, then by file, then by line. Messages whose timestamp cannot be read come
last.

## Main Definitions

* `FeedOptions` — how far back to look and how much to show
* `Feed` — the messages shown, and how many there are in all
* `logEntries`, `agentEntries` — the entries of a log and of an agent
* `Feed.merge` — the feed of the entries of several agents
* `Feed.of` — the feed of a roster
-/

namespace FleetWatch

/-- How many seconds to look back, how many entries to show, how long a content may be, and how
many nanoseconds to look back beyond the seconds. -/
structure FeedOptions where
  window : Nat := 86400
  cap : Nat := 50
  maxChars : Nat := 300
  windowNanos : Nat := 0
deriving DecidableEq, Repr

/-- The entries shown, and the number of all entries. -/
structure Feed where
  entries : List Entry
  total : Nat
deriving DecidableEq, Repr

/-- The entries of the lines of a log, each read at its position among them. -/
def lineEntries (reader : EntryReader) (file : String) (lines : List String) : List Entry :=
  lines.zipIdx.filterMap fun (line, index) => reader.read? line file index

/-- The entries of a log. -/
def logEntries (disk : Disk) (reader : EntryReader) (log : SessionLog) : List Entry :=
  lineEntries reader log.fileName (disk.logLines log.path)

/-- The entries of the recent logs of an agent. -/
def agentEntries (disk : Disk) (options : FeedOptions) (now : Instant) (agent : Agent) :
    List Entry :=
  (SessionLog.recent disk agent.sessionDir options.window now options.windowNanos).flatMap
    (logEntries disk ⟨agent, options.maxChars, now⟩)

namespace Feed

/-- The order of the feed: later instants before earlier ones, and before what has none. -/
def newerOrSame : Option Instant → Option Instant → Bool
  | some a, some b => b.le a
  | some _, none => true
  | none, some _ => false
  | none, none => true

/-- The entries in the order of the feed. -/
def sorted (entries : List Entry) : List Entry :=
  ((entries.map fun entry => (entry.instant?, entry)).mergeSort
    fun a b => newerOrSame a.1 b.1).map (·.2)

/-- The feed of the entries of several agents, of which at most `cap` are shown. -/
def merge (perAgent : List (List Entry)) (cap : Nat) : Feed :=
  let entries := sorted perAgent.flatten
  ⟨entries.take cap, entries.length⟩

/-- The feed of a roster. -/
def of (disk : Disk) (options : FeedOptions) (now : Instant) (roster : Roster) : Feed :=
  merge (roster.map (agentEntries disk options now)) options.cap

end Feed

end FleetWatch
