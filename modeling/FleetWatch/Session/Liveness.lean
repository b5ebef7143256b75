import FleetWatch.Session.Entry
import FleetWatch.Session.Log

/-!
# Liveness

Whether an agent is at work, judged from the end of its latest log: the last line that carries a
timestamp says when it was last heard of, and the last thing its assistant said is shown beside.

## Main Definitions

* `Liveness` — active, idle or offline
* `Liveness.classify` — by the time since the agent was last heard of
* `Signals.scan` — one backward pass over the end of a log
* `Status` — what is known of an agent
* `Status.of` — the status that a session directory shows
* `AgentStatus` — the status beside the agent it is of

## Design Notes

A log can carry a modification time that lies outside the calendar. Then there is no instant to
report, and the question for the status has no answer; `PollFault` says so.
-/

namespace FleetWatch

open Text

/-- Whether an agent is at work. -/
inductive Liveness where
  | active
  | idle
  | offline
deriving DecidableEq, Repr

/-- The word for it. -/
def Liveness.name : Liveness → String
  | .active => "active"
  | .idle => "idle"
  | .offline => "offline"

/-- How many lines to look at, how long the message may be, and the time in nanoseconds within
which an agent counts as active and as idle. -/
structure StatusOptions where
  tailLines : Nat := 10
  maxChars : Nat := 200
  activeWithin : Int := 300000000000
  idleWithin : Int := 1800000000000
deriving DecidableEq, Repr

/-- Judges by the time since the agent was last heard of. An agent never heard of is offline. -/
def Liveness.classify (options : StatusOptions) (now : Instant) : Option Instant → Liveness
  | none => .offline
  | some last =>
    let elapsed := now.since last
    if elapsed < options.activeWithin then .active
    else if elapsed < options.idleWithin then .idle
    else .offline

/-! ### Signals -/

/-- What a backward pass has found: whether a timestamp was seen, the instant it stands for, and
the last message. -/
structure Signals where
  timestampSeen : Bool
  lastInstant : Option Instant
  lastMessage : Option String
deriving DecidableEq, Repr

/-- The signals before any line. -/
def Signals.none : Signals :=
  ⟨false, .none, .none⟩

/-- The signals after one more line. -/
def Signals.see (maxChars : Nat) (signals : Signals) (record : Record) : Signals :=
  let (seen, instant) :=
    if !signals.timestampSeen && record.hasTimestamp then (true, record.instant?)
    else (signals.timestampSeen, signals.lastInstant)
  let message := signals.lastMessage.orElse fun _ =>
    record.assistantText?.map fun text => String.ofList (opening maxChars text.toList)
  ⟨seen, instant, message⟩

/-- The signals after some more lines, last line first. The pass stops when nothing is left to be
found, and lines that hold no record count for nothing. -/
def Signals.run (maxChars : Nat) (signals : Signals) : List String → Signals
  | [] => signals
  | line :: lines =>
    if signals.timestampSeen && signals.lastMessage.isSome then signals
    else
      match Record.read? line with
      | .none => run maxChars signals lines
      | some record => run maxChars (signals.see maxChars record) lines

/-- The signals of lines in the order of the log. -/
def Signals.scan (maxChars : Nat) (lines : List String) : Signals :=
  Signals.run maxChars .none lines.reverse

/-! ### Status -/

/-- Why a question has no answer. -/
inductive PollFault where
  /-- The modification time of a file lies outside the calendar. -/
  | timeOutOfRange
deriving DecidableEq, Repr

/-- The last words of a task that meets a fault. -/
def PollFault.message : PollFault → String
  | .timeOutOfRange => "No such local time"

/-- The modification time of a file as an instant. -/
def modifiedInstant (time : FileTime) : Except PollFault Instant :=
  match time.toInstant? with
  | some instant => .ok instant
  | none => .error .timeOutOfRange

/-- What is known of an agent: its liveness, when it was last heard of, what its assistant last
said, and the log that says so. -/
structure Status where
  liveness : Liveness
  lastActiveAt : Option Instant
  lastMessage : Option String
  sessionFile : Option String
deriving DecidableEq, Repr

/-- The status of an agent of which nothing is known. -/
def Status.offline : Status :=
  ⟨.offline, none, none, none⟩

/-- The status that a session directory shows. If the last timestamp is missing or cannot be read,
the log's modification time stands for it. -/
def Status.of (disk : Disk) (options : StatusOptions) (now : Instant) (directory : Path) :
    Except PollFault Status :=
  match SessionLog.latest? disk directory with
  | none => .ok .offline
  | some log => do
    let signals := Signals.scan options.maxChars (disk.logTail log.path options.tailLines)
    let last ←
      match signals.lastInstant with
      | some instant => .ok instant
      | none => modifiedInstant log.modified
    .ok
      { liveness := Liveness.classify options now (some last)
        lastActiveAt := some last
        lastMessage := signals.lastMessage
        sessionFile := some log.fileName }

/-- An agent beside its status. -/
structure AgentStatus where
  agent : Agent
  status : Status
deriving DecidableEq, Repr

/-- The status of an agent. -/
def AgentStatus.of (disk : Disk) (options : StatusOptions) (now : Instant) (agent : Agent) :
    Except PollFault AgentStatus :=
  (Status.of disk options now agent.sessionDir).map (⟨agent, ·⟩)

end FleetWatch
