import FleetWatch.Json.Basic
import FleetWatch.Session.Feed
import FleetWatch.Session.Liveness

/-!
# Views of sessions

The JSON objects that stand for entries, feeds and statuses. A model that is not known is left
out of an entry; in a status what is not known is null.

## Main Definitions

* `Entry.toJson`, `Feed.toJson`, `AgentStatus.toJson` — the objects
-/

namespace FleetWatch

/-- A text that may be missing. -/
def Json.ofText? (text : Option String) : Json :=
  match text with
  | some text => .text text
  | none => .null

/-- A natural number. -/
def Json.ofNat (n : Nat) : Json :=
  .number (.integer n)

/-- An instant in the emitted form, which may be missing. -/
def Json.ofInstant? (instant : Option Instant) : Json :=
  Json.ofText? (instant.map Instant.iso)

/-- An entry of the feed. -/
def Entry.toJson (entry : Entry) : Json :=
  .object
    ([("id", .text entry.id), ("agentId", .text entry.agentId),
      ("agentName", .text entry.agentName), ("agentColor", .text entry.agentColor),
      ("role", .text entry.role), ("content", .text entry.content),
      ("timestamp", .text entry.timestamp)] ++
      (entry.model.map fun model => ("model", Json.text model)).toList)

/-- The members of a feed. -/
def Feed.fields (feed : Feed) : List (String × Json) :=
  [("activity", .array (feed.entries.map Entry.toJson)), ("total", .ofNat feed.total)]

/-- A feed. -/
def Feed.toJson (feed : Feed) : Json :=
  .object feed.fields

/-- The status of an agent. -/
def AgentStatus.toJson (view : AgentStatus) : Json :=
  .object
    [("id", .text view.agent.id), ("name", .text view.agent.name),
      ("color", .text view.agent.color), ("status", .text view.status.liveness.name),
      ("lastActiveAt", .ofInstant? view.status.lastActiveAt),
      ("lastMessage", .ofText? view.status.lastMessage),
      ("sessionFile", .ofText? view.status.sessionFile)]

end FleetWatch
