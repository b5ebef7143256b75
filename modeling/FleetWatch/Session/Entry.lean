import FleetWatch.Roster
import FleetWatch.Session.Record

/-!
# Feed entries

What the feed shows of a message: who said it, what was said in short, and when.

## Main Definitions

* `shownRoles` — the two speakers whose messages are shown
* `Entry` — a message as it is shown
* `EntryReader` — the circumstances under which lines are read
* `EntryReader.read?` — the entry of a line, if the line is to be shown
-/

namespace FleetWatch

open Text

/-- The speakers whose messages are shown. -/
def shownRoles : List String := ["assistant", "user"]

/-- A message as it is shown in the feed. -/
structure Entry where
  id : String
  agentId : String
  agentName : String
  agentColor : String
  role : String
  content : String
  timestamp : String
  model : Option String
deriving DecidableEq, Repr

/-- The instant that an entry's timestamp stands for, if it can be read. -/
def Entry.instant? (entry : Entry) : Option Instant :=
  Instant.read? entry.timestamp

/-- The circumstances under which the lines of a log are read: whose log it is, how long a
content may be, and the present. -/
structure EntryReader where
  agent : Agent
  maxChars : Nat
  now : Instant

namespace EntryReader

/-- The least number of characters that are worth showing. -/
def minChars : Nat := 5

/-- The identifier of an entry: the agent's, and the record's own or else the name of the file and
the position of the line in it. -/
def entryId (reader : EntryReader) (record : Record) (file : String) (index : Nat) : String :=
  match record.ownId? with
  | some own => reader.agent.id ++ "-" ++ own
  | none => reader.agent.id ++ "-" ++ file ++ "-" ++ String.ofList (decimal index)

/-- The entry of a record, if the record is a message of one of the two speakers with text that is
worth showing. A record without a timestamp that has a text is shown at the present. -/
def entry? (reader : EntryReader) (record : Record) (file : String) (index : Nat) :
    Option Entry := do
  let role ← record.role?
  let text ← record.text?
  if role ∉ shownRoles ∨ text.length < minChars ∨ isNoise text then none
  else
    some
      { id := reader.entryId record file index
        agentId := reader.agent.id
        agentName := reader.agent.name
        agentColor := reader.agent.color
        role := role
        content := String.ofList (opening reader.maxChars text.toList)
        timestamp := record.timestampText?.getD reader.now.iso
        model := record.model }

/-- The entry of a line, the line at position `index` of a file. -/
def read? (reader : EntryReader) (line file : String) (index : Nat) : Option Entry := do
  reader.entry? (← Record.read? line) file index

end EntryReader

end FleetWatch
