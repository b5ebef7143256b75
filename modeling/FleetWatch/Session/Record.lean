import FleetWatch.Json.Reader
import FleetWatch.Text.Excerpt
import FleetWatch.Text.Search
import FleetWatch.Time.Timestamp

/-!
# Log records

A line of a session log holds one JSON object. Records of the kind `message` carry what the
assistant or the user has said; the others count only for their timestamps. A field that does not
have the expected shape is as good as missing.

## Main Definitions

* `Message` — the message of a record
* `Record` — a line of a log
* `Record.read?` — the record of a line
* `messageText?` — what a message says
* `isNoise` — text that is no news
-/

namespace FleetWatch

open Text

/-! ### What a message says -/

/-- The text of one block of a message: of the type `text`, and not blank. -/
def blockText? (block : Json) : Option String := do
  let kind ← (← block.field? "type").text?
  if kind = "text" then
    let text := trimmed (← (← block.field? "text").text?)
    if text = "" then none else some text
  else none

/-- What a message says: a text as it is, or the first of several blocks that has a text, without
the white space around it. Empty text is none. -/
def messageText? : Json → Option String
  | .text text => if text = "" then none else some text
  | .array blocks => blocks.findSome? blockText?
  | _ => none

/-- Text that an agent writes to report that it is alive. -/
def heartbeat : String := "HEARTBEAT_OK"

/-- The words that mark an announcement that has been put off. -/
def announcement : String := "Queued announce"

/-- Text that is no news: a heartbeat, or a bracketed announcement. -/
def isNoise (text : String) : Bool :=
  heartbeat.toList.isPrefixOf text.toList ||
    (['['].isPrefixOf text.toList && contains announcement.toList text.toList)

/-! ### Records -/

/-- The message of a record: who speaks, and what is said in some form. -/
structure Message where
  role : Option String
  content : Option Json
deriving Repr

/-- A line of a session log. -/
structure Record where
  kind : Option String
  id : Option Json
  timestamp : Option Json
  model : Option String
  message : Option Message
deriving Repr

/-- A value, with null as good as missing. -/
def present : Json → Option Json
  | .null => none
  | value => some value

/-- The message that a value describes: an object with a role and a content, or an array of at
most these two in order. -/
def Message.ofJson? : Json → Option Message
  | .object fields =>
    some ⟨(Json.lookup "role" fields).bind Json.text?,
      (Json.lookup "content" fields).bind present⟩
  | .array [] => some ⟨none, none⟩
  | .array [role] => some ⟨role.text?, none⟩
  | .array [role, content] => some ⟨role.text?, present content⟩
  | _ => none

namespace Record

/-- The record that an object describes; other values are no records. -/
def ofJson? : Json → Option Record
  | .object fields =>
    some
      { kind := (Json.lookup "type" fields).bind Json.text?
        id := (Json.lookup "id" fields).bind present
        timestamp := (Json.lookup "timestamp" fields).bind present
        model := (Json.lookup "model" fields).bind Json.text?
        message := (Json.lookup "message" fields).bind Message.ofJson? }
  | _ => none

/-- The record of a line, `none` if the line is not one JSON object. -/
def read? (line : String) : Option Record := do
  ofJson? (← Json.read? line)

/-- A record of the kind that carries a message. -/
def isMessage (record : Record) : Bool :=
  record.kind == some "message"

/-- Who speaks. -/
def role? (record : Record) : Option String := do
  (← record.message).role

/-- The record's own identifier: a text that is not empty, or a number other than zero. -/
def ownId? (record : Record) : Option String := do
  match ← record.id with
  | .text id => if id = "" then none else some id
  | .number n =>
    match n.toBinary64? with
    | some x => if x.isZero then none else some n.text
    | none => some n.text
  | _ => none

/-- Whether the record carries a timestamp, readable or not. -/
def hasTimestamp (record : Record) : Bool :=
  match record.timestamp with
  | none => false
  | some (.text text) => text != ""
  | some _ => true

/-- The instant of a number of milliseconds. -/
def instantOfMillis? (n : Json.Number) : Option Instant := do
  Instant.ofMillisFloat? (← n.toBinary64?)

/-- The timestamp as text: a text as it is, or a number of milliseconds in the emitted form. -/
def timestampText? (record : Record) : Option String := do
  match ← record.timestamp with
  | .text text => some text
  | .number n => (instantOfMillis? n).map Instant.iso
  | _ => none

/-- The instant of the timestamp, if it can be read. -/
def instant? (record : Record) : Option Instant := do
  match ← record.timestamp with
  | .text text => Instant.read? text
  | .number n => instantOfMillis? n
  | _ => none

/-- What the message of the record says. -/
def text? (record : Record) : Option String := do
  if record.isMessage then messageText? (← (← record.message).content) else none

/-- What the message of the record says, if the assistant speaks. -/
def assistantText? (record : Record) : Option String :=
  if record.role? = some "assistant" then record.text? else none

end Record

end FleetWatch
