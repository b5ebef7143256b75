import FleetWatch.Json.Token

/-!
# Reading JSON

Building a value from the tokens of a document, with the arrays and objects that are still open
on a stack. The reader is strict: one value, nothing after it but white space, no comma too many,
and at most 127 open arrays and objects at any point.

## Main Definitions

* `Json.ofTokens?` — the value of a token sequence
* `Json.read?` — the value of a document
-/

namespace FleetWatch.Json

/-- The largest number of arrays and objects that may be open at once. -/
def maxDepth : Nat := 127

/-- An open array or object with what it holds so far, last first; an object with the name of the
member being read. -/
inductive Frame where
  | array (items : List Json)
  | object (fields : List (String × Json)) (key : String)

/-- What may come next. -/
inductive Stage where
  /-- A value. -/
  | value
  /-- The first item of an array or its end. -/
  | firstItem
  /-- The first name of an object or its end. -/
  | firstKey
  /-- The name of a further member. -/
  | key
  /-- The colon after a name. -/
  | colon
  /-- A comma, or the end of the array or object. -/
  | separator
  /-- Nothing: the document is complete. -/
  | done (value : Json)

/-- The reader: the open arrays and objects, innermost first, and what may come next. -/
structure Reader where
  stack : List Frame
  stage : Stage

/-- Puts a finished value into the innermost open array or object. -/
def Reader.place (value : Json) : List Frame → Reader
  | [] => ⟨[], .done value⟩
  | .array items :: rest => ⟨.array (value :: items) :: rest, .separator⟩
  | .object fields key :: rest => ⟨.object ((key, value) :: fields) key :: rest, .separator⟩

/-- Opens an array or object if the depth allows. -/
def Reader.enter? (frame : Frame) (stage : Stage) (stack : List Frame) : Option Reader :=
  if stack.length < maxDepth then some ⟨frame :: stack, stage⟩ else none

/-- A token where a value may start. -/
def Reader.value? (stack : List Frame) : Token → Option Reader
  | .null => some (place .null stack)
  | .bool value => some (place (.bool value) stack)
  | .number value => some (place (.number value) stack)
  | .text value => some (place (.text value) stack)
  | .openArray => enter? (.array []) .firstItem stack
  | .openObject => enter? (.object [] "") .firstKey stack
  | _ => none

/-- Closes the innermost array or object, if the token is the one that closes it. -/
def Reader.close? : List Frame → Token → Option Reader
  | .array items :: rest, .closeArray => some (place (.array items.reverse) rest)
  | .object fields _ :: rest, .closeObject => some (place (.object fields.reverse) rest)
  | _, _ => none

/-- The name of a member of the innermost object. -/
def Reader.key? : List Frame → Token → Option Reader
  | .object fields _ :: rest, .text key => some ⟨.object fields key :: rest, .colon⟩
  | _, _ => none

/-- One token. -/
def Reader.step (r : Reader) (token : Token) : Option Reader :=
  match r.stage with
  | .value => value? r.stack token
  | .firstItem => (close? r.stack token).orElse fun _ => value? r.stack token
  | .firstKey => (close? r.stack token).orElse fun _ => key? r.stack token
  | .key => key? r.stack token
  | .colon =>
    match token with
    | .colon => some ⟨r.stack, .value⟩
    | _ => none
  | .separator =>
    match token, r.stack with
    | .comma, .array _ :: _ => some ⟨r.stack, .value⟩
    | .comma, .object _ _ :: _ => some ⟨r.stack, .key⟩
    | token, stack => close? stack token
  | .done _ => none

/-- The value that a token sequence is, `none` if it is not exactly one value. -/
def ofTokens? (tokens : List Token) : Option Json := do
  let r ← tokens.foldlM Reader.step ⟨[], .value⟩
  match r.stage with
  | .done value => some value
  | _ => none

/-- The value of a document, `none` if the document is not well formed. -/
def read? (document : String) : Option Json := do
  ofTokens? (← Token.scan? document.toList)

end FleetWatch.Json
