import FleetWatch.Proofs.Session.LastHeard
import FleetWatch.Proofs.Session.Acceptance

/-!
# Members of the wrong shape

A record is read leniently. A member that does not have the shape that is asked for spoils nothing
else, and the record is the one of the same object without it. There is one exception: a message may
come as an array of a role and a content, or of the first of them only, and then it is taken for a
message.

## Main Definitions

* `Json.without` — an object without the members of a name
* `Json.withMember` — an object with another value for a name
* `Json.IsMessageArray` — an array that is taken for a message

## Design Notes

Of several members of one name the last counts, so an object without that member must be one without
all members of the name: otherwise the one before would count instead.
-/

namespace FleetWatch

open Json (Member)

namespace Json

/-! ### Objects without a member -/

/-- The members of an object but those of a name. -/
def without (name : String) (fields : List (String × Json)) : List (String × Json) :=
  fields.filter (·.1 != name)

/-- The members of an object, with another value for those of a name. -/
def withMember (name : String) (value : Json) (fields : List (String × Json)) :
    List (String × Json) :=
  fields.map fun field => if field.1 = name then (field.1, value) else field

/-- Only the name that is left out is missing. -/
theorem lookup_without (name other : String) (fields : List (String × Json)) :
    lookup name (without other fields) = if name = other then none else lookup name fields := by
  rw [lookup, without, ← List.filter_reverse, List.find?_filter]
  split
  · next same =>
    rw [Option.map_eq_none_iff, List.find?_eq_none]
    intro field _
    simp [same]
  · next ne =>
    rw [lookup]
    congr 2
    funext field
    by_cases named : field.1 = name <;> simp [named, ne]

/-- Only the name whose value is replaced has another value. -/
theorem lookup_withMember (name other : String) (value : Json) (fields : List (String × Json)) :
    lookup name (withMember other value fields) =
      if name = other then (lookup name fields).map fun _ => value else lookup name fields := by
  have names : ((fun field : String × Json => field.1 == name) ∘ fun field =>
      if field.1 = other then (field.1, value) else field) = fun field => field.1 == name := by
    funext field
    by_cases named : field.1 = other <;> simp [named]
  rw [lookup, withMember, ← List.map_reverse, List.find?_map, names, Option.map_map, lookup]
  cases found : fields.reverse.find? (·.1 == name) with
  | none => simp
  | some field =>
      have named : field.1 = name := by simpa using List.find?_some found
      by_cases same : name = other <;> simp [named, same]

/-- **An array that is taken for a message**: it has no more items than a message has members. -/
def IsMessageArray (value : Json) : Prop :=
  ∃ items, value = .array items ∧ items.length ≤ 2

/-- A value that is no text is not read as a text. -/
theorem text?_eq_none {value : Json} (odd : ∀ text, value ≠ .text text) : value.text? = none := by
  cases value with
  | text text => exact absurd rfl (odd text)
  | null | bool | number | array | object => rfl

/-- A member that is no text is read like one that is missing. -/
theorem lookup_bind_text?_eq_none {name : String} {fields : List (String × Json)} {value : Json}
    (isMember : Member name value fields) (odd : ∀ text, value ≠ .text text) :
    (lookup name fields).bind Json.text? = none := by
  rw [lookup_eq_some_iff.mpr isMember, Option.bind_some, text?_eq_none odd]

end Json

open Json (without withMember IsMessageArray)

/-! ### Messages of the wrong shape -/

/-- Of the values that are no objects, just the arrays with few items are taken for messages. -/
theorem Message.ofJson?_eq_none_iff {value : Json} (odd : ∀ members, value ≠ .object members) :
    ofJson? value = none ↔ ¬ IsMessageArray value := by
  cases value with
  | object members => exact absurd rfl (odd members)
  | null | bool | number | text => simp [ofJson?, IsMessageArray]
  | array items =>
      match items with
      | [] | [_] | [_, _] => simp [ofJson?, IsMessageArray]
      | _ :: _ :: _ :: rest => simp [ofJson?, IsMessageArray]

/-- A message that is no object has a content only if it is an array of two items. -/
theorem Message.content_eq_none {value : Json} {message : Message}
    (odd : ∀ members, value ≠ .object members)
    (noPair : ∀ role content, value ≠ .array [role, content])
    (h : ofJson? value = some message) : message.content = none := by
  cases value with
  | object members => exact absurd rfl (odd members)
  | null | bool | number | text => cases h
  | array items =>
      match items with
      | [] | [_] =>
          cases h
          rfl
      | [role, content] => exact absurd rfl (noPair role content)
      | _ :: _ :: _ :: _ => cases h

/-- A message without a role that is a text is read like one without a role. -/
theorem Message.ofJson?_without_role {members : List (String × Json)}
    (noRole : (Json.lookup "role" members).bind Json.text? = none) :
    ofJson? (.object (without "role" members)) = ofJson? (.object members) := by
  simp only [ofJson?, Json.lookup_without, noRole]
  rfl

/-! ### Records -/

namespace Record

variable {fields : List (String × Json)}

/-- A line that is an object has the record of the object. -/
theorem read?_of_isDocument {line : String} (isDocument : Json.IsDocument line (.object fields)) :
    Record.read? line = ofJson? (.object fields) := by
  rw [Record.read?, Json.read?_eq_some_iff.mpr isDocument]
  rfl

/-- Without a type that is a text, a record has the same members as one without a type, and likewise
without a model. -/
theorem ofJson?_without_text {name : String} (h : name ∈ ["type", "model"])
    (noText : (Json.lookup name fields).bind Json.text? = none) :
    ofJson? (.object (without name fields)) = ofJson? (.object fields) := by
  simp only [List.mem_cons, List.not_mem_nil, or_false] at h
  rcases h with rfl | rfl
  · simp [ofJson?, Json.lookup_without, noText]
  · simp [ofJson?, Json.lookup_without, noText]

/-- A record has no message just if it is the record of the same object without one. -/
theorem ofJson?_without_message_iff :
    ofJson? (.object (without "message" fields)) = ofJson? (.object fields) ↔
      (Json.lookup "message" fields).bind Message.ofJson? = none := by
  simp [ofJson?, Json.lookup_without, eq_comm]

/-- Another value for the message makes no difference if it is read as the same message. -/
theorem ofJson?_withMember_message {value value' : Json} (isMember : Member "message" value fields)
    (same : Message.ofJson? value' = Message.ofJson? value) :
    ofJson? (.object (withMember "message" value' fields)) = ofJson? (.object fields) := by
  simp [ofJson?, Json.lookup_withMember, Json.lookup_eq_some_iff.mpr isMember, same]

/-- A record whose message has no content says nothing. -/
theorem text?_eq_none {record : Record}
    (h : ∀ message, record.message = some message → message.content = none) :
    record.text? = none := by
  rw [text?]
  split
  · cases found : record.message with
    | none => rfl
    | some message =>
        simp only [Option.bind_eq_bind, Option.bind_some, h message found, Option.bind_none]
  · rfl

end Record

/-- A line that says nothing makes no entry and no message of a status. -/
theorem silent_of_text?_eq_none {line : String} {record : Record}
    (isRecord : Record.read? line = some record) (h : record.text? = none) :
    assistantTextOf? line = none ∧
      ∀ (reader : EntryReader) (file : String) (index : Nat),
        reader.read? line file index = none := by
  constructor
  · rw [assistantTextOf?, isRecord, Option.bind_some, Record.assistantText?, h, ite_self]
  · intro reader file index
    rw [Option.eq_none_iff_forall_ne_some]
    intro entry read
    obtain ⟨record', isRecord', shown⟩ := EntryReader.read?_eq_some_iff.mp read
    obtain rfl := Option.some.inj (isRecord.symm.trans isRecord')
    obtain ⟨role, text, -, said, -⟩ := EntryReader.entry?_eq_some_iff.mp shown
    rw [h] at said
    cases said

/-- **A member of the wrong shape is as good as missing**, unless it is an array that is taken for a
message. A line that is an object always has a record. It is that of the same object without the
type or the model, if this is no text; without the role of its message, if this is no text; and
without the message, if this is no object, just if it is not such an array. A line whose message is
no object makes no entry and no message of a status, if it is not an array of two items. -/
theorem Record.read?_eq_ofJson?_without {line : String} {fields : List (String × Json)}
    (isDocument : Json.IsDocument line (.object fields)) :
    (∃ record, Record.read? line = some record) ∧
    (∀ name ∈ ["type", "model"], ∀ value, Member name value fields →
      (∀ text, value ≠ .text text) →
      Record.read? line = ofJson? (.object (without name fields))) ∧
    (∀ members role, Member "message" (.object members) fields → Member "role" role members →
      (∀ text, role ≠ .text text) → Record.read? line =
        ofJson? (.object (withMember "message" (.object (without "role" members)) fields))) ∧
    ∀ value, Member "message" value fields → (∀ members, value ≠ .object members) →
      (Record.read? line = ofJson? (.object (without "message" fields)) ↔ ¬ IsMessageArray value) ∧
      ((∀ role content, value ≠ .array [role, content]) →
        assistantTextOf? line = none ∧
          ∀ (reader : EntryReader) (file : String) (index : Nat),
            reader.read? line file index = none) := by
  have isRecord := read?_of_isDocument isDocument
  refine ⟨⟨_, isRecord⟩, ?_, ?_, ?_⟩
  · intro name mem value isMember odd
    rw [isRecord, ofJson?_without_text mem (Json.lookup_bind_text?_eq_none isMember odd)]
  · intro members role isMember isRole odd
    have same := Message.ofJson?_without_role (Json.lookup_bind_text?_eq_none isRole odd)
    rw [isRecord, ofJson?_withMember_message isMember same]
  · intro value isMember odd
    have message : (Json.lookup "message" fields).bind Message.ofJson? = Message.ofJson? value := by
      rw [Json.lookup_eq_some_iff.mpr isMember, Option.bind_some]
    constructor
    · rw [isRecord, eq_comm, ofJson?_without_message_iff, message,
        Message.ofJson?_eq_none_iff odd]
    · intro noPair
      refine silent_of_text?_eq_none isRecord (text?_eq_none ?_)
      intro found isMessage
      exact Message.content_eq_none odd noPair (message.symm.trans isMessage)

/-- A line whose type is no text, and whose message is an array of too many items. -/
theorem Record.read?_eq_ofJson?_without_three_items :
    let line := "\x7b\"type\":false,\"message\":[\"assistant\",\"Hello\",\"there\"]\x7d"
    let message : Json := .array [.text "assistant", .text "Hello", .text "there"]
    let fields : List (String × Json) := [("type", .bool false), ("message", message)]
    Json.IsDocument line (.object fields) ∧
      Record.read? line = ofJson? (.object [("message", message)]) ∧
      Record.read? line = ofJson? (.object [("type", .bool false)]) ∧
      assistantTextOf? line = none := by
  intro line message fields
  have read : Json.read? line = some (.object fields) := by
    dsimp only [line, fields, message]
    rfl
  have isDocument : Json.IsDocument line (.object fields) := Json.read?_eq_some_iff.mp read
  obtain ⟨-, texts, -, messages⟩ := read?_eq_ofJson?_without isDocument
  have kind : Member "type" (.bool false) fields := Json.lookup_eq_some_iff.mp rfl
  have isMember : Member "message" message fields := Json.lookup_eq_some_iff.mp rfl
  obtain ⟨same, silent⟩ := messages message isMember fun _ => Json.noConfusion
  have tooLong : ¬ IsMessageArray message := by
    rintro ⟨items, isArray, few⟩
    obtain rfl := Json.array.inj isArray
    exact absurd few (by decide)
  refine ⟨isDocument, texts "type" (by decide) _ kind fun _ => Json.noConfusion,
    same.mpr tooLong, (silent ?_).1⟩
  rintro role content isPair
  exact tooLong ⟨_, isPair, Nat.le_refl 2⟩

/-- **A message can be an array of a role and a content.** The record is then not that of the same
object without a message: the status of the agent shows the second item, and so does the feed. -/
theorem Record.read?_ne_ofJson?_without_message :
    let line := "\x7b\"type\":\"message\",\"message\":[\"assistant\",\"Hello there\"]\x7d"
    let message : Json := .array [.text "assistant", .text "Hello there"]
    let fields : List (String × Json) := [("type", .text "message"), ("message", message)]
    let reader : EntryReader := ⟨⟨"scout", "Scout", "#888", .ofString "/logs"⟩, 300, .ofMinutes 0⟩
    Json.IsDocument line (.object fields) ∧ Member "message" message fields ∧
      Record.read? line ≠ ofJson? (.object (without "message" fields)) ∧
      (Signals.scan 200 [line]).lastMessage = some "Hello there" ∧
      (reader.read? line "a.jsonl" 0).map (·.content) = some "Hello there" := by
  intro line message fields reader
  have read : Json.read? line = some (.object fields) := by
    dsimp only [line, fields, message]
    rfl
  have isDocument : Json.IsDocument line (.object fields) := Json.read?_eq_some_iff.mp read
  refine ⟨isDocument, Json.lookup_eq_some_iff.mp rfl, ?_, by decide +kernel, by decide +kernel⟩
  rw [read?_of_isDocument isDocument]
  intro same
  have messages := congrArg (fun record => (record.bind Record.message).isSome) same
  cases messages

end FleetWatch
