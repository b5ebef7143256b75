import FleetWatch.Proofs.Json.Lexical
import FleetWatch.Proofs.Session.Selection
import FleetWatch.Session.Entry
import Mathlib.Data.List.TakeWhile

/-!
# Which lines are shown

The lines of a log that make entries of the feed, in terms of the JSON document that a line is. A
record is read leniently: a member that is missing, or that is not of the kind that is asked for,
counts for nothing and never spoils the rest. So it is enough to say which members must be there.

## Main Definitions

* `Json.Member` — the member of an object that counts for a name
* `TextBlock` — a block of a message that has a text
* `Says` — what the content of a message says
* `WorthShowing` — a text that is long enough and no noise
* `Shows` — a line that shows a text of a speaker
* `SameMessage` — two lines that differ in nothing that counts

## Design Notes

`Shows` asks for a message that is an object. The reader also takes an array for a message, by the
order of its items, so the characterisation of the lines that are shown is about lines whose
message is no array.
-/

namespace FleetWatch

open Text

/-! ### Members -/

namespace Json

/-- **The member that counts for a name**: of several members of that name, the last. -/
def Member (name : String) (value : Json) (fields : List (String × Json)) : Prop :=
  ∃ before after, fields = before ++ (name, value) :: after ∧ ∀ field ∈ after, field.1 ≠ name

theorem lookup_eq_some_iff {name : String} {fields : List (String × Json)} {value : Json} :
    lookup name fields = some value ↔ Member name value fields := by
  simp only [lookup, Option.map_eq_some_iff, List.find?_eq_some_iff_append, beq_iff_eq]
  constructor
  · rintro ⟨⟨name', value'⟩, ⟨rfl, after, before, split, others⟩, rfl⟩
    refine ⟨before.reverse, after.reverse, ?_, ?_⟩
    · simpa using congrArg List.reverse split
    · simpa using others
  · rintro ⟨before, after, rfl, others⟩
    refine ⟨(name, value), ⟨rfl, after.reverse, before.reverse, by simp, ?_⟩, rfl⟩
    simpa using others

/-- A name has one member that counts. -/
theorem Member.unique {name : String} {fields : List (String × Json)} {value value' : Json}
    (h : Member name value fields) (h' : Member name value' fields) : value = value' := by
  rw [← lookup_eq_some_iff] at h h'
  exact Option.some.inj (h.symm.trans h')

theorem text?_eq_some_iff {value : Json} {text : String} :
    value.text? = some text ↔ value = .text text := by
  cases value <;> simp [text?]

/-- A member that is a text. -/
theorem lookup_bind_text?_eq_some_iff {name text : String} {fields : List (String × Json)} :
    (lookup name fields).bind Json.text? = some text ↔ Member name (.text text) fields := by
  simp only [Option.bind_eq_some_iff, text?_eq_some_iff, exists_eq_right, lookup_eq_some_iff]

theorem field?_eq_some_iff {name : String} {value member : Json} :
    value.field? name = some member ↔
      ∃ fields, value = .object fields ∧ Member name member fields := by
  cases value <;> simp [field?, lookup_eq_some_iff]

end Json

open Json (Member)

/-! ### What a message says -/

/-- Trimming leaves nothing just of white space. -/
theorem trimmed_eq_empty_iff {text : String} :
    trimmed text = "" ↔ allBlank text.toList = true := by
  rw [trimmed, ← String.toList_inj, String.toList_ofList, String.toList_empty, trim, trimEnd,
    trimStart, List.reverse_eq_nil_iff, List.dropWhile_eq_nil_iff, allBlank, List.all_eq_true]
  constructor
  · intro h c mem
    rw [← List.takeWhile_append_dropWhile (p := isBlank) (l := text.toList)] at mem
    rcases List.mem_append.mp mem with mem | mem
    · exact List.mem_takeWhile_imp mem
    · exact h c (List.mem_reverse.mpr mem)
  · intro h c mem
    exact h c ((List.dropWhile_sublist isBlank).subset (List.mem_reverse.mp mem))

/-- **A block of the type `text`** whose text is not blank. -/
def TextBlock (block : Json) (text : String) : Prop :=
  ∃ fields, block = .object fields ∧ Member "type" (.text "text") fields ∧
    Member "text" (.text text) fields ∧ allBlank text.toList = false

theorem blockText?_eq_some_iff {block : Json} {said : String} :
    blockText? block = some said ↔ ∃ text, TextBlock block text ∧ said = trimmed text := by
  simp only [blockText?, Option.bind_eq_bind, Option.bind_eq_some_iff, Json.text?_eq_some_iff,
    Json.field?_eq_some_iff]
  constructor
  · rintro ⟨_, ⟨fields, rfl, isKind⟩, kind, rfl, said⟩
    split at said
    · next isText =>
      subst isText
      simp only [Option.bind_eq_some_iff, Json.text?_eq_some_iff, Json.field?_eq_some_iff] at said
      obtain ⟨_, ⟨fields', same, isText⟩, text, rfl, said⟩ := said
      obtain rfl := Json.object.inj same
      split at said
      · cases said
      · next notBlank =>
        cases said
        rw [trimmed_eq_empty_iff, Bool.not_eq_true] at notBlank
        exact ⟨text, ⟨fields, rfl, isKind, isText, notBlank⟩, rfl⟩
    · cases said
  · rintro ⟨text, ⟨fields, rfl, isKind, isText, notBlank⟩, rfl⟩
    refine ⟨_, ⟨fields, rfl, isKind⟩, "text", rfl, ?_⟩
    have nonempty : trimmed text ≠ "" := by
      rw [Ne, trimmed_eq_empty_iff, notBlank]
      exact Bool.false_ne_true
    simp [Json.field?_eq_some_iff.mpr ⟨fields, rfl, isText⟩, Json.text?, nonempty]

/-- **What the content of a message says**: a text that is not empty as it is, or of several blocks
the text of the first text block, without the white space around it. -/
inductive Says : Json → String → Prop
  | text {said : String} (nonempty : said ≠ "") : Says (.text said) said
  | blocks {before after : List Json} {block : Json} {text : String}
      (first : TextBlock block text) (others : ∀ other ∈ before, ∀ text, ¬ TextBlock other text) :
      Says (.array (before ++ block :: after)) (trimmed text)

theorem messageText?_eq_some_iff {content : Json} {said : String} :
    messageText? content = some said ↔ Says content said := by
  have noText : ∀ other : Json, blockText? other = none ↔ ∀ text, ¬ TextBlock other text := by
    intro other
    simp only [Option.eq_none_iff_forall_ne_some, ne_eq, blockText?_eq_some_iff]
    constructor
    · intro h text first
      exact h _ ⟨text, first, rfl⟩
    · rintro h _ ⟨text, first, rfl⟩
      exact h text first
  constructor
  · intro h
    unfold messageText? at h
    split at h
    · next text =>
      split at h
      · cases h
      · next nonempty =>
        cases h
        exact .text nonempty
    · next blocks =>
      obtain ⟨before, block, after, rfl, said, others⟩ := List.findSome?_eq_some_iff.mp h
      obtain ⟨text, first, rfl⟩ := blockText?_eq_some_iff.mp said
      exact .blocks first fun other mem => (noText other).mp (others other mem)
    · cases h
  · rintro (nonempty | ⟨first, others⟩)
    · exact if_neg nonempty
    · exact List.findSome?_eq_some_iff.mpr
        ⟨_, _, _, rfl, blockText?_eq_some_iff.mpr ⟨_, first, rfl⟩,
          fun other mem => (noText other).mpr (others other mem)⟩

/-! ### Texts worth showing -/

/-- Whether a part occurs in a text. -/
theorem contains_eq_true_iff {part text : List Char} :
    contains part text = true ↔ part <:+: text := by
  induction text with
  | nil => simp [contains]
  | cons c text ih =>
      rw [contains, Bool.or_eq_true, ih, List.isPrefixOf_iff_prefix, List.infix_cons_iff]

/-- **A text that is worth showing**: of five characters at least, that does not start like a
heartbeat, and that is no bracketed announcement. -/
structure WorthShowing (text : String) : Prop where
  long : 5 ≤ text.length
  no_heartbeat : ¬ "HEARTBEAT_OK".toList <+: text.toList
  no_announcement : ¬ (['['] <+: text.toList ∧ "Queued announce".toList <:+: text.toList)

theorem isNoise_eq_true_iff {text : String} :
    isNoise text = true ↔ "HEARTBEAT_OK".toList <+: text.toList ∨
      ['['] <+: text.toList ∧ "Queued announce".toList <:+: text.toList := by
  rw [isNoise, Bool.or_eq_true, Bool.and_eq_true, contains_eq_true_iff,
    List.isPrefixOf_iff_prefix, List.isPrefixOf_iff_prefix]
  rfl

theorem worthShowing_iff {text : String} :
    WorthShowing text ↔ ¬ (text.length < EntryReader.minChars ∨ isNoise text) := by
  rw [not_or, Nat.not_lt, isNoise_eq_true_iff, not_or]
  exact ⟨fun h => ⟨h.long, h.no_heartbeat, h.no_announcement⟩, fun h => ⟨h.1, h.2.1, h.2.2⟩⟩

/-! ### Records that come from an object -/

section OfJson

variable {fields : List (String × Json)} {record : Record}

theorem bind_present_bind_messageText?_eq_some_iff {said : String} :
    ((Json.lookup "content" fields).bind present).bind messageText? = some said ↔
      ∃ content, Member "content" content fields ∧ Says content said := by
  rw [Option.bind_assoc, Option.bind_eq_some_iff]
  refine exists_congr fun content => ?_
  rw [Json.lookup_eq_some_iff, ← messageText?_eq_some_iff]
  refine and_congr_right fun _ => ?_
  cases content with
  | null => simp [present, messageText?]
  | bool | number | text | array | object => rfl

/-- A message that is no array is an object. -/
theorem Record.message_eq_some_iff (h : ofJson? (.object fields) = some record)
    (noArray : ∀ items, ¬ Member "message" (.array items) fields) {message : Message} :
    record.message = some message ↔ ∃ members, Member "message" (.object members) fields ∧
      message = ⟨(Json.lookup "role" members).bind Json.text?,
        (Json.lookup "content" members).bind present⟩ := by
  cases h
  rw [Option.bind_eq_some_iff]
  simp only [Json.lookup_eq_some_iff]
  constructor
  · rintro ⟨value, isMember, isMessage⟩
    cases value with
    | object members => exact ⟨members, isMember, (Option.some.inj isMessage).symm⟩
    | array items => exact absurd isMember (noArray items)
    | null | bool | number | text => cases isMessage
  · rintro ⟨members, isMember, rfl⟩
    exact ⟨_, isMember, rfl⟩

theorem Record.role?_eq_some_iff (h : ofJson? (.object fields) = some record)
    (noArray : ∀ items, ¬ Member "message" (.array items) fields) {role : String} :
    record.role? = some role ↔
      ∃ message, Member "message" (.object message) fields ∧
        Member "role" (.text role) message := by
  rw [role?, Option.bind_eq_bind, Option.bind_eq_some_iff]
  simp only [message_eq_some_iff h noArray]
  constructor
  · rintro ⟨_, ⟨message, isMember, rfl⟩, speaks⟩
    exact ⟨message, isMember, Json.lookup_bind_text?_eq_some_iff.mp speaks⟩
  · rintro ⟨message, isMember, speaks⟩
    exact ⟨_, ⟨message, isMember, rfl⟩, Json.lookup_bind_text?_eq_some_iff.mpr speaks⟩

theorem Record.isMessage_iff (h : ofJson? (.object fields) = some record) :
    record.isMessage = true ↔ Member "type" (.text "message") fields := by
  cases h
  rw [isMessage, beq_iff_eq, Json.lookup_bind_text?_eq_some_iff]

theorem Record.text?_eq_some_iff (h : ofJson? (.object fields) = some record)
    (noArray : ∀ items, ¬ Member "message" (.array items) fields) {text : String} :
    record.text? = some text ↔
      Member "type" (.text "message") fields ∧ ∃ message content,
        Member "message" (.object message) fields ∧ Member "content" content message ∧
          Says content text := by
  rw [text?, Option.ite_none_right_eq_some, isMessage_iff h]
  refine and_congr_right fun _ => ?_
  rw [Option.bind_eq_bind, Option.bind_eq_some_iff]
  simp only [message_eq_some_iff h noArray]
  constructor
  · rintro ⟨_, ⟨message, isMember, rfl⟩, said⟩
    obtain ⟨content, isContent, said⟩ := bind_present_bind_messageText?_eq_some_iff.mp said
    exact ⟨message, content, isMember, isContent, said⟩
  · rintro ⟨message, content, isMember, isContent, said⟩
    exact ⟨_, ⟨message, isMember, rfl⟩,
      bind_present_bind_messageText?_eq_some_iff.mpr ⟨content, isContent, said⟩⟩

end OfJson

/-! ### Lines -/

/-- **A record makes an entry** just if it is one of the two speakers' message with a text that is
worth showing, and of this text the entry shows the opening. -/
theorem EntryReader.entry?_eq_some_iff {reader : EntryReader} {record : Record} {file : String}
    {index : Nat} {entry : Entry} :
    reader.entry? record file index = some entry ↔
      ∃ role text, record.role? = some role ∧ record.text? = some text ∧ role ∈ shownRoles ∧
        WorthShowing text ∧
        entry =
          { id := reader.entryId record file index
            agentId := reader.agent.id
            agentName := reader.agent.name
            agentColor := reader.agent.color
            role := role
            content := String.ofList (opening reader.maxChars text.toList)
            timestamp := record.timestampText?.getD reader.now.iso
            model := record.model } := by
  simp only [Option.bind_eq_bind, Option.bind_eq_some_iff, worthShowing_iff, entry?]
  constructor
  · rintro ⟨role, speaks, text, said, accepted⟩
    split at accepted
    · cases accepted
    · next shown =>
      rw [not_or, Decidable.not_not] at shown
      exact ⟨role, text, speaks, said, shown.1, shown.2, (Option.some.inj accepted).symm⟩
  · rintro ⟨role, text, speaks, said, shown, worth, rfl⟩
    refine ⟨role, speaks, text, said, ?_⟩
    rw [if_neg (not_or.mpr ⟨not_not.mpr shown, worth⟩)]

theorem EntryReader.read?_eq_some_iff {reader : EntryReader} {line file : String} {index : Nat}
    {entry : Entry} :
    reader.read? line file index = some entry ↔
      ∃ record, Record.read? line = some record ∧ reader.entry? record file index = some entry := by
  rw [read?, Option.bind_eq_bind, Option.bind_eq_some_iff]

theorem Record.read?_eq_some_iff {line : String} {record : Record} :
    Record.read? line = some record ↔
      ∃ fields, Json.IsDocument line (.object fields) ∧ ofJson? (.object fields) = some record := by
  rw [Record.read?, Option.bind_eq_bind, Option.bind_eq_some_iff]
  constructor
  · rintro ⟨value, isDocument, isRecord⟩
    rw [Json.read?_eq_some_iff] at isDocument
    cases value with
    | object fields => exact ⟨fields, isDocument, isRecord⟩
    | null | bool | number | text | array => cases isRecord
  · rintro ⟨fields, isDocument, isRecord⟩
    exact ⟨_, Json.read?_eq_some_iff.mpr isDocument, isRecord⟩

/-- **A line that shows a text of a speaker**: an object of the type `message` with a message of the
assistant or the user, whose content says something worth showing. -/
structure Shows (line role text : String) : Prop where
  shown : role = "assistant" ∨ role = "user"
  worth : WorthShowing text
  isMessage : ∃ fields message content, Json.IsDocument line (.object fields) ∧
    Member "type" (.text "message") fields ∧ Member "message" (.object message) fields ∧
    Member "role" (.text role) message ∧ Member "content" content message ∧ Says content text

/-- What the record of a line says, and who says it. -/
theorem exists_record_iff_shows {line : String}
    (noArray : ∀ fields items, Json.IsDocument line (.object fields) →
      ¬ Member "message" (.array items) fields) {role text : String} :
    (∃ record, Record.read? line = some record ∧ record.role? = some role ∧
        record.text? = some text ∧ role ∈ shownRoles ∧ WorthShowing text) ↔
      Shows line role text := by
  have isShown : role ∈ shownRoles ↔ role = "assistant" ∨ role = "user" := by simp [shownRoles]
  simp only [Record.read?_eq_some_iff, isShown]
  constructor
  · rintro ⟨record, ⟨fields, isDocument, isRecord⟩, speaks, said, shown, worth⟩
    have noArray := fun items => noArray fields items isDocument
    obtain ⟨message, isMember, isRole⟩ := (Record.role?_eq_some_iff isRecord noArray).mp speaks
    obtain ⟨kind, message', content, isMember', isContent, isSaid⟩ :=
      (Record.text?_eq_some_iff isRecord noArray).mp said
    obtain rfl := Json.object.inj (isMember.unique isMember')
    exact ⟨shown, worth, fields, message, content, isDocument, kind, isMember, isRole, isContent,
      isSaid⟩
  · rintro ⟨shown, worth, fields, message, content, isDocument, kind, isMember, isRole, isContent,
      isSaid⟩
    have noArray := fun items => noArray fields items isDocument
    exact ⟨_, ⟨fields, isDocument, rfl⟩,
      (Record.role?_eq_some_iff rfl noArray).mpr ⟨message, isMember, isRole⟩,
      (Record.text?_eq_some_iff rfl noArray).mpr
        ⟨kind, message, content, isMember, isContent, isSaid⟩, shown, worth⟩

/-! ### Lines that differ in what does not count -/

/-- **Two contents with one text**: the same, or two arrays with the same first text block, whatever
the other blocks are. -/
inductive SameText : Json → Json → Prop
  | refl (content : Json) : SameText content content
  | blocks {before after before' after' : List Json} {block : Json} {text : String}
      (first : TextBlock block text) (others : ∀ other ∈ before, ∀ text, ¬ TextBlock other text)
      (others' : ∀ other ∈ before', ∀ text, ¬ TextBlock other text) :
      SameText (.array (before ++ block :: after)) (.array (before' ++ block :: after'))

/-- Contents with one text say the same. -/
theorem SameText.says_iff {content content' : Json} (h : SameText content content')
    {said : String} : Says content said ↔ Says content' said := by
  cases h with
  | refl => exact Iff.rfl
  | blocks first others others' =>
      rw [← messageText?_eq_some_iff, ← messageText?_eq_some_iff,
        messageText?_eq_some_iff.mpr (.blocks first others),
        messageText?_eq_some_iff.mpr (.blocks first others')]

/-- **Two lines with one message**: objects of the same type, each with a message of the same role
and the same text. All other members are free. -/
def SameMessage (line line' : String) : Prop :=
  ∃ fields fields' message message' content content',
    Json.IsDocument line (.object fields) ∧ Json.IsDocument line' (.object fields') ∧
    (∀ kind, Member "type" kind fields ↔ Member "type" kind fields') ∧
    Member "message" (.object message) fields ∧ Member "message" (.object message') fields' ∧
    (∀ role, Member "role" role message ↔ Member "role" role message') ∧
    Member "content" content message ∧ Member "content" content' message' ∧
    SameText content content'

theorem SameText.symm {content content' : Json} (h : SameText content content') :
    SameText content' content := by
  cases h with
  | refl => exact .refl _
  | blocks first others others' => exact .blocks first others' others

theorem SameMessage.symm {line line' : String} (h : SameMessage line line') :
    SameMessage line' line := by
  obtain ⟨fields, fields', message, message', content, content', isDocument, isDocument', kind,
    isMember, isMember', isRole, isContent, isContent', same⟩ := h
  exact ⟨fields', fields, message', message, content', content, isDocument', isDocument,
    fun _ => (kind _).symm, isMember', isMember, fun _ => (isRole _).symm, isContent', isContent,
    same.symm⟩

/-- What a line shows, a line with the same message shows too. -/
theorem SameMessage.shows {line line' role text : String} (h : SameMessage line line')
    (isShown : Shows line role text) : Shows line' role text := by
  obtain ⟨fields, fields', message, message', content, content', isDocument, isDocument', kind,
    isMember, isMember', isRole, isContent, isContent', same⟩ := h
  obtain ⟨shown, worth, fields₀, message₀, content₀, isDocument₀, kind₀, isMember₀, isRole₀,
    isContent₀, isSaid₀⟩ := isShown
  obtain rfl := Json.object.inj (isDocument.unique isDocument₀)
  obtain rfl := Json.object.inj (isMember.unique isMember₀)
  obtain rfl := isContent.unique isContent₀
  exact ⟨shown, worth, fields', message', content', isDocument', (kind _).mp kind₀, isMember',
    (isRole _).mp isRole₀, isContent', same.says_iff.mp isSaid₀⟩

/-- The message of a line with the same message as another line is no array. -/
theorem SameMessage.noArray {line line' : String} (h : SameMessage line line') :
    ∀ fields items, Json.IsDocument line' (.object fields) →
      ¬ Member "message" (.array items) fields := by
  obtain ⟨_, fields', _, message', _, _, _, isDocument', _, _, isMember', _⟩ := h
  intro fields items isDocument isArray
  obtain rfl := Json.object.inj (isDocument'.unique isDocument)
  exact Json.noConfusion (isMember'.unique isArray)

/-- The entry of a line that shows a text of a speaker. -/
theorem EntryReader.exists_read?_iff_shows (reader : EntryReader) {line : String} (file : String)
    (index : Nat) (noArray : ∀ fields items, Json.IsDocument line (.object fields) →
      ¬ Member "message" (.array items) fields) {role content : String} :
    (∃ entry, reader.read? line file index = some entry ∧ entry.role = role ∧
        entry.content = content) ↔
      ∃ text, Shows line role text ∧
        content = String.ofList (opening reader.maxChars text.toList) := by
  simp only [read?_eq_some_iff, entry?_eq_some_iff, ← exists_record_iff_shows noArray]
  constructor
  · rintro ⟨entry, ⟨record, isRecord, role, text, speaks, said, shown, worth, rfl⟩, rfl, rfl⟩
    exact ⟨text, ⟨record, isRecord, speaks, said, shown, worth⟩, rfl⟩
  · rintro ⟨text, ⟨record, isRecord, speaks, said, shown, worth⟩, rfl⟩
    exact ⟨_, ⟨record, isRecord, role, text, speaks, said, shown, worth, rfl⟩, rfl, rfl⟩

theorem EntryReader.read?_isSome_iff {reader : EntryReader} {line file : String} {index : Nat}
    (noArray : ∀ fields items, Json.IsDocument line (.object fields) →
      ¬ Member "message" (.array items) fields) :
    (reader.read? line file index).isSome ↔ ∃ role text, Shows line role text := by
  rw [Option.isSome_iff_exists]
  constructor
  · rintro ⟨entry, isEntry⟩
    obtain ⟨text, isShown, -⟩ :=
      (exists_read?_iff_shows _ _ _ noArray).mp ⟨entry, isEntry, rfl, rfl⟩
    exact ⟨entry.role, text, isShown⟩
  · rintro ⟨role, text, isShown⟩
    obtain ⟨entry, isEntry, -⟩ :=
      (exists_read?_iff_shows reader file index noArray).mpr ⟨text, isShown, rfl⟩
    exact ⟨entry, isEntry⟩

/-- **Which lines are shown.** A line whose message is no array makes an entry just if it shows a
text of a speaker. The entry has that speaker, and the opening of that text. Whether there is an
entry does not depend on the reader, the file or the place of the line in it, nor on anything in the
line besides its type, the role of its message and the text. -/
theorem EntryReader.read?_isSome_iff_shows (reader : EntryReader) (line file : String) (index : Nat)
    (noArray : ∀ fields items, Json.IsDocument line (.object fields) →
      ¬ Member "message" (.array items) fields) :
    ((reader.read? line file index).isSome ↔ ∃ role text, Shows line role text) ∧
      (∀ entry, reader.read? line file index = some entry →
        ∃ text, Shows line entry.role text ∧
          entry.content = String.ofList (opening reader.maxChars text.toList)) ∧
      ∀ (reader' : EntryReader) (line' file' : String) (index' : Nat), SameMessage line line' →
        ((reader'.read? line' file' index').isSome ↔ (reader.read? line file index).isSome) := by
  refine ⟨read?_isSome_iff noArray, ?_, ?_⟩
  · intro entry isEntry
    exact (exists_read?_iff_shows _ _ _ noArray).mp ⟨entry, isEntry, rfl, rfl⟩
  · intro reader' line' file' index' same
    rw [read?_isSome_iff noArray, read?_isSome_iff same.noArray]
    constructor
    · rintro ⟨role, text, isShown⟩
      exact ⟨role, text, same.symm.shows isShown⟩
    · rintro ⟨role, text, isShown⟩
      exact ⟨role, text, same.shows isShown⟩

/-- A line with a strange identifier, and with two blocks that say nothing before one that does. -/
theorem EntryReader.read?_isSome_iff_shows_third_block :
    let line := "\x7b\"type\":\"message\",\"id\":\x7b\x7d,\"message\":\x7b\"role\":\"user\"," ++
      "\"content\":[7,\x7b\"type\":\"text\",\"text\":\" \"\x7d," ++
      "\x7b\"type\":\"text\",\"text\":\" Hello \"\x7d]\x7d\x7d"
    let reader : EntryReader := ⟨⟨"scout", "Scout", "#888", .ofString "/logs"⟩, 300, .ofMinutes 0⟩
    (∀ fields items, Json.IsDocument line (.object fields) →
      ¬ Member "message" (.array items) fields) ∧
    (reader.read? line "a.jsonl" 0).map (·.content) = some "Hello" ∧
      ∃ role text, Shows line role text := by
  intro line reader
  have hasRole : (((Json.read? line).bind (Json.field? "message")).bind
      (Json.field? "role")).isSome = true := by decide +kernel
  have noArray : ∀ fields items, Json.IsDocument line (.object fields) →
      ¬ Member "message" (.array items) fields := by
    intro fields items isDocument isArray
    have field := Json.field?_eq_some_iff.mpr ⟨fields, rfl, isArray⟩
    rw [Json.read?_eq_some_iff.mpr isDocument, Option.bind_some, field] at hasRole
    cases hasRole
  have isShown : (reader.read? line "a.jsonl" 0).map (·.content) = some "Hello" := by
    decide +kernel
  obtain ⟨entry, isEntry, -⟩ := Option.map_eq_some_iff.mp isShown
  refine ⟨noArray, isShown, ?_⟩
  exact (read?_isSome_iff_shows reader line "a.jsonl" 0 noArray).1.mp
    (Option.isSome_iff_exists.mpr ⟨entry, isEntry⟩)

end FleetWatch
