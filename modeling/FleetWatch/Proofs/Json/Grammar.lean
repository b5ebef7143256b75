import FleetWatch.Json.Reader
import Mathlib.Data.List.Basic

/-!
# The grammar of JSON values

Which token sequences are values. The reader goes through the tokens once, with the open arrays and
objects on a stack; here a value says itself by which tokens it is written, and the reader is shown
to accept these tokens and no others, as long as the value is not nested too deeply.

## Main Definitions

* `Json.tokens` — the tokens of a value
* `Json.depth` — how deeply the arrays and objects of a value are nested
* `Json.Consumed` — the tokens that a reader has taken

## Design Notes

`Json.Consumed` is the invariant of a run: from the stack and the stage of the reader it tells all
tokens so far. A reader that is done has taken just the tokens of its value, so nothing can be
missing or left over. Nesting is a second invariant, `Json.Reader.Fits`: what is finished in an
open array or object leaves room for those around it.
-/

namespace FleetWatch.Json

/-! ### The tokens of a value -/

mutual

/-- **The tokens of a value**: an array is its items and an object its members, with commas between
them. -/
def tokens : Json → List Token
  | .null => [.null]
  | .bool value => [.bool value]
  | .number value => [.number value]
  | .text value => [.text value]
  | .array items => .openArray :: (List.intercalate [.comma] (itemTokens items) ++ [.closeArray])
  | .object fields =>
    .openObject :: (List.intercalate [.comma] (memberTokens fields) ++ [.closeObject])
termination_by structural value => value

/-- The tokens of each item. -/
def itemTokens : List Json → List (List Token)
  | [] => []
  | item :: items => tokens item :: itemTokens items
termination_by structural items => items

/-- The tokens of each member: its name, a colon, and its value. -/
def memberTokens : List (String × Json) → List (List Token)
  | [] => []
  | (name, value) :: fields => (.text name :: .colon :: tokens value) :: memberTokens fields
termination_by structural fields => fields

end

mutual

/-- **How deeply a value is nested**: the largest number of arrays and objects that are open at any
of its tokens. -/
def depth : Json → Nat
  | .array items => itemDepth items + 1
  | .object fields => memberDepth fields + 1
  | _ => 0
termination_by structural value => value

/-- The depth of the deepest of several items. -/
def itemDepth : List Json → Nat
  | [] => 0
  | item :: items => max (depth item) (itemDepth items)
termination_by structural items => items

/-- The depth of the deepest of several members. -/
def memberDepth : List (String × Json) → Nat
  | [] => 0
  | (_, value) :: fields => max (depth value) (memberDepth fields)
termination_by structural fields => fields

end

/-- The tokens of a member. -/
def fieldTokens (field : String × Json) : List Token :=
  .text field.1 :: .colon :: tokens field.2

theorem itemTokens_eq_map (items : List Json) : itemTokens items = items.map tokens := by
  induction items with
  | nil => rfl
  | cons item items ih => rw [itemTokens, ih, List.map_cons]

theorem memberTokens_eq_map (fields : List (String × Json)) :
    memberTokens fields = fields.map fieldTokens := by
  induction fields with
  | nil => rfl
  | cons field fields ih =>
      obtain ⟨name, value⟩ := field
      rw [memberTokens, ih, List.map_cons]
      rfl

theorem itemDepth_le_iff {items : List Json} {n : Nat} :
    itemDepth items ≤ n ↔ ∀ item ∈ items, depth item ≤ n := by
  induction items with
  | nil => simp [itemDepth]
  | cons item items ih => simp only [itemDepth, Nat.max_le, ih, List.forall_mem_cons]

theorem memberDepth_le_iff {fields : List (String × Json)} {n : Nat} :
    memberDepth fields ≤ n ↔ ∀ field ∈ fields, depth field.2 ≤ n := by
  induction fields with
  | nil => simp [memberDepth]
  | cons field fields ih =>
      obtain ⟨name, value⟩ := field
      simp only [memberDepth, Nat.max_le, ih, List.forall_mem_cons]

/-- Parts with a comma behind each, and one part more. -/
theorem intercalate_concat {α : Type} (separator : α) (parts : List (List α)) (last : List α) :
    List.intercalate [separator] (parts ++ [last]) =
      parts.flatMap (· ++ [separator]) ++ last := by
  induction parts with
  | nil => simp
  | cons part parts ih =>
      rw [List.flatMap_cons, List.append_assoc, ← ih, List.cons_append]
      cases parts <;> simp [List.intercalate_cons_cons]

/-! ### What a reader has taken -/

/-- The tokens of an open array or object up to the place of its next value. -/
def Frame.begun : Frame → List Token
  | .array items => .openArray :: items.reverse.flatMap fun item => tokens item ++ [.comma]
  | .object fields name =>
    .openObject :: (fields.reverse.flatMap (fun field => fieldTokens field ++ [.comma]) ++
      [.text name, .colon])

/-- The tokens of the open arrays and objects up to the place of the next value. -/
def begun (stack : List Frame) : List Token :=
  stack.reverse.flatMap Frame.begun

theorem begun_cons (frame : Frame) (stack : List Frame) :
    begun (frame :: stack) = begun stack ++ frame.begun := by
  simp [begun]

/-- **The tokens that a reader has taken**, told from its stack and stage. -/
inductive Consumed : Reader → List Token → Prop
  | value (stack : List Frame) : Consumed ⟨stack, .value⟩ (begun stack)
  | firstItem (stack : List Frame) :
      Consumed ⟨.array [] :: stack, .firstItem⟩ (begun stack ++ [.openArray])
  | firstKey (stack : List Frame) (name : String) :
      Consumed ⟨.object [] name :: stack, .firstKey⟩ (begun stack ++ [.openObject])
  | key (stack : List Frame) (fields : List (String × Json)) (name : String) :
      Consumed ⟨.object fields name :: stack, .key⟩
        (begun stack ++
          .openObject :: fields.reverse.flatMap fun field => fieldTokens field ++ [.comma])
  | colon (stack : List Frame) (fields : List (String × Json)) (name : String) :
      Consumed ⟨.object fields name :: stack, .colon⟩
        (begun stack ++ .openObject ::
          (fields.reverse.flatMap (fun field => fieldTokens field ++ [.comma]) ++ [.text name]))
  | item (stack : List Frame) (items : List Json) (item : Json) :
      Consumed ⟨.array (item :: items) :: stack, .separator⟩
        (begun (.array items :: stack) ++ tokens item)
  | member (stack : List Frame) (fields : List (String × Json)) (name name' : String)
      (value : Json) :
      Consumed ⟨.object ((name, value) :: fields) name' :: stack, .separator⟩
        (begun (.object fields name :: stack) ++ tokens value)
  | done (value : Json) : Consumed ⟨[], .done value⟩ (tokens value)

theorem consumed_place (value : Json) (stack : List Frame) :
    Consumed (Reader.place value stack) (begun stack ++ tokens value) := by
  cases stack with
  | nil => exact .done value
  | cons frame stack =>
      cases frame with
      | array items => exact .item stack items value
      | object fields name => exact .member stack fields name name value

/-- A token where a value may start. -/
theorem consumed_of_value? {stack : List Frame} {token : Token} {r : Reader}
    (h : Reader.value? stack token = some r) : Consumed r (begun stack ++ [token]) := by
  have enter : ∀ {frame : Frame} {stage : Stage}, Reader.enter? frame stage stack = some r →
      r = ⟨frame :: stack, stage⟩ := by
    intro frame stage h
    unfold Reader.enter? at h
    split at h
    · exact (Option.some.inj h).symm
    · cases h
  cases token with
  | openArray =>
      obtain rfl := enter h
      exact .firstItem stack
  | openObject =>
      obtain rfl := enter h
      exact .firstKey stack ""
  | null =>
      cases h
      exact consumed_place .null stack
  | bool value =>
      cases h
      exact consumed_place (.bool value) stack
  | number value =>
      cases h
      exact consumed_place (.number value) stack
  | text value =>
      cases h
      exact consumed_place (.text value) stack
  | _ => cases h

theorem close?_array_eq_some_iff {items : List Json} {stack : List Frame} {token : Token}
    {r : Reader} :
    Reader.close? (.array items :: stack) token = some r ↔
      token = .closeArray ∧ Reader.place (.array items.reverse) stack = r := by
  cases token <;> simp [Reader.close?]

theorem close?_object_eq_some_iff {fields : List (String × Json)} {name : String}
    {stack : List Frame} {token : Token} {r : Reader} :
    Reader.close? (.object fields name :: stack) token = some r ↔
      token = .closeObject ∧ Reader.place (.object fields.reverse) stack = r := by
  cases token <;> simp [Reader.close?]

theorem key?_eq_some_iff {fields : List (String × Json)} {name : String} {stack : List Frame}
    {token : Token} {r : Reader} :
    Reader.key? (.object fields name :: stack) token = some r ↔
      ∃ name', token = .text name' ∧ ⟨.object fields name' :: stack, .colon⟩ = r := by
  cases token <;> simp [Reader.key?]

/-- The tokens of an array with a last item. -/
theorem tokens_array_concat (items : List Json) (item : Json) :
    tokens (.array (items ++ [item])) =
      .openArray :: (items.flatMap (fun item => tokens item ++ [.comma]) ++
        (tokens item ++ [.closeArray])) := by
  rw [tokens, itemTokens_eq_map, List.map_append, List.map_singleton, intercalate_concat,
    List.flatMap_map, List.append_assoc]

/-- The tokens of an object with a last member. -/
theorem tokens_object_concat (fields : List (String × Json)) (field : String × Json) :
    tokens (.object (fields ++ [field])) =
      .openObject :: (fields.flatMap (fun field => fieldTokens field ++ [.comma]) ++
        (fieldTokens field ++ [.closeObject])) := by
  rw [tokens, memberTokens_eq_map, List.map_append, List.map_singleton, intercalate_concat,
    List.flatMap_map, List.append_assoc]

/-- **A step takes its token.** -/
theorem Consumed.step {r r' : Reader} {taken : List Token} {token : Token} (h : Consumed r taken)
    (step : r.step token = some r') : Consumed r' (taken ++ [token]) := by
  cases h with
  | value stack => exact consumed_of_value? step
  | firstItem stack =>
      simp only [Reader.step, Option.orElse_eq_or, Option.or_eq_some_iff] at step
      rcases step with close | ⟨-, value⟩
      · obtain ⟨rfl, rfl⟩ := close?_array_eq_some_iff.mp close
        simpa [tokens, itemTokens] using consumed_place (.array []) stack
      · simpa [begun_cons, Frame.begun] using consumed_of_value? value
  | firstKey stack name =>
      simp only [Reader.step, Option.orElse_eq_or, Option.or_eq_some_iff] at step
      rcases step with close | ⟨-, key⟩
      · obtain ⟨rfl, rfl⟩ := close?_object_eq_some_iff.mp close
        simpa [tokens, memberTokens] using consumed_place (.object []) stack
      · obtain ⟨name', rfl, rfl⟩ := key?_eq_some_iff.mp key
        simpa using Consumed.colon stack [] name'
  | key stack fields name =>
      obtain ⟨name', rfl, rfl⟩ := key?_eq_some_iff.mp step
      simpa using Consumed.colon stack fields name'
  | colon stack fields name =>
      cases token with
      | colon =>
          cases step
          simpa [begun_cons, Frame.begun] using Consumed.value (.object fields name :: stack)
      | _ => cases step
  | item stack items item =>
      by_cases comma : token = .comma
      · subst comma
        cases step
        simpa [begun_cons, Frame.begun] using Consumed.value (.array (item :: items) :: stack)
      · have close : Reader.close? (.array (item :: items) :: stack) token = some r' := by
          cases token <;> first | exact step | exact absurd rfl comma
        obtain ⟨rfl, rfl⟩ := close?_array_eq_some_iff.mp close
        have closed := consumed_place (.array (item :: items).reverse) stack
        rw [List.reverse_cons, tokens_array_concat] at closed
        simpa [begun_cons, Frame.begun] using closed
  | member stack fields name name' value =>
      by_cases comma : token = .comma
      · subst comma
        cases step
        simpa [begun_cons, Frame.begun, fieldTokens] using
          Consumed.key stack ((name, value) :: fields) name'
      · have close : Reader.close? (.object ((name, value) :: fields) name' :: stack) token =
            some r' := by
          cases token <;> first | exact step | exact absurd rfl comma
        obtain ⟨rfl, rfl⟩ := close?_object_eq_some_iff.mp close
        have closed := consumed_place (.object ((name, value) :: fields).reverse) stack
        rw [List.reverse_cons, tokens_object_concat] at closed
        simpa [begun_cons, Frame.begun, fieldTokens] using closed
  | done value => cases step

/-- **A run takes its tokens.** -/
theorem Consumed.foldlM {r r' : Reader} {taken tokens : List Token} (h : Consumed r taken)
    (run : tokens.foldlM Reader.step r = some r') : Consumed r' (taken ++ tokens) := by
  induction tokens generalizing r taken with
  | nil =>
      cases run
      rwa [List.append_nil]
  | cons token tokens ih =>
      rw [List.foldlM_cons, Option.bind_eq_bind, Option.bind_eq_some_iff] at run
      obtain ⟨next, step, rest⟩ := run
      rw [← List.singleton_append, ← List.append_assoc]
      exact ih (h.step step) rest

/-! ### Nesting -/

/-- The depth of the deepest finished value of an open array or object. -/
def Frame.depth : Frame → Nat
  | .array items => itemDepth items
  | .object fields _ => memberDepth fields

/-- **Open arrays and objects that fit**: what is finished in each of them leaves room for those
around it. -/
def Fits : List Frame → Prop
  | [] => True
  | frame :: stack => frame.depth + stack.length + 1 ≤ maxDepth ∧ Fits stack

theorem Fits.length_le {stack : List Frame} (h : Fits stack) : stack.length ≤ maxDepth := by
  cases stack with
  | nil => exact Nat.zero_le _
  | cons frame stack =>
      have room := h.1
      rw [List.length_cons]
      omega

/-- A reader whose open arrays and objects fit, and whose value is not nested too deeply. -/
def Reader.Fits (r : Reader) : Prop :=
  Json.Fits r.stack ∧ ∀ value, r.stage = .done value → value.depth ≤ maxDepth

theorem fits_place {value : Json} {stack : List Frame} (h : Fits stack)
    (room : value.depth + stack.length ≤ maxDepth) : (Reader.place value stack).Fits := by
  cases stack with
  | nil =>
      refine ⟨trivial, ?_⟩
      rintro _ ⟨⟩
      exact room
  | cons frame stack =>
      obtain ⟨frameRoom, rest⟩ := h
      rw [List.length_cons] at room
      cases frame with
      | array items =>
          refine ⟨⟨?_, rest⟩, fun _ done => by cases done⟩
          simp only [Frame.depth, itemDepth] at frameRoom ⊢
          omega
      | object fields name =>
          refine ⟨⟨?_, rest⟩, fun _ done => by cases done⟩
          simp only [Frame.depth, memberDepth] at frameRoom ⊢
          omega

theorem fits_of_value? {stack : List Frame} {token : Token} {r : Reader} (h : Fits stack)
    (value : Reader.value? stack token = some r) : r.Fits := by
  have length := h.length_le
  have enter : ∀ {frame : Frame} {stage : Stage}, frame.depth = 0 →
      (∀ value, stage ≠ .done value) → Reader.enter? frame stage stack = some r → r.Fits := by
    intro frame stage shallow open_ entered
    unfold Reader.enter? at entered
    split at entered
    · next room =>
      obtain rfl := Option.some.inj entered
      refine ⟨⟨?_, h⟩, fun value done => absurd done (open_ value)⟩
      rw [shallow]
      omega
    · cases entered
  have scalar : ∀ value : Json, value.depth = 0 → (Reader.place value stack).Fits := by
    intro value shallow
    refine fits_place h ?_
    rw [shallow, Nat.zero_add]
    exact length
  cases token with
  | openArray => exact enter rfl (fun _ => Stage.noConfusion) value
  | openObject => exact enter rfl (fun _ => Stage.noConfusion) value
  | null =>
      cases value
      exact scalar .null rfl
  | bool value' =>
      cases value
      exact scalar (.bool value') rfl
  | number value' =>
      cases value
      exact scalar (.number value') rfl
  | text value' =>
      cases value
      exact scalar (.text value') rfl
  | _ => cases value

theorem fits_of_close? {stack : List Frame} {token : Token} {r : Reader} (h : Fits stack)
    (close : Reader.close? stack token = some r) : r.Fits := by
  cases stack with
  | nil => cases token <;> cases close
  | cons frame stack =>
      obtain ⟨room, rest⟩ := h
      cases frame with
      | array items =>
          obtain ⟨rfl, rfl⟩ := close?_array_eq_some_iff.mp close
          have reversed : itemDepth items.reverse ≤ itemDepth items := by
            rw [itemDepth_le_iff]
            intro item mem
            exact itemDepth_le_iff.mp (Nat.le_refl _) item (List.mem_reverse.mp mem)
          refine fits_place rest ?_
          simp only [Frame.depth, Json.depth] at room ⊢
          omega
      | object fields name =>
          obtain ⟨rfl, rfl⟩ := close?_object_eq_some_iff.mp close
          have reversed : memberDepth fields.reverse ≤ memberDepth fields := by
            rw [memberDepth_le_iff]
            intro field mem
            exact memberDepth_le_iff.mp (Nat.le_refl _) field (List.mem_reverse.mp mem)
          refine fits_place rest ?_
          simp only [Frame.depth, Json.depth] at room ⊢
          omega

/-- **A step keeps within the depth.** -/
theorem Reader.Fits.step {r r' : Reader} {token : Token} (h : r.Fits)
    (step : r.step token = some r') : r'.Fits := by
  obtain ⟨stack, stage⟩ := r
  have key : Reader.key? stack token = some r' → r'.Fits := by
    intro key
    obtain _ | ⟨_ | ⟨fields, name⟩, stack⟩ := stack
    · cases token <;> cases key
    · cases token <;> cases key
    · obtain ⟨name', -, rfl⟩ := key?_eq_some_iff.mp key
      exact ⟨h.1, fun _ done => by cases done⟩
  cases stage with
  | value => exact fits_of_value? h.1 step
  | firstItem =>
      simp only [Reader.step, Option.orElse_eq_or, Option.or_eq_some_iff] at step
      rcases step with close | ⟨-, value⟩
      · exact fits_of_close? h.1 close
      · exact fits_of_value? h.1 value
  | firstKey =>
      simp only [Reader.step, Option.orElse_eq_or, Option.or_eq_some_iff] at step
      rcases step with close | ⟨-, name⟩
      · exact fits_of_close? h.1 close
      · exact key name
  | key => exact key step
  | colon =>
      cases token with
      | colon =>
          cases step
          exact ⟨h.1, fun _ done => by cases done⟩
      | _ => cases step
  | separator =>
      unfold Reader.step at step
      dsimp only at step
      split at step
      · cases step
        exact ⟨h.1, fun _ done => by cases done⟩
      · cases step
        exact ⟨h.1, fun _ done => by cases done⟩
      · exact fits_of_close? h.1 step
  | done value => cases step

theorem Reader.Fits.foldlM {r r' : Reader} {tokens : List Token} (h : r.Fits)
    (run : tokens.foldlM Reader.step r = some r') : r'.Fits := by
  induction tokens generalizing r with
  | nil =>
      cases run
      exact h
  | cons token tokens ih =>
      rw [List.foldlM_cons, Option.bind_eq_bind, Option.bind_eq_some_iff] at run
      obtain ⟨next, step, rest⟩ := run
      exact ih (h.step step) rest

/-! ### Reading the tokens of a value -/

/-- A value starts with a token that closes nothing, so it can stand where an array may end. -/
theorem foldlM_firstItem (value : Json) (stack : List Frame) :
    (tokens value).foldlM Reader.step ⟨stack, .firstItem⟩ =
      (tokens value).foldlM Reader.step ⟨stack, .value⟩ := by
  have first : ∀ token, (∀ frames, Reader.close? frames token = none) → ∀ rest,
      (token :: rest).foldlM Reader.step ⟨stack, .firstItem⟩ =
        (token :: rest).foldlM Reader.step ⟨stack, .value⟩ := by
    intro token opens rest
    rw [List.foldlM_cons, List.foldlM_cons]
    simp only [Reader.step, opens, Option.orElse_eq_or, Option.none_or]
  cases value <;> rw [tokens] <;> refine first _ (fun frames => ?_) _ <;>
    rcases frames with _ | ⟨_ | _, _⟩ <;> rfl

/-- Further items of an array or members of an object are read one by one, each behind a comma. -/
theorem foldlM_commas {α : Type} {part : α → List Token} (frame : List α → Frame)
    {stack : List Frame} {parts : List α}
    (each : ∀ a ∈ parts, ∀ done, done ≠ [] →
      (.comma :: part a).foldlM Reader.step ⟨frame done :: stack, .separator⟩ =
        some ⟨frame (a :: done) :: stack, .separator⟩)
    {done : List α} (ne : done ≠ []) :
    (parts.flatMap fun a => .comma :: part a).foldlM Reader.step
        ⟨frame done :: stack, .separator⟩ =
      some ⟨frame (parts.reverse ++ done) :: stack, .separator⟩ := by
  induction parts generalizing done with
  | nil => rfl
  | cons a parts ih =>
      rw [List.flatMap_cons, List.foldlM_append, each a List.mem_cons_self done ne,
        Option.bind_eq_bind, Option.bind_some,
        ih (fun b mem => each b (List.mem_cons_of_mem a mem)) (List.cons_ne_nil a done),
        List.reverse_cons, List.append_assoc, List.singleton_append]

/-- Parts with commas between them, the first and the others. -/
theorem intercalate_cons {α : Type} (separator : α) (first : List α) (parts : List (List α)) :
    List.intercalate [separator] (first :: parts) =
      first ++ parts.flatMap (separator :: ·) := by
  induction parts generalizing first with
  | nil => simp
  | cons part parts ih =>
      rw [List.intercalate_cons_cons, ih, List.flatMap_cons, List.append_assoc,
        List.singleton_append, List.cons_append]

/-- An open object whose members are finished, the last one first. -/
def finishedMembers (fields : List (String × Json)) : Frame :=
  .object fields ((fields.head?.map (·.1)).getD "")

section Nested

variable {stack : List Frame}

/-- The items of an array are read one by one, if each of them is read. -/
theorem foldlM_array (room : stack.length < maxDepth) {items : List Json}
    (inner : ∀ item ∈ items, ∀ frame, (tokens item).foldlM Reader.step ⟨frame :: stack, .value⟩ =
      some (Reader.place item (frame :: stack))) :
    (tokens (.array items)).foldlM Reader.step ⟨stack, .value⟩ =
      some (Reader.place (.array items) stack) := by
  have opened : Reader.step ⟨stack, .value⟩ .openArray =
      some ⟨.array [] :: stack, .firstItem⟩ := if_pos room
  rw [tokens, itemTokens_eq_map, List.foldlM_cons, opened, Option.bind_eq_bind, Option.bind_some]
  cases items with
  | nil => rfl
  | cons first items =>
      have each : ∀ item ∈ items, ∀ done, done ≠ [] →
          (.comma :: tokens item).foldlM Reader.step ⟨.array done :: stack, .separator⟩ =
            some ⟨.array (item :: done) :: stack, .separator⟩ := by
        intro item mem done _
        exact inner item (List.mem_cons_of_mem first mem) (.array done)
      rw [List.map_cons, intercalate_cons, List.flatMap_map, List.append_assoc,
        List.foldlM_append, foldlM_firstItem, inner first List.mem_cons_self (.array []),
        Option.bind_eq_bind, Option.bind_some, List.foldlM_append, Reader.place,
        foldlM_commas .array each (List.cons_ne_nil first [])]
      simp [Reader.step, Reader.close?]

/-- The members of an object are read one by one, if the value of each of them is read. -/
theorem foldlM_object (room : stack.length < maxDepth) {fields : List (String × Json)}
    (inner : ∀ field ∈ fields, ∀ frame,
      (tokens field.2).foldlM Reader.step ⟨frame :: stack, .value⟩ =
        some (Reader.place field.2 (frame :: stack))) :
    (tokens (.object fields)).foldlM Reader.step ⟨stack, .value⟩ =
      some (Reader.place (.object fields) stack) := by
  have opened : Reader.step ⟨stack, .value⟩ .openObject =
      some ⟨.object [] "" :: stack, .firstKey⟩ := if_pos room
  rw [tokens, memberTokens_eq_map, List.foldlM_cons, opened, Option.bind_eq_bind,
    Option.bind_some]
  cases fields with
  | nil => rfl
  | cons first fields =>
      have each : ∀ field ∈ fields, ∀ done, done ≠ [] →
          (.comma :: fieldTokens field).foldlM Reader.step
              ⟨finishedMembers done :: stack, .separator⟩ =
            some ⟨finishedMembers (field :: done) :: stack, .separator⟩ := by
        intro field mem done _
        exact inner field (List.mem_cons_of_mem first mem) (.object done field.1)
      have member : (fieldTokens first).foldlM Reader.step ⟨.object [] "" :: stack, .firstKey⟩ =
          some ⟨finishedMembers [first] :: stack, .separator⟩ :=
        inner first List.mem_cons_self (.object [] first.1)
      rw [List.map_cons, intercalate_cons, List.flatMap_map, List.append_assoc,
        List.foldlM_append, member, Option.bind_eq_bind, Option.bind_some,
        List.foldlM_append, foldlM_commas finishedMembers each (List.cons_ne_nil first [])]
      simp [Reader.step, Reader.close?, finishedMembers]

end Nested

/-- **The reader takes the tokens of a value to that value**, if there is room for it. The
induction is on how deeply the value is nested. -/
theorem foldlM_tokens (n : Nat) : ∀ (value : Json) (stack : List Frame), value.depth ≤ n →
    stack.length + n ≤ maxDepth →
    (tokens value).foldlM Reader.step ⟨stack, .value⟩ = some (Reader.place value stack) := by
  induction n with
  | zero =>
      intro value stack shallow room
      cases value with
      | array items => exact absurd shallow (Nat.not_succ_le_zero _)
      | object fields => exact absurd shallow (Nat.not_succ_le_zero _)
      | _ => rfl
  | succ n ih =>
      intro value stack shallow room
      have inner : ∀ (item : Json) (frame : Frame), item.depth ≤ n →
          (tokens item).foldlM Reader.step ⟨frame :: stack, .value⟩ =
            some (Reader.place item (frame :: stack)) := by
        intro item frame shallow
        exact ih item (frame :: stack) shallow (by rw [List.length_cons]; omega)
      cases value with
      | array items =>
          have shallowItems := itemDepth_le_iff.mp (Nat.le_of_succ_le_succ shallow)
          exact foldlM_array (by omega) fun item mem frame =>
            inner item frame (shallowItems item mem)
      | object fields =>
          have shallowFields := memberDepth_le_iff.mp (Nat.le_of_succ_le_succ shallow)
          exact foldlM_object (by omega) fun field mem frame =>
            inner field.2 frame (shallowFields field mem)
      | _ => rfl

/-- **The reader accepts the tokens of a value** that is not nested too deeply, and no others. -/
theorem ofTokens?_eq_some_iff {tokens : List Token} {value : Json} :
    ofTokens? tokens = some value ↔ tokens = value.tokens ∧ value.depth ≤ maxDepth := by
  constructor
  · intro h
    rw [ofTokens?, Option.bind_eq_bind, Option.bind_eq_some_iff] at h
    obtain ⟨r, run, complete⟩ := h
    have consumed := (Consumed.value []).foldlM run
    have start : Reader.Fits ⟨[], .value⟩ := ⟨trivial, fun _ done => by cases done⟩
    have fits := start.foldlM run
    split at complete
    · next found stage =>
      obtain rfl := Option.some.inj complete
      obtain ⟨stack, _⟩ := r
      obtain rfl := stage
      rw [show begun [] = [] from rfl, List.nil_append] at consumed
      cases consumed
      exact ⟨rfl, fits.2 found rfl⟩
    · cases complete
  · rintro ⟨rfl, shallow⟩
    rw [ofTokens?, foldlM_tokens maxDepth value [] shallow (by simp)]
    rfl

end FleetWatch.Json
