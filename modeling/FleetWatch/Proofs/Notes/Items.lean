import FleetWatch.Notes.Counters
import FleetWatch.Proofs.Notes.Lines

/-!
# Items of a note

Headings and bullets are counted by a search for their marks, which takes all the white space behind
a mark, line breaks included, and goes on behind it. So a match can reach over several line starts.
None of these is the start of another item, because an item starts with its mark and white space
does not; and the search goes on at a line start if the match ends there. The items that are counted
are therefore just the line starts with a mark and white space behind it, each of them once.

## Main Definitions

* `lineStarts` — what a document holds from each of its line starts on
* `Pattern.IsItem` — a pattern of which no match hides the start of another
* `Pattern.starts` — what a document holds from the start of each match on
* `startsHeading`, `startsBullet` — what an item looks like

## Design Notes

A place in a document is given by what the document holds from there on, as the search has it too.
Different places have rests of different lengths, so nothing is lost by this.
-/

namespace FleetWatch.Notes

open Text

/-! ### Line starts -/

/-- What follows each line break. -/
def afterBreaks : List Char → List (List Char)
  | [] => []
  | c :: rest => if c == '\n' then rest :: afterBreaks rest else afterBreaks rest

/-- What a document holds from each of its line starts on, which are its own start and the places
behind its line breaks. -/
def lineStarts (document : List Char) : List (List Char) :=
  document :: afterBreaks document

/-- Within a line there are no line starts. -/
theorem afterBreaks_append_behind {line : List Char} (oneLine : '\n' ∉ line)
    (lines : List (List Char)) :
    afterBreaks (line ++ behind lines) = afterBreaks (behind lines) := by
  induction line with
  | nil => rfl
  | cons c line ih =>
      obtain ⟨ne, notMem⟩ := not_or.mp (List.mem_cons.not.mp oneLine)
      rw [List.cons_append, afterBreaks, if_neg (by simpa using Ne.symm ne), ih notMem]

/-- The line starts behind a line are those of the lines that follow. -/
theorem lineStarts_append_behind_cons {line : List Char} (oneLine : '\n' ∉ line)
    (next : List Char) (lines : List (List Char)) :
    lineStarts (line ++ behind (next :: lines)) =
      (line ++ behind (next :: lines)) :: lineStarts (next ++ behind lines) := by
  rw [lineStarts, afterBreaks_append_behind oneLine, behind_cons]
  rfl

/-- The last line has no line start behind it. -/
theorem lineStarts_of_oneLine {line : List Char} (oneLine : '\n' ∉ line) :
    lineStarts line = [line] := by
  have last := afterBreaks_append_behind oneLine []
  rw [behind_nil, List.append_nil] at last
  rw [lineStarts, last]
  rfl

/-! ### Patterns of items -/

namespace Pattern

variable {α : Type} {pattern : Pattern α}

/-- The pattern applies at none of the line starts that are passed over with so many characters.
Where the last of them is a line break, the search goes on at a line start, which is not passed
over. -/
def PassesOverNone (pattern : Pattern α) (skip : Nat) (text : List Char) : Prop :=
  ∀ front rest, text = front ++ '\n' :: rest → front.length + 1 < skip → pattern true rest = none

/-- The first character is passed over, and then the others. -/
theorem PassesOverNone.tail {skip : Nat} {c : Char} {text : List Char}
    (passes : PassesOverNone pattern (skip + 1) (c :: text)) : PassesOverNone pattern skip text :=
  fun front rest split inside =>
    passes (c :: front) rest (congrArg (c :: ·) split) (Nat.succ_lt_succ inside)

/-- Nothing is to be skipped. -/
theorem passesOverNone_zero (text : List Char) : PassesOverNone pattern 0 text :=
  fun _ _ _ inside => absurd inside (Nat.not_lt_zero _)

/-- **A pattern of items.** It applies at the starts of lines only, and none of its matches passes
over another item. -/
structure IsItem (pattern : Pattern α) : Prop where
  lineBound : LineBound pattern
  empty : pattern true [] = none
  passesOverNone : ∀ {text hit}, pattern true text = some hit →
    PassesOverNone pattern hit.length text

/-- What is of interest in the match that starts at a line start. -/
def at? (pattern : Pattern α) (rest : List Char) : Option α :=
  (pattern true rest).map Hit.value

/-- **The search from anywhere in a document.** It finds what starts at this place, if nothing is to
be skipped and it is a line start, and what starts at the line starts behind it. -/
theorem IsItem.hitsFrom_eq (item : IsItem pattern) (text : List Char) (skip : Nat)
    (lineStart : Bool) (passes : PassesOverNone pattern skip text) :
    hitsFrom pattern skip lineStart text =
      (if skip = 0 ∧ lineStart = true then (pattern.at? text).toList else []) ++
        (afterBreaks text).filterMap pattern.at? := by
  induction text generalizing skip lineStart with
  | nil => simp [hitsFrom, at?, item.empty, afterBreaks]
  | cons c text ih =>
      -- What is found behind the first character, where some of its match may be left to skip.
      have behindFirst (skip : Nat) (passes : PassesOverNone pattern (skip + 1) (c :: text)) :
          hitsFrom pattern skip (c == '\n') text =
            (afterBreaks (c :: text)).filterMap pattern.at? := by
        rw [ih skip _ passes.tail, afterBreaks]
        cases isBreak : c == '\n' with
        | false => simp
        | true =>
            cases skip with
            | zero => cases found : pattern.at? text <;> simp [found]
            | succ skip =>
                have passedOver := passes [] text (by rw [eq_of_beq isBreak, List.nil_append])
                  (by simp)
                have hidden : pattern.at? text = none := by
                  rw [at?, passedOver, Option.map_none]
                simp [hidden]
      cases skip with
      | succ skip => simpa [hitsFrom] using behindFirst skip passes
      | zero =>
          cases applies : pattern lineStart (c :: text) with
          | none =>
              rw [hitsFrom_cons_of_none applies, behindFirst 0 fun _ _ _ inside => by omega]
              cases lineStart with
              | false => simp
              | true => simp [at?, applies]
          | some hit =>
              cases lineStart with
              | false =>
                  rw [item.lineBound] at applies
                  cases applies
              | true =>
                  have passes := item.passesOverNone applies
                  rw [← Nat.sub_add_cancel hit.length_pos] at passes
                  rw [hitsFrom_cons_of_some applies, behindFirst (hit.length - 1) passes]
                  simp [at?, applies]

/-- **The search finds every item once**, in the order of the document. -/
theorem IsItem.hits_eq_filterMap (item : IsItem pattern) (document : List Char) :
    hits pattern document = (lineStarts document).filterMap pattern.at? := by
  rw [hits, item.hitsFrom_eq document 0 true (passesOverNone_zero document), lineStarts]
  cases found : pattern.at? document <;> simp [found]

/-! ### Where the matches start -/

/-- The pattern with the place of a match for what is of interest. -/
def located (pattern : Pattern α) : Pattern (List Char) := fun lineStart text =>
  (pattern lineStart text).map fun hit => ⟨hit.length, text, hit.length_pos⟩

/-- What a document holds from the start of each match on. -/
def starts (pattern : Pattern α) (document : List Char) : List (List Char) :=
  hits (located pattern) document

/-- The places of the matches do not change the search. -/
theorem length_hitsFrom_located (pattern : Pattern α) (text : List Char) (skip : Nat)
    (lineStart : Bool) :
    (hitsFrom (located pattern) skip lineStart text).length =
      (hitsFrom pattern skip lineStart text).length := by
  induction text generalizing skip lineStart with
  | nil => rfl
  | cons c text ih =>
      cases skip with
      | succ skip => exact ih skip _
      | zero =>
          cases applies : pattern lineStart (c :: text) with
          | none =>
              have fails : located pattern lineStart (c :: text) = none := by
                rw [located, applies, Option.map_none]
              rw [hitsFrom_cons_of_none applies, hitsFrom_cons_of_none fails, ih]
          | some hit =>
              have succeeds : located pattern lineStart (c :: text) =
                  some ⟨hit.length, c :: text, hit.length_pos⟩ := by
                rw [located, applies, Option.map_some]
              rw [hitsFrom_cons_of_some applies, hitsFrom_cons_of_some succeeds,
                List.length_cons, List.length_cons, ih]

/-- There are as many starts as there are matches. -/
theorem length_starts (pattern : Pattern α) (document : List Char) :
    (starts pattern document).length = (hits pattern document).length :=
  length_hitsFrom_located pattern document 0 true

/-- The places of items are found where the items are. -/
theorem IsItem.located (item : IsItem pattern) : IsItem (located pattern) where
  lineBound text := by rw [Pattern.located, item.lineBound, Option.map_none]
  empty := by rw [Pattern.located, item.empty, Option.map_none]
  passesOverNone applies front rest split inside := by
    obtain ⟨hit, found, rfl⟩ := Option.map_eq_some_iff.mp applies
    rw [Pattern.located, item.passesOverNone found front rest split inside, Option.map_none]

/-- **The matches of a pattern of items start at the items**, at each of them once. -/
theorem IsItem.starts_eq_filter (item : IsItem pattern) (document : List Char) :
    starts pattern document =
      (lineStarts document).filter fun rest => (pattern true rest).isSome := by
  have place : (Pattern.located pattern).at? =
      Option.guard fun rest => (pattern true rest).isSome := by
    funext rest
    cases applies : pattern true rest <;> simp [at?, Pattern.located, applies, Option.guard]
  rw [starts, item.located.hits_eq_filterMap, place, List.filterMap_eq_filter]

/-- There are as many matches as there are items. -/
theorem IsItem.length_hits (item : IsItem pattern) (document : List Char) :
    (hits pattern document).length =
      (lineStarts document).countP fun rest => (pattern true rest).isSome := by
  rw [← length_starts, item.starts_eq_filter, List.countP_eq_length_filter]

end Pattern

/-! ### Marks -/

/-- The mark of an item is not empty, and white space is no part of it. -/
def IsMark (mark : List Char) : Prop :=
  mark ≠ [] ∧ ∀ c ∈ mark, isBlank c = false

instance (mark : List Char) : Decidable (IsMark mark) :=
  @instDecidableAnd _ _ inferInstance (List.decidableBAll _ mark)

/-- Behind a line break that a match passes over there is more of the match, and this is none of the
mark, as a line break is white space. -/
theorem exists_mem_head?_of_passedOver {mark body behind front rest : List Char}
    (isMark : IsMark mark) (split : mark ++ (body ++ behind) = front ++ '\n' :: rest)
    (inside : front.length + 1 < mark.length + body.length) :
    ∃ c ∈ body, rest.head? = some c := by
  have atBreak : (mark ++ (body ++ behind))[front.length]? = some '\n' := by simp [split]
  have behindMark : mark.length ≤ front.length := by
    refine Nat.le_of_not_lt fun inMark => ?_
    rw [List.getElem?_append_left inMark] at atBreak
    cases isMark.2 '\n' (List.mem_of_getElem? atBreak)
  have next : (mark ++ (body ++ behind))[front.length + 1]? = rest.head? := by
    simp [split, List.head?_eq_getElem?, List.getElem?_append_right]
  rw [List.getElem?_append_right (by omega), List.getElem?_append_left (by omega),
    List.getElem?_eq_getElem (by omega)] at next
  exact ⟨_, List.getElem_mem _, next.symm⟩

/-! ### Marks with white space -/

/-- Whether a text starts with a mark and white space. -/
def startsMarked (mark text : List Char) : Bool :=
  mark.isPrefixOf text && (text.drop mark.length).head?.any isBlank

section Marked

variable {marks : List (List Char)}

/-- **The match of a mark** takes the mark and all the white space behind it. -/
theorem exists_of_marked {text : List Char} {hit : Hit Unit}
    (h : marked marks true text = some hit) :
    ∃ mark ∈ marks, ∃ gap rest, text = mark ++ (gap ++ rest) ∧ gap ≠ [] ∧
      (∀ c ∈ gap, isBlank c = true) ∧ (∀ c ∈ rest.head?, isBlank c = false) ∧
      hit.length = mark.length + gap.length := by
  rw [marked, if_pos rfl] at h
  obtain ⟨mark, mem, found⟩ := List.exists_of_findSome?_eq_some h
  obtain ⟨begins, same⟩ := Option.dite_none_right_eq_some.mp found
  obtain ⟨begins, nonempty⟩ := Bool.and_eq_true_iff.mp begins
  obtain ⟨tail, rfl⟩ := List.isPrefixOf_iff_prefix.mp begins
  have length := congrArg Hit.length (Option.some.inj same)
  simp only [List.drop_left] at nonempty length
  refine ⟨mark, mem, tail.takeWhile isBlank, tail.dropWhile isBlank, ?_, ?_, ?_, ?_, length.symm⟩
  · rw [List.takeWhile_append_dropWhile]
  · exact List.ne_nil_of_length_pos (of_decide_eq_true nonempty)
  · exact fun c mem => List.mem_takeWhile_imp mem
  · intro c first
    have ends := List.head?_dropWhile_not isBlank tail
    rwa [first] at ends

/-- A mark is found where there is one with white space behind it. -/
theorem isSome_marked (text : List Char) :
    (marked marks true text).isSome = marks.any (startsMarked · text) := by
  rw [marked, if_pos rfl, List.isSome_findSome?]
  refine congrArg marks.any (funext fun mark => ?_)
  have run : decide (0 < ((text.drop mark.length).takeWhile isBlank).length) =
      (text.drop mark.length).head?.any isBlank := by
    cases text.drop mark.length with
    | nil => rfl
    | cons c rest => cases blank : isBlank c <;> simp [blank]
  rw [startsMarked, ← run]
  cases begins : mark.isPrefixOf text && _ with
  | true => rw [dif_pos begins, Option.isSome_some]
  | false => rw [dif_neg (Bool.eq_false_iff.mp begins), Option.isSome_none]

/-- A mark is not empty, so its first character is that of the text. -/
theorem marked_eq_none_of_head? (areMarks : ∀ mark ∈ marks, IsMark mark) {text : List Char}
    (unmarked : ∀ c ∈ text.head?, ∀ mark ∈ marks, c ∉ mark) : marked marks true text = none := by
  refine Option.eq_none_iff_forall_ne_some.mpr fun hit applies => ?_
  obtain ⟨mark, mem, gap, rest, rfl, -⟩ := exists_of_marked applies
  obtain ⟨c, more, rfl⟩ := List.exists_cons_of_ne_nil (areMarks mark mem).1
  exact unmarked c rfl _ mem List.mem_cons_self

/-- **Marks make a pattern of items**: what follows a line break in a match is white space. -/
theorem isItem_marked (areMarks : ∀ mark ∈ marks, IsMark mark) : Pattern.IsItem (marked marks) where
  lineBound _ := rfl
  empty := marked_eq_none_of_head? areMarks (by simp)
  passesOverNone {text hit} applies front rest split inside := by
    obtain ⟨mark, mem, gap, behind, rfl, -, blank, -, length⟩ := exists_of_marked applies
    obtain ⟨c, inGap, first⟩ :=
      exists_mem_head?_of_passedOver (areMarks mark mem) split (length ▸ inside)
    refine marked_eq_none_of_head? areMarks fun d isFirst other ofMarks inMark => ?_
    rw [first] at isFirst
    cases isFirst
    cases (blank c inGap).symm.trans ((areMarks other ofMarks).2 c inMark)

/-- The matches of marks start where there is one with white space behind it. -/
theorem starts_marked (areMarks : ∀ mark ∈ marks, IsMark mark) (document : List Char) :
    Pattern.starts (marked marks) document =
      (lineStarts document).filter fun text => marks.any (startsMarked · text) := by
  rw [(isItem_marked areMarks).starts_eq_filter, funext isSome_marked]

/-- There are as many matches of marks as there are line starts with one. -/
theorem length_hits_marked (areMarks : ∀ mark ∈ marks, IsMark mark) (document : List Char) :
    (Pattern.hits (marked marks) document).length =
      (lineStarts document).countP fun text => marks.any (startsMarked · text) := by
  rw [(isItem_marked areMarks).length_hits, funext isSome_marked]

end Marked

/-! ### Headings and bullets -/

/-- Whether a text starts with a heading of a level: with just so many marks, and white space. -/
def startsHeading (level : Nat) (text : List Char) : Bool :=
  (text.takeWhile (· == '#')).length == level && (text.drop level).head?.any isBlank

/-- Whether a text starts with a heading of the second or third level. -/
def startsIdea (text : List Char) : Bool :=
  startsHeading 2 text || startsHeading 3 text

/-- Whether a text starts with a bullet and white space. -/
def startsBullet (text : List Char) : Bool :=
  (text.head?.any fun c => c == '-' || c == '*') && (text.drop 1).head?.any isBlank

/-- White space ends the run of marks. -/
theorem startsMarked_replicate (level : Nat) (text : List Char) :
    startsMarked (List.replicate level '#') text = startsHeading level text := by
  rw [Bool.eq_iff_iff, startsMarked, startsHeading, List.length_replicate, Bool.and_eq_true_iff,
    Bool.and_eq_true_iff, beq_iff_eq, List.isPrefixOf_iff_prefix]
  refine and_congr_left fun blank => ⟨?_, fun length => ?_⟩
  · rintro ⟨rest, rfl⟩
    rw [List.drop_left' List.length_replicate] at blank
    rw [takeWhile_append_of_ends (by simp), List.length_replicate]
    intro c first
    refine beq_false_of_ne fun same => ?_
    rw [first, same] at blank
    cases blank
  · have run : text.takeWhile (· == '#') = List.replicate level '#' :=
      List.eq_replicate_iff.mpr ⟨length, fun c mem => by simpa using List.mem_takeWhile_imp mem⟩
    exact run ▸ List.takeWhile_prefix _

/-- A bullet is one of two marks. -/
theorem startsMarked_bullets (text : List Char) :
    ([['-'], ['*']].any (startsMarked · text)) = startsBullet text := by
  cases text with
  | nil => rfl
  | cons c rest =>
      have one (mark : Char) :
          startsMarked [mark] (c :: rest) = (c == mark && rest.head?.any isBlank) := by
        rw [startsMarked, List.isPrefixOf_cons_cons, List.isPrefixOf_nil_left, Bool.and_true,
          BEq.comm]
        rfl
      rw [List.any_cons, List.any_cons, List.any_nil, Bool.or_false, one, one,
        ← Bool.and_or_distrib_right]
      rfl

/-- **Headings and bullets are counted by line starts.** The matches of the second level start at
just the line starts with a heading of that level, and so do those of both levels and of the
bullets. So each item is counted once: the properties are the headings of the second level, and the
ideas are those of the second and third level, or the bullets if there is no such heading. -/
theorem counts_eq_countP_lineStarts (document : List Char) :
    (Pattern.starts (marked [secondLevel]) document =
        (lineStarts document).filter (startsHeading 2) ∧
      propertyCount document = (lineStarts document).countP (startsHeading 2)) ∧
    Pattern.starts (marked [secondLevel, thirdLevel]) document =
      (lineStarts document).filter startsIdea ∧
    Pattern.starts (marked [['-'], ['*']]) document = (lineStarts document).filter startsBullet ∧
    ideaCount document =
      if 0 < (lineStarts document).countP startsIdea then (lineStarts document).countP startsIdea
      else (lineStarts document).countP startsBullet := by
  have properties : (fun text => [secondLevel].any (startsMarked · text)) = startsHeading 2 := by
    funext text
    exact (Bool.or_false _).trans (startsMarked_replicate 2 text)
  have ideas : (fun text => [secondLevel, thirdLevel].any (startsMarked · text)) = startsIdea := by
    funext text
    rw [startsIdea, ← startsMarked_replicate, ← startsMarked_replicate]
    exact congrArg (startsMarked secondLevel text || ·) (Bool.or_false _)
  have bullets := funext startsMarked_bullets
  have second : ∀ mark ∈ [secondLevel], IsMark mark := by decide
  have secondOrThird : ∀ mark ∈ [secondLevel, thirdLevel], IsMark mark := by decide
  have dashOrStar : ∀ mark ∈ [['-'], ['*']], IsMark mark := by decide
  refine ⟨⟨?_, ?_⟩, ?_, ?_, ?_⟩
  · rw [starts_marked second, properties]
  · rw [propertyCount, length_hits_marked second, properties]
  · rw [starts_marked secondOrThird, ideas]
  · rw [starts_marked dashOrStar, bullets]
  · rw [ideaCount, length_hits_marked secondOrThird, ideas, length_hits_marked dashOrStar, bullets]
    cases (lineStarts document).countP startsIdea with
    | zero => rfl
    | succ n => exact (if_pos n.succ_pos).symm

/-- White space across the ends of lines hides no heading, and one that is indented is none. -/
example : propertyCount "##\n\t\n## a\n ## b\n##\r\n".toList = 3 := by decide

end FleetWatch.Notes
