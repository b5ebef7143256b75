import FleetWatch.Notes.Counters
import FleetWatch.Proofs.Notes.Lines
import Mathlib.Data.List.TakeWhile

/-!
# The last heading of a note

A heading of the second level is a line with a mark, white space and a text that is not blank. The
search for the last one allows the white space to reach over the ends of lines. So a bare mark, with
nothing but white space behind it on its line, takes the next line that is not blank for its text,
whatever stands there; and at the end of the note it can take a white space for it.

Notes without bare marks are read as they are meant. In general the search is a run over the lines
that remembers whether a bare mark still waits for its text.

## Main Definitions

* `headingText?` — the text of a line that is a heading
* `isBareMark` — a mark without a text
* `lastHeadingLine?` — the text of the last line that is a heading
* `Found`, `found` — what the search finds, line by line

## Design Notes

Between two lines the search has only one thing to remember, the white space behind the bare mark
that waits. With it each line is read once (`found`), and the search through the characters is
followed by induction on the lines: what is left of the document is either the lines that are left,
or a mark, the white space so far and these lines.
-/

namespace FleetWatch.Notes

open Text

/-! ### Headings and bare marks -/

/-- The text of a line that is a heading: a mark, white space, and a text that is not blank. -/
def headingText? (line : List Char) : Option (List Char) :=
  let text := line.drop 2
  if secondLevel.isPrefixOf line && text.head?.any isBlank && !allBlank text then some (trim text)
  else none

/-- A line that is a mark with nothing but white space behind it. -/
def isBareMark (line : List Char) : Bool :=
  secondLevel.isPrefixOf line && allBlank (line.drop 2)

/-- The text of the last line of a document that is a heading. -/
def lastHeadingLine? (document : List Char) : Option (List Char) :=
  ((segments '\n' document).filterMap headingText?).getLast?

/-- What the search finds: a heading with its text, or what stands in for the text that a bare mark
does not have. -/
inductive Found where
  | heading (text : List Char)
  | standIn (text : List Char)

/-- The text that is found. -/
def Found.text : Found → List Char
  | heading text => text
  | standIn text => text

/-- What the search finds in lines, with the white space behind a bare mark that waits for its text,
if one does. The next line that is not blank stands in for this text; at the end of the document a
white space does, if there is one behind the first that is no line break. -/
def found : (waiting : Option (List Char)) → List (List Char) → List Found
  | none, [] => []
  | some gap, [] => if gap.tail.any (· != '\n') then [.standIn []] else []
  | none, line :: lines =>
    match headingText? line with
    | some text => .heading text :: found none lines
    | none => found (if isBareMark line then some (line.drop 2) else none) lines
  | some gap, line :: lines =>
    if allBlank line then found (some (gap ++ '\n' :: line)) lines
    else .standIn (trim line) :: found none lines

section Lines

variable {line : List Char} {lines : List (List Char)}

theorem found_heading {text : List Char} (h : headingText? line = some text) :
    found none (line :: lines) = .heading text :: found none lines := by
  rw [found, h]

theorem found_bareMark (h : headingText? line = none) (bare : isBareMark line = true) :
    found none (line :: lines) = found (some (line.drop 2)) lines := by
  rw [found, h]
  simp only [bare, if_true]

theorem found_other (h : headingText? line = none) (bare : isBareMark line = false) :
    found none (line :: lines) = found none lines := by
  rw [found, h]
  simp only [bare, Bool.false_eq_true, if_false]

theorem found_blank (gap : List Char) (blank : allBlank line = true) :
    found (some gap) (line :: lines) = found (some (gap ++ '\n' :: line)) lines := by
  rw [found, if_pos blank]

theorem found_standIn (gap : List Char) (blank : allBlank line = false) :
    found (some gap) (line :: lines) = .standIn (trim line) :: found none lines := by
  rw [found, if_neg (by simp [blank])]

/-- A line that starts with the mark, by what stands behind it. -/
theorem headingText?_marked (text : List Char) :
    headingText? ('#' :: '#' :: text) =
      if text.head?.any isBlank && !allBlank text then some (trim text) else none := rfl

theorem isBareMark_marked (text : List Char) : isBareMark ('#' :: '#' :: text) = allBlank text :=
  rfl

/-- A line without the mark is no heading and no bare mark. -/
theorem of_unmarked (unmarked : secondLevel.isPrefixOf line = false) :
    headingText? line = none ∧ isBareMark line = false := by
  simp [headingText?, isBareMark, unmarked]

/-- A bare mark is no heading. -/
theorem headingText?_of_isBareMark (bare : isBareMark line = true) : headingText? line = none := by
  rw [isBareMark, Bool.and_eq_true] at bare
  simp [headingText?, bare.2]

/-- A line starts with the mark or not. -/
theorem marked_or_unmarked (line : List Char) :
    (∃ text, line = '#' :: '#' :: text) ∨ secondLevel.isPrefixOf line = false := by
  cases marked : secondLevel.isPrefixOf line with
  | false => exact Or.inr rfl
  | true =>
      obtain ⟨text, rfl⟩ := List.isPrefixOf_iff_prefix.mp marked
      exact Or.inl ⟨text, rfl⟩

/-- A blank line is no heading. -/
theorem headingText?_of_allBlank (blank : allBlank line = true) : headingText? line = none := by
  rcases marked_or_unmarked line with ⟨text, rfl⟩ | unmarked
  · cases List.all_eq_true.mp blank '#' List.mem_cons_self
  · exact (of_unmarked unmarked).1

end Lines

/-! ### The pattern of a heading -/

/-- Headings are found at the starts of lines only. -/
theorem lineBound_heading : Pattern.LineBound heading := by
  intro cs
  rw [heading, dif_neg (by simp)]

/-- Without a mark there is no heading. -/
theorem heading_of_unmarked {lineStart : Bool} {cs : List Char}
    (unmarked : secondLevel.isPrefixOf cs = false) : heading lineStart cs = none := by
  rw [heading, dif_neg (by simp [unmarked])]

/-- **The match at a mark**, by the white space behind it and what follows that. -/
theorem heading_marked (gap rest : List Char) (blank : ∀ c ∈ gap, isBlank c = true)
    (ends : ∀ c ∈ rest.head?, isBlank c = false) :
    (heading true ('#' :: '#' :: (gap ++ rest))).map (fun hit => (hit.length, hit.value)) =
      if gap = [] then none
      else if rest = [] then (lastInline? gap).map fun (before, c) => (2 + before + 1, [c])
      else
        some (2 + gap.length + (rest.takeWhile (· != '\n')).length,
          rest.takeWhile (· != '\n')) := by
  have marked : (true && secondLevel.isPrefixOf ('#' :: '#' :: (gap ++ rest))) = true := rfl
  have run : (gap ++ rest).takeWhile isBlank = gap := takeWhile_append_of_ends blank ends
  have left : ('#' :: '#' :: (gap ++ rest)).drop (2 + gap.length) = rest := by
    rw [Nat.add_comm, List.drop_succ_cons, List.drop_succ_cons, List.drop_left]
  rw [heading, dif_pos marked]
  simp only [List.drop_succ_cons, List.drop_zero, run, left, List.isEmpty_iff]
  split
  · rfl
  · split
    · rw [Option.map_map]
      rfl
    · rfl

/-- White space alone holds no mark. -/
theorem hitsFrom_heading_of_blank {cs : List Char} (blank : ∀ c ∈ cs, isBlank c = true) (skip : Nat)
    (lineStart : Bool) : Pattern.hitsFrom heading skip lineStart cs = [] := by
  induction cs generalizing skip lineStart with
  | nil => rfl
  | cons c cs ih =>
      have rest := ih fun d mem => blank d (List.mem_cons_of_mem c mem)
      cases skip with
      | succ skip => exact rest skip _
      | zero =>
          rcases marked_or_unmarked (c :: cs) with ⟨text, same⟩ | unmarked
          · cases blank '#' (same ▸ List.mem_cons_self)
          · rw [Pattern.hitsFrom_cons_of_none (heading_of_unmarked unmarked), rest]

/-! ### The end of a document -/

/-- A run of white space has a last character that can stand for a text, unless there are only line
breaks behind its first. -/
theorem lastInline?_eq_none_iff {gap : List Char} :
    lastInline? gap = none ↔ gap.tail.any (· != '\n') = false := by
  have characters : (gap.zipIdx.drop 1).map Prod.fst = gap.tail := by
    rw [List.map_drop, List.zipIdx_map_fst, List.drop_one]
  rw [lastInline?, List.findSome?_eq_none_iff, List.any_eq_false, ← characters, List.forall_mem_map]
  simp

/-- What stands for a text is of the run of white space. -/
theorem mem_of_lastInline? {gap : List Char} {before : Nat} {c : Char}
    (h : lastInline? gap = some (before, c)) : c ∈ gap := by
  obtain ⟨⟨d, index⟩, mem, same⟩ := List.exists_of_findSome?_eq_some h
  have ofGap : d ∈ gap :=
    List.fst_mem_of_mem_zipIdx (List.mem_of_mem_drop (List.mem_reverse.mp mem))
  cases isBreak : d == '\n' <;> simp only [isBreak, if_true, reduceCtorEq] at same
  cases same
  exact ofGap

/-- **A bare mark at the end of a document.** -/
theorem hitsFrom_heading_bareMark {gap : List Char} (blank : ∀ c ∈ gap, isBlank c = true) :
    (Pattern.hitsFrom heading 0 true ('#' :: '#' :: gap)).map trim =
      (found (some gap) []).map Found.text := by
  have applies := heading_marked gap [] blank (by simp)
  rw [List.append_nil, if_pos rfl] at applies
  have behindMark := hitsFrom_heading_of_blank blank
  cases inline : lastInline? gap with
  | none =>
      rw [inline, Option.map_none, ite_self, Option.map_eq_none_iff] at applies
      have inMark : Pattern.hitsFrom heading 0 false ('#' :: gap) = [] := by
        rw [Pattern.hitsFrom_cons_of_none (lineBound_heading _), behindMark]
      rw [found, lastInline?_eq_none_iff.mp inline, Pattern.hitsFrom_cons_of_none applies]
      exact congrArg (List.map trim) inMark
  | some last =>
      obtain ⟨before, c⟩ := last
      have ofGap : c ∈ gap := mem_of_lastInline? inline
      have text : gap.tail.any (· != '\n') = true := by
        rw [← Bool.not_eq_false, ← lastInline?_eq_none_iff, inline]
        exact Option.some_ne_none _
      rw [inline, if_neg (List.ne_nil_of_mem ofGap), Option.map_some, Option.map_eq_some_iff]
        at applies
      obtain ⟨hit, applies, form⟩ := applies
      obtain ⟨length, value⟩ := Prod.mk.inj form
      have trimmed : trim [c] = [] := by
        simp [trim, trimStart, trimEnd, blank c ofGap]
      have behindHit : Pattern.hitsFrom heading (hit.length - 1) false ('#' :: gap) = [] := by
        obtain ⟨skip, more⟩ : ∃ skip, hit.length - 1 = skip + 1 := ⟨before + 1, by omega⟩
        rw [more]
        exact behindMark skip _
      rw [found, text, if_pos rfl, Pattern.hitsFrom_cons_of_some applies, List.map_cons, value,
        trimmed]
      exact congrArg ([] :: List.map trim ·) behindHit

/-! ### Trimming the start -/

/-- Trimming the start first makes no difference. -/
theorem trim_trimStart (text : List Char) : trim (trimStart text) = trim text := by
  rw [trim, trim, trimStart, trimStart, List.dropWhile_idempotent]

/-- A text that is not blank is a run of white space and the text without it. -/
theorem exists_append_trimStart {text : List Char} (h : allBlank text = false) :
    ∃ start, text = start ++ trimStart text ∧ (∀ c ∈ start, isBlank c = true) ∧
      trimStart text ≠ [] ∧ ∀ c ∈ (trimStart text).head?, isBlank c = false := by
  refine ⟨text.takeWhile isBlank, List.takeWhile_append_dropWhile.symm,
    fun c mem => List.mem_takeWhile_imp mem, ?_, ?_⟩
  · intro none
    rw [trimStart, List.dropWhile_eq_nil_iff, ← List.all_eq_true] at none
    cases none.symm.trans h
  · intro c first
    have ends := List.head?_dropWhile_not isBlank text
    rw [trimStart] at first
    rwa [first] at ends

/-! ### Line by line -/

/-- **The match of a text on a line.** Behind a mark and some white space the text is the rest of
the line. -/
theorem heading_line {gap line : List Char} (lines : List (List Char))
    (blank : ∀ c ∈ gap, isBlank c = true) (oneLine : '\n' ∉ line) (text : allBlank line = false)
    (apart : gap ≠ [] ∨ line.head?.any isBlank = true) :
    ∃ hit, heading true ('#' :: '#' :: (gap ++ (line ++ behind lines))) = some hit ∧
      hit.length = 2 + gap.length + line.length ∧ hit.value = trimStart line := by
  obtain ⟨start, split, startBlank, nonempty, ends⟩ := exists_append_trimStart text
  have noBreak : '\n' ∉ trimStart line := fun mem =>
    oneLine (split ▸ List.mem_append_right start mem)
  have runBlank : ∀ c ∈ gap ++ start, isBlank c = true := fun c mem =>
    (List.mem_append.mp mem).elim (blank c) (startBlank c)
  have runSome : gap ++ start ≠ [] := by
    intro none
    obtain ⟨noGap, rfl⟩ := List.append_eq_nil_iff.mp none
    obtain ⟨c, first, isBlank⟩ := (Option.any_eq_true _ _).mp (apart.resolve_left (· noGap))
    rw [split] at first
    cases isBlank.symm.trans (ends c first)
  have behindRun : ∀ c ∈ (trimStart line ++ behind lines).head?, isBlank c = false := by
    rw [List.head?_append_of_ne_nil _ nonempty]
    exact ends
  have whole :
      gap ++ (line ++ behind lines) = gap ++ start ++ (trimStart line ++ behind lines) := by
    conv_lhs => rw [split]
    simp only [List.append_assoc]
  have length : line.length = start.length + (trimStart line).length := by
    conv_lhs => rw [split, List.length_append]
  have applies := heading_marked _ _ runBlank behindRun
  rw [← whole, if_neg runSome, if_neg (List.append_ne_nil_of_left_ne_nil nonempty _),
    takeWhile_append_behind noBreak, Option.map_eq_some_iff, List.length_append] at applies
  obtain ⟨hit, applies, form⟩ := applies
  obtain ⟨hitLength, value⟩ := Prod.mk.inj form
  exact ⟨hit, applies, by omega, value⟩

/-- A text that is joined to the mark is none of a heading. -/
theorem heading_joined {text : List Char} (lines : List (List Char)) (blank : allBlank text = false)
    (joined : text.head?.any isBlank = false) :
    heading true ('#' :: '#' :: (text ++ behind lines)) = none := by
  have nonempty : text ≠ [] := by
    rintro rfl
    cases blank
  have ends : ∀ c ∈ (text ++ behind lines).head?, isBlank c = false := by
    rw [List.head?_append_of_ne_nil _ nonempty]
    exact (Option.any_eq_false _ _).mp joined
  have applies := heading_marked [] _ (by simp) ends
  rwa [if_pos rfl, Option.map_eq_none_iff] at applies

/-- Behind the match of a text on a line the search goes on with the next line. -/
theorem hitsFrom_heading_line (gap : List Char) {line : List Char} (lines : List (List Char))
    (blank : ∀ c ∈ gap, isBlank c = true) (oneLine : '\n' ∉ line) (text : allBlank line = false)
    (apart : gap ≠ [] ∨ line.head?.any isBlank = true) :
    Pattern.hitsFrom heading 0 true ('#' :: '#' :: (gap ++ (line ++ behind lines))) =
      trimStart line :: Pattern.hitsFrom heading 0 false (behind lines) := by
  have nonempty : line ≠ [] := by
    rintro rfl
    cases text
  obtain ⟨hit, applies, length, value⟩ := heading_line lines blank oneLine text apart
  obtain ⟨front, last, rfl⟩ : ∃ front last, line = front ++ [last] :=
    ⟨_, _, (List.dropLast_concat_getLast nonempty).symm⟩
  have inline : (last == '\n') = false := by
    refine beq_false_of_ne fun same => oneLine ?_
    simp [same]
  have inMatch : '#' :: '#' :: (gap ++ (front ++ [last] ++ behind lines)) =
      ('#' :: '#' :: (gap ++ front)) ++ last :: behind lines := by
    simp
  rw [inMatch] at applies ⊢
  rw [Pattern.hitsFrom_of_hit applies, value, inline]
  simp only [length, List.length_cons, List.length_append, List.length_nil]
  omega

/-- **What the search finds, line by line**: from the end of a line, and from a bare mark with some
white space behind it. -/
theorem hitsFrom_heading_behind {lines : List (List Char)} (oneLine : ∀ line ∈ lines, '\n' ∉ line) :
    (Pattern.hitsFrom heading 0 false (behind lines)).map trim =
        (found none lines).map Found.text ∧
      ∀ gap, (∀ c ∈ gap, isBlank c = true) →
        (Pattern.hitsFrom heading 0 true ('#' :: '#' :: (gap ++ behind lines))).map trim =
          (found (some gap) lines).map Found.text := by
  induction lines with
  | nil =>
      refine ⟨rfl, fun gap blank => ?_⟩
      rw [behind_nil, List.append_nil]
      exact hitsFrom_heading_bareMark blank
  | cons line lines ih =>
      obtain ⟨next, waiting⟩ := ih fun other mem => oneLine other (List.mem_cons_of_mem line mem)
      have oneLine := oneLine line List.mem_cons_self
      constructor
      · -- Nothing waits: the line is a heading, a bare mark or neither.
        rw [lineBound_heading.hitsFrom_behind_cons]
        rcases marked_or_unmarked line with ⟨text, rfl⟩ | unmarked
        · have oneText : '\n' ∉ text := fun mem => oneLine (by simp [mem])
          have bare := isBareMark_marked text
          have form := headingText?_marked text
          cases blank : allBlank text with
          | true =>
              rw [blank] at bare
              rw [found_bareMark (headingText?_of_isBareMark bare) bare]
              exact waiting text (List.all_eq_true.mp blank)
          | false =>
              cases apart : text.head?.any isBlank with
              | true =>
                  rw [apart, blank] at form
                  rw [found_heading form]
                  have taken := hitsFrom_heading_line [] lines (by simp) oneText blank
                    (Or.inr apart)
                  simp only [List.cons_append, List.nil_append] at taken ⊢
                  rw [taken, List.map_cons, List.map_cons, trim_trimStart, next]
                  rfl
              | false =>
                  rw [apart, Bool.false_and, if_neg Bool.false_ne_true] at form
                  rw [blank] at bare
                  rw [found_other form bare, ← next, lineBound_heading.hitsFrom_of_none oneLine]
                  exact heading_joined lines blank apart
        · obtain ⟨noText, noBare⟩ := of_unmarked unmarked
          rw [found_other noText noBare, ← next, lineBound_heading.hitsFrom_of_none oneLine]
          exact heading_of_unmarked
            ((isPrefixOf_append_behind (by decide) line lines).trans unmarked)
      · -- A bare mark waits: a blank line adds to its white space, any other is its text.
        intro gap gapBlank
        cases blank : allBlank line with
        | true =>
            have more : ∀ c ∈ gap ++ '\n' :: line, isBlank c = true := by
              simpa [or_imp, forall_and] using ⟨gapBlank, rfl, List.all_eq_true.mp blank⟩
            rw [found_blank gap blank, ← waiting _ more, behind_cons, List.append_assoc,
              List.cons_append]
        | false =>
            have more : ∀ c ∈ gap ++ ['\n'], isBlank c = true := by
              simpa [or_imp, forall_and] using ⟨gapBlank, rfl⟩
            have taken := hitsFrom_heading_line _ lines more oneLine blank (Or.inl (by simp))
            rw [List.append_assoc, List.singleton_append, ← behind_cons] at taken
            rw [taken, found_standIn gap blank, List.map_cons, List.map_cons, trim_trimStart, next]
            rfl

/-- **The last heading is the last thing the search finds.** -/
theorem lastHeading?_eq_getLast?_found (document : List Char) :
    lastHeading? document = (found none (segments '\n' document)).getLast?.map Found.text := by
  have oneLine : ∀ line ∈ segments '\n' document, '\n' ∉ line := fun line mem =>
    separator_notMem_of_mem_segments '\n' mem
  rw [← List.getLast?_map, ← (hitsFrom_heading_behind oneLine).1, List.getLast?_map]
  cases lines : segments '\n' document with
  | nil => exact absurd lines (segments_ne_nil '\n' document)
  | cons first others =>
      rw [lineBound_heading.hitsFrom_behind_cons, ← eq_append_behind lines]
      rfl

/-! ### Notes as they are meant -/

/-- Without bare marks the search finds just the headings. -/
theorem found_of_isBareMark_eq_false {lines : List (List Char)}
    (noBare : ∀ line ∈ lines, isBareMark line = false) :
    found none lines = (lines.filterMap headingText?).map .heading := by
  induction lines with
  | nil => rfl
  | cons line lines ih =>
      have ih := ih fun other mem => noBare other (List.mem_cons_of_mem line mem)
      cases h : headingText? line with
      | some text => rw [found_heading h, ih, List.filterMap_cons_some h, List.map_cons]
      | none => rw [found_other h (noBare line List.mem_cons_self), ih, List.filterMap_cons_none h]

/-- **Unless it stands in for a text, the last thing found is the text of the last heading.** -/
theorem getLast?_found {waiting : Option (List Char)} {lines : List (List Char)}
    (noStandIn : ∀ text, (found waiting lines).getLast? ≠ some (.standIn text)) :
    (found waiting lines).getLast?.map Found.text = (lines.filterMap headingText?).getLast? := by
  induction lines generalizing waiting with
  | nil =>
      cases waiting with
      | none => rfl
      | some gap =>
          cases inline : gap.tail.any (· != '\n') with
          | true =>
              rw [found, if_pos inline] at noStandIn
              exact absurd rfl (noStandIn [])
          | false =>
              rw [found, inline]
              rfl
  | cons line lines ih =>
      cases waiting with
      | none =>
          cases h : headingText? line with
          | some text =>
              rw [found_heading h, List.getLast?_cons] at noStandIn ⊢
              have ih := @ih none fun other last => noStandIn other (by rw [last, Option.getD_some])
              rw [List.filterMap_cons_some h, List.getLast?_cons, ← ih, Option.map_some]
              exact congrArg some (Option.getD_map Found.text (.heading text) _).symm
          | none =>
              rw [List.filterMap_cons_none h]
              cases bare : isBareMark line with
              | true =>
                  rw [found_bareMark h bare] at noStandIn ⊢
                  exact ih noStandIn
              | false =>
                  rw [found_other h bare] at noStandIn ⊢
                  exact ih noStandIn
      | some gap =>
          cases blank : allBlank line with
          | true =>
              rw [found_blank gap blank] at noStandIn ⊢
              rw [List.filterMap_cons_none (headingText?_of_allBlank blank)]
              exact ih noStandIn
          | false =>
              rw [found_standIn gap blank, List.getLast?_cons] at noStandIn ⊢
              cases last : (found none lines).getLast? with
              | none => exact absurd (by rw [last, Option.getD_none]) (noStandIn (trim line))
              | some other =>
                  have ih := @ih none fun text standIn =>
                    noStandIn text (by rw [standIn, Option.getD_some])
                  rw [last, Option.map_some] at ih
                  cases h : headingText? line with
                  | some text =>
                      rw [List.filterMap_cons_some h, List.getLast?_cons, ← ih]
                      rfl
                  | none =>
                      rw [List.filterMap_cons_none h, ← ih]
                      rfl

/-- **The last heading of a note.** The search gives the last of what it finds, line by line. This
is the text of the last line that is a heading, unless it stands in for the text of a bare mark; and
in notes without bare marks it always is. -/
theorem lastHeading?_eq_lastHeadingLine?_iff (document : List Char) :
    lastHeading? document = (found none (segments '\n' document)).getLast?.map Found.text ∧
    (lastHeading? document = lastHeadingLine? document ↔
      ∀ text, (found none (segments '\n' document)).getLast? = some (.standIn text) →
        lastHeadingLine? document = some text) ∧
    ((∀ line ∈ segments '\n' document, isBareMark line = false) →
      lastHeading? document = lastHeadingLine? document) := by
  have law := lastHeading?_eq_getLast?_found document
  refine ⟨law, ⟨fun same text last => ?_, fun standsIn => ?_⟩, fun noBare => ?_⟩
  · rw [← same, law, last]
    rfl
  · by_cases standIn : ∃ text,
        (found none (segments '\n' document)).getLast? = some (.standIn text)
    · obtain ⟨text, last⟩ := standIn
      rw [standsIn text last, law, last]
      rfl
    · rw [law]
      exact getLast?_found (not_exists.mp standIn)
  · rw [law, found_of_isBareMark_eq_false noBare, lastHeadingLine?, List.getLast?_map,
      Option.map_map]
    exact Option.map_id_apply

/-- In a log with ordinary headings, white space at the ends of its lines and headings of other
levels, the last heading is that of the last line that is one. -/
theorem lastHeading?_eq_lastHeadingLine?_log :
    let document := "# Log\r\n\r\n## Monday \r\n##Tuesday\n##\t Friday  \r\n### Notes\n".toList
    (∀ line ∈ segments '\n' document, isBareMark line = false) ∧
      lastHeading? document = some "Friday".toList ∧
      lastHeading? document = lastHeadingLine? document := by
  intro document
  have noBare : ∀ line ∈ segments '\n' document, isBareMark line = false := by decide
  have friday : lastHeadingLine? document = some "Friday".toList := by decide
  have same := (lastHeading?_eq_lastHeadingLine?_iff document).2.2 noBare
  exact ⟨noBare, same.trans friday, same⟩

/-- **A bare mark takes the heading behind it for its text**, with the mark of that heading. -/
theorem not_forall_lastHeading?_eq :
    ¬ ∀ document, lastHeading? document = lastHeadingLine? document := by
  intro same
  have searched : lastHeading? "## First\n##\n## Second\n".toList = some "## Second".toList := by
    decide
  have written : lastHeadingLine? "## First\n##\n## Second\n".toList = some "Second".toList := by
    decide
  rw [same, written] at searched
  revert searched
  decide

end FleetWatch.Notes
