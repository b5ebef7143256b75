import FleetWatch.Proofs.Notes.Items
import FleetWatch.Proofs.Notes.LastHeading
import FleetWatch.Proofs.Notes.StatedTotal

/-!
# The headings of leads

Where notes state no total, the leads are counted by their headings: a mark of the second level,
white space, and a word. The white space behind the mark may reach over the ends of lines. So a bare
mark, with nothing but white space behind it on its line, is counted too if the next line that is
not blank starts with the word, whatever this line is: a paragraph that starts with it becomes a
heading.

The number of leads is that of the lines that are headings of leads and of these bare marks. In
notes without such a bare mark it is as it is meant.

## Main Definitions

* `startsLead` — a mark, white space and the word
* `isStrayLead` — a bare mark above a line that starts with the word
-/

namespace FleetWatch.Notes

open Text

/-! ### The pattern of the heading of a lead -/

/-- Whether a text starts with the heading of a lead: a mark, white space and the word. -/
def startsLead (text : List Char) : Bool :=
  startsMarked secondLevel text && leadWord.isPrefixOf (trimStart (text.drop 2))

/-- Without a mark there is no heading of a lead. -/
theorem leadHeading_of_unmarked {text : List Char} (fails : marked [secondLevel] true text = none) :
    leadHeading true text = none := by
  rw [leadHeading, fails]
  rfl

/-- **The match at a mark**, by what stands behind its white space. -/
theorem map_length_leadHeading {gap rest : List Char} {mark : Hit Unit}
    (applies : marked [secondLevel] true (secondLevel ++ (gap ++ rest)) = some mark)
    (length : mark.length = secondLevel.length + gap.length) :
    (leadHeading true (secondLevel ++ (gap ++ rest))).map Hit.length =
      if leadWord.isPrefixOf rest then some (secondLevel.length + (gap ++ leadWord).length)
      else none := by
  have behindMatch : (secondLevel ++ (gap ++ rest)).drop mark.length = rest := by
    rw [← List.append_assoc, length, ← List.length_append, List.drop_left]
  rw [leadHeading, applies, List.length_append, ← Nat.add_assoc, ← length]
  simp only [Option.bind_eq_bind, Option.bind_some, behindMatch]
  split <;> rfl

/-- The pattern applies where a heading of a lead starts. -/
theorem isSome_leadHeading (text : List Char) :
    (leadHeading true text).isSome = startsLead text := by
  have isMarked : (marked [secondLevel] true text).isSome = startsMarked secondLevel text :=
    (isSome_marked text).trans (Bool.or_false _)
  cases applies : marked [secondLevel] true text with
  | none =>
      rw [applies] at isMarked
      rw [leadHeading_of_unmarked applies, startsLead, ← isMarked]
      rfl
  | some mark =>
      rw [applies] at isMarked
      obtain ⟨_, mem, gap, rest, rfl, -, blank, ends, length⟩ := exists_of_marked applies
      cases List.mem_singleton.mp mem
      have behindMark : trimStart ((secondLevel ++ (gap ++ rest)).drop 2) = rest :=
        dropWhile_append_of_ends blank ends
      rw [← Option.isSome_map, map_length_leadHeading applies length, startsLead, ← isMarked,
        behindMark]
      cases word : leadWord.isPrefixOf rest <;> rfl

/-- **The match of the heading of a lead** takes the mark, the white space and the word. -/
theorem exists_of_leadHeading {text : List Char} {hit : Hit Unit}
    (h : leadHeading true text = some hit) :
    ∃ gap rest, text = secondLevel ++ ((gap ++ leadWord) ++ rest) ∧
      (∀ c ∈ gap, isBlank c = true) ∧
      hit.length = secondLevel.length + (gap ++ leadWord).length := by
  cases applies : marked [secondLevel] true text with
  | none => cases (leadHeading_of_unmarked applies).symm.trans h
  | some mark =>
      obtain ⟨_, mem, gap, behindGap, rfl, -, blank, -, length⟩ := exists_of_marked applies
      cases List.mem_singleton.mp mem
      have found := map_length_leadHeading applies length
      rw [h, Option.map_some, eq_comm] at found
      obtain ⟨word, same⟩ := Option.ite_none_right_eq_some.mp found
      obtain ⟨rest, rfl⟩ := List.isPrefixOf_iff_prefix.mp word
      exact ⟨gap, rest, by rw [List.append_assoc], blank, (Option.some.inj same).symm⟩

/-- **The headings of leads are items**: neither white space nor the word holds a mark. -/
theorem isItem_leadHeading : Pattern.IsItem leadHeading where
  lineBound _ := rfl
  empty := rfl
  passesOverNone {text hit} applies front rest split inside := by
    obtain ⟨gap, behind, rfl, blank, length⟩ := exists_of_leadHeading applies
    obtain ⟨c, inBody, first⟩ :=
      exists_mem_head?_of_passedOver (by decide) split (length ▸ inside)
    have noMark : c ∉ secondLevel := by
      intro inMark
      obtain rfl : c = '#' := by simpa [secondLevel] using inMark
      rcases List.mem_append.mp inBody with inGap | inWord
      · cases blank '#' inGap
      · exact absurd inWord (by decide)
    refine leadHeading_of_unmarked
      (marked_eq_none_of_head? (by decide) fun d isFirst mark mem => ?_)
    rw [first] at isFirst
    cases isFirst
    rwa [List.mem_singleton.mp mem]

/-! ### Line by line -/

/-- **A bare mark above a line that starts with the word**, with nothing but blank lines between
them. -/
def isStrayLead : List (List Char) → Bool
  | [] => false
  | line :: lines =>
    isBareMark line &&
      (lines.find? fun next => !allBlank next).any fun next => leadWord.isPrefixOf (trimStart next)

/-- White space in front of a text is trimmed with it. -/
theorem trimStart_append_of_allBlank {text : List Char} (blank : allBlank text = true)
    (rest : List Char) : trimStart (text ++ rest) = trimStart rest :=
  List.dropWhile_append_of_pos (List.all_eq_true.mp blank)

/-- What is trimmed of a text that is not blank does not reach what follows. -/
theorem trimStart_append_of_not_allBlank {text : List Char} (blank : allBlank text = false)
    (rest : List Char) : trimStart (text ++ rest) = trimStart text ++ rest := by
  obtain ⟨start, split, isBlank, nonempty, ends⟩ := exists_append_trimStart blank
  conv_lhs => rw [split, List.append_assoc]
  refine dropWhile_append_of_ends isBlank ?_
  rwa [List.head?_append_of_ne_nil _ nonempty]

/-- Behind the white space of some lines there is the first of them that is not blank. -/
theorem isPrefixOf_trimStart_behind (lines : List (List Char)) :
    leadWord.isPrefixOf (trimStart (behind lines)) =
      (lines.find? fun next => !allBlank next).any fun next =>
        leadWord.isPrefixOf (trimStart next) := by
  induction lines with
  | nil => rfl
  | cons next lines ih =>
      have behindBreak : trimStart (behind (next :: lines)) = trimStart (next ++ behind lines) :=
        trimStart_append_of_allBlank (rfl : allBlank ['\n'] = true) _
      rw [behindBreak]
      cases blank : allBlank next with
      | true =>
          rw [trimStart_append_of_allBlank blank, ih, List.find?_cons_of_neg (by simp [blank])]
      | false =>
          rw [trimStart_append_of_not_allBlank blank, isPrefixOf_append_behind (by decide),
            List.find?_cons_of_pos (by simp [blank]), Option.any_some]

/-- A heading of a lead, by what stands behind its mark. -/
theorem startsLead_marked (text : List Char) :
    startsLead ('#' :: '#' :: text) =
      (text.head?.any isBlank && leadWord.isPrefixOf (trimStart text)) := rfl

/-- With a bare mark the word decides, on the first line below that is not blank. -/
theorem startsLead_bareMark {text : List Char} (blank : allBlank text = true)
    (lines : List (List Char)) :
    startsLead ('#' :: '#' :: (text ++ behind lines)) =
      leadWord.isPrefixOf (trimStart (behind lines)) := by
  rw [startsLead_marked, trimStart_append_of_allBlank blank]
  cases word : leadWord.isPrefixOf (trimStart (behind lines)) with
  | false => exact Bool.and_false _
  | true =>
      -- The word is on a line below, so there is a line break behind the mark, if nothing else.
      have apart : (text ++ behind lines).head?.any isBlank = true := by
        cases lines with
        | nil => cases word
        | cons next lines =>
            cases text with
            | nil => rfl
            | cons c text => exact List.all_eq_true.mp blank c List.mem_cons_self
      rw [apart, Bool.and_true]

/-- Behind a text on the line of the mark nothing more is looked at. -/
theorem startsLead_of_not_allBlank {text : List Char} (blank : allBlank text = false)
    (lines : List (List Char)) :
    startsLead ('#' :: '#' :: (text ++ behind lines)) = startsLead ('#' :: '#' :: text) := by
  have nonempty : text ≠ [] := by
    rintro rfl
    cases blank
  rw [startsLead_marked, startsLead_marked, trimStart_append_of_not_allBlank blank,
    isPrefixOf_append_behind (by decide), List.head?_append_of_ne_nil _ nonempty]

/-- **A heading of a lead starts on a line** if the line is one, or if it is a bare mark above a
line that starts with the word, and not both. -/
theorem startsLead_append_behind (line : List Char) (lines : List (List Char)) :
    (if startsLead (line ++ behind lines) then 1 else 0) =
      (if startsLead line then 1 else 0) + if isStrayLead (line :: lines) then 1 else 0 := by
  rcases marked_or_unmarked line with ⟨text, rfl⟩ | unmarked
  · rw [List.cons_append, List.cons_append, isStrayLead, isBareMark_marked]
    cases blank : allBlank text with
    | true =>
        have noLead : startsLead ('#' :: '#' :: text) = false := by
          have alone := startsLead_bareMark blank []
          rw [behind_nil, List.append_nil] at alone
          exact alone
        rw [startsLead_bareMark blank, noLead, isPrefixOf_trimStart_behind]
        simp
    | false =>
        rw [startsLead_of_not_allBlank blank]
        simp
  · have unmarkedText := (isPrefixOf_append_behind (by decide) line lines).trans unmarked
    simp [startsLead, startsMarked, isStrayLead, isBareMark, unmarked, unmarkedText]

/-- **The headings that the search counts**: the lines that are headings of leads, and the bare
marks above a line that starts with the word. -/
theorem countP_startsLead_lineStarts {line : List Char} {lines : List (List Char)}
    (oneLine : ∀ other ∈ line :: lines, '\n' ∉ other) :
    (lineStarts (line ++ behind lines)).countP startsLead =
      (line :: lines).countP startsLead + (line :: lines).tails.countP isStrayLead := by
  induction lines generalizing line with
  | nil =>
      have here := startsLead_append_behind line []
      rw [behind_nil, List.append_nil] at here ⊢
      rw [lineStarts_of_oneLine (oneLine line List.mem_cons_self), List.tails_cons,
        List.countP_cons, here]
      simp [isStrayLead]
  | cons next lines ih =>
      have here := startsLead_append_behind line (next :: lines)
      have others := ih fun other mem => oneLine other (List.mem_cons_of_mem line mem)
      rw [lineStarts_append_behind_cons (oneLine line List.mem_cons_self), List.tails_cons line,
        List.countP_cons, here, others, List.countP_cons (a := line),
        List.countP_cons (a := line :: next :: lines)]
      omega

/-- Where no total is stated, the number of leads is that of the headings that the search counts. -/
theorem leadCount_eq_add_of_unstated {document : List Char}
    (unstated : IsUnstated document) :
    leadCount document =
      (segments '\n' document).countP startsLead +
        (segments '\n' document).tails.countP isStrayLead := by
  have headings : leadCount document = (lineStarts document).countP startsLead := by
    rw [leadCount, hits_statedTotal_eq_nil_iff.mpr unstated, List.head?_nil, Option.bind_none,
      Option.getD_none, isItem_leadHeading.length_hits, funext isSome_leadHeading]
  have oneLine : ∀ line ∈ segments '\n' document, '\n' ∉ line := fun line mem =>
    separator_notMem_of_mem_segments '\n' mem
  cases lines : segments '\n' document with
  | nil => exact absurd lines (segments_ne_nil '\n' document)
  | cons first others =>
      rw [lines] at oneLine
      rw [headings, ← countP_startsLead_lineStarts oneLine, ← eq_append_behind lines]

/-! ### Notes as they are meant -/

/-- **The number of leads in notes that state no total.** It is that of the lines that are headings
of leads and of the bare marks above a line that starts with the word. So it is just the number of
these headings if there is no such bare mark, and only then; in particular if there is no bare
mark. -/
theorem leadCount_eq_countP_iff {document : List Char}
    (unstated : IsUnstated document) :
    leadCount document =
        (segments '\n' document).countP startsLead +
          (segments '\n' document).tails.countP isStrayLead ∧
    (leadCount document = (segments '\n' document).countP startsLead ↔
      ∀ lines, lines <:+ segments '\n' document → isStrayLead lines = false) ∧
    ((∀ line ∈ segments '\n' document, isBareMark line = false) →
      leadCount document = (segments '\n' document).countP startsLead) := by
  have counted := leadCount_eq_add_of_unstated unstated
  have asMeant : leadCount document = (segments '\n' document).countP startsLead ↔
      ∀ lines, lines <:+ segments '\n' document → isStrayLead lines = false := by
    rw [counted, Nat.add_eq_left, List.countP_eq_zero]
    simp only [List.mem_tails, Bool.not_eq_true]
  refine ⟨counted, asMeant, fun noBare => asMeant.mpr fun lines ofDocument => ?_⟩
  cases lines with
  | nil => rfl
  | cons line lines =>
      rw [isStrayLead, noBare line (ofDocument.subset List.mem_cons_self), Bool.false_and]

/-- Notes with headings of leads and of other things, a paragraph that starts with the word, a mark
that is joined to it, and the words of a total without a number. -/
theorem leadCount_eq_countP_iff_mixed :
    let document :=
      ("## Lead: Acme\r\n##\t Lead two\nLead a paragraph\n" ++
        "##Lead\n### Lead\nTotal Leads Found: no\n").toList
    IsUnstated document ∧
      (∀ line ∈ segments '\n' document, isBareMark line = false) ∧ leadCount document = 2 := by
  intro document
  have unstated : IsUnstated document := hits_statedTotal_eq_nil_iff.mp (by decide)
  have noBare : ∀ line ∈ segments '\n' document, isBareMark line = false := by decide
  have two : (segments '\n' document).countP startsLead = 2 := by decide
  exact ⟨unstated, noBare, ((leadCount_eq_countP_iff unstated).2.2 noBare).trans two⟩

/-- **A paragraph below a bare mark is counted**, if it starts with the word. -/
theorem not_forall_leadCount_eq_countP :
    ¬ ∀ document, IsUnstated document →
      leadCount document = (segments '\n' document).countP startsLead := by
  intro asMeant
  have counted := asMeant "##\nLead generation notes\n## Notes\n".toList
    (hits_statedTotal_eq_nil_iff.mp (by decide))
  revert counted
  decide

end FleetWatch.Notes
